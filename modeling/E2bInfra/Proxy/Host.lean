import E2bInfra.Go.Strings
import E2bInfra.Proxy.ParseUint

/-!
# Parsing the sandbox host

`ParseHost` splits a host of the form `<port>-<sandboxID>.<domain>` on `'-'`, takes the
longest alphanumeric prefix of the second piece as the sandbox ID, and parses the first piece
as a decimal port. Its accepted hosts are characterised here exactly, for every byte string:
a decimal port below `2^64`, a dash, a non-empty alphanumeric ID, and a rest that does not go
on with a letter or digit.
-/

namespace E2bInfra.Proxy

/-- The two errors of `ParseHost`: `ErrInvalidHost` and `ErrInvalidSandboxPort`. -/
inductive HostError
  | invalidHost
  | invalidSandboxPort
  deriving DecidableEq, Repr

/-- The byte `'-'`. -/
def dash : UInt8 := 45

/-- The byte `'.'`. -/
def dot : UInt8 := 46

/-- `strings.Split(s, sep)` for a separator of one byte: the pieces between its occurrences.
A byte string without `sep` is one piece. -/
def split (s : GoString) (sep : UInt8) : List GoString := s.splitOn sep

/-- Membership in the class `[a-zA-Z0-9]`. -/
def isAlnum (c : UInt8) : Bool :=
  isDigit c || (65 ≤ c.toNat && c.toNat ≤ 90) || (97 ≤ c.toNat && c.toNat ≤ 122)

/-- `sandboxIDPattern.FindString(s)` for the pattern `^[a-zA-Z0-9]+`: the longest prefix of
ASCII letters and digits, empty when there is none. A byte past ASCII never matches the class,
so reading the string as bytes or as UTF-8 runes gives the same prefix. -/
def sandboxIDPatternFindString (s : GoString) : GoString := s.takeWhile isAlnum

/-- `ParseHost`, without its log lines. The dot-split fallback of the source is kept; it is
reached only with an empty `sandboxID`, which the test before it has already refused. -/
def parseHost (host : GoString) : Except HostError (GoString × ℕ) :=
  match split host dash with
  | sandboxPortString :: sandboxIDWithDomain :: _ =>
    let matched := sandboxIDPatternFindString sandboxIDWithDomain
    if matched = [] then .error .invalidHost
    else
      let sandboxID :=
        if matched = [] then (split sandboxIDWithDomain dot).headD [] else matched
      match parseUint sandboxPortString with
      | .ok sandboxPort => .ok (sandboxID, sandboxPort)
      | .error _ => .error .invalidSandboxPort
  | _ => .error .invalidHost

theorem dash_not_isAlnum : isAlnum dash = false := by decide

theorem dot_not_isAlnum : isAlnum dot = false := by decide

theorem ne_dash_of_isDigit {c : UInt8} (hc : isDigit c) : c ≠ dash := by
  rintro rfl; exact absurd hc (by decide)

theorem isAlnum_of_isDigit {c : UInt8} (hc : isDigit c) : isAlnum c := by
  simp [isAlnum, hc]

/-- The alphanumeric prefix of the second piece is the alphanumeric prefix of all that
follows the first dash, since a dash is not alphanumeric. -/
theorem takeWhile_isAlnum_takeWhile (s : GoString) :
    (s.takeWhile (· != dash)).takeWhile isAlnum = s.takeWhile isAlnum := by
  induction s with
  | nil => rfl
  | cons c s ih =>
    by_cases hc : c = dash
    · subst hc; simp [dash_not_isAlnum]
    · cases ha : isAlnum c <;> simp [hc, ha, ih]

/-- `ParseHost` on a host whose first dash ends the prefix `d`: the ID is the alphanumeric
prefix of what follows the dash, and the port is `d` read by `ParseUint`. -/
theorem parseHost_append_dash {d : GoString} (hd : dash ∉ d) (rest : GoString) :
    parseHost (d ++ dash :: rest) =
      if rest.takeWhile isAlnum = [] then .error .invalidHost
      else match parseUint d with
        | .ok port => .ok (rest.takeWhile isAlnum, port)
        | .error _ => .error .invalidSandboxPort := by
  obtain ⟨tl, htl⟩ := @splitOn_eq_takeWhile_cons _ _ _ dash rest
  simp only [parseHost, split, splitOn_append_cons hd, htl, sandboxIDPatternFindString,
    takeWhile_isAlnum_takeWhile]
  split_ifs <;> rfl

theorem parseHost_of_dash_not_mem {host : GoString} (h : dash ∉ host) :
    parseHost host = .error .invalidHost := by
  simp [parseHost, split, splitOn_of_not_mem h]

/-- The alphanumeric prefix of `s ++ r` is `s` when `s` is alphanumeric and `r` does not go
on with a letter or digit. -/
theorem takeWhile_isAlnum_append {s r : GoString} (hs : ∀ c ∈ s, isAlnum c)
    (hr : ∀ c ∈ r.head?, isAlnum c = false) : (s ++ r).takeWhile isAlnum = s := by
  rw [List.takeWhile_append_of_pos hs]
  cases r with
  | nil => simp
  | cons c r => simp [hr c rfl]

/-- The shape of an accepted host: `d ++ "-" ++ sandboxID ++ r`, with `d` a non-empty decimal
whose value `port` is below `2^64`, `sandboxID` non-empty alphanumeric, and `r` empty or
starting with a byte that is neither an ASCII letter nor a digit. -/
structure HostShape (host sandboxID : GoString) (port : ℕ) (d r : GoString) : Prop where
  eq : host = d ++ dash :: (sandboxID ++ r)
  port_ne_nil : d ≠ []
  port_digits : ∀ c ∈ d, isDigit c
  port_value : decimalValue 0 d = port
  port_lt : port < 2 ^ 64
  id_ne_nil : sandboxID ≠ []
  id_alnum : ∀ c ∈ sandboxID, isAlnum c
  rest_head : ∀ c ∈ r.head?, isAlnum c = false

theorem HostShape.dash_not_mem {host sandboxID d r : GoString} {port : ℕ}
    (h : HostShape host sandboxID port d r) : dash ∉ d :=
  fun hd => ne_dash_of_isDigit (h.port_digits dash hd) rfl

/-- The port digits are the prefix of the host before its first dash. -/
theorem HostShape.port_eq {host sandboxID d r : GoString} {port : ℕ}
    (h : HostShape host sandboxID port d r) : d = host.takeWhile (· != dash) := by
  have hd : ∀ c ∈ d, (c != dash) = true := fun c hc => by
    simpa using ne_dash_of_isDigit (h.port_digits c hc)
  rw [h.eq, List.takeWhile_append_of_pos hd, List.takeWhile_cons_of_neg (by simp)]
  exact (List.append_nil d).symm

/-- `ParseHost` accepts a host, with a given ID and port, exactly when the host has the shape
`HostShape` for them. -/
theorem parseHost_eq_ok_iff {host sandboxID : GoString} {port : ℕ} :
    parseHost host = .ok (sandboxID, port) ↔ ∃ d r, HostShape host sandboxID port d r := by
  constructor
  · intro hok
    by_cases hmem : dash ∈ host
    · obtain ⟨rest, hrest⟩ := eq_takeWhile_append_cons hmem
      rw [hrest, parseHost_append_dash (not_mem_takeWhile_ne host)] at hok
      split_ifs at hok with hid
      split at hok
      · rename_i p hp
        simp only [Except.ok.injEq, Prod.mk.injEq] at hok
        obtain ⟨rfl, rfl⟩ := hok
        obtain ⟨hne, hdigits, hvalue, hlt⟩ := parseUint_eq_ok.mp hp
        refine ⟨_, rest.dropWhile isAlnum, hrest.trans ?_, hne, hdigits, hvalue, hlt, hid,
          fun c hc => List.mem_takeWhile_imp hc, fun c hc => ?_⟩
        · rw [List.takeWhile_append_dropWhile]
        · have hnot := List.head?_dropWhile_not isAlnum rest
          rw [Option.mem_def.mp hc] at hnot
          exact hnot
      · cases hok
    · rw [parseHost_of_dash_not_mem hmem] at hok
      cases hok
  · rintro ⟨d, r, h⟩
    rw [h.eq, parseHost_append_dash h.dash_not_mem, takeWhile_isAlnum_append h.id_alnum h.rest_head,
      if_neg h.id_ne_nil, (parseUint_eq_ok.mpr ⟨h.port_ne_nil, h.port_digits, h.port_value, h.port_lt⟩)]

/-- The byte of a decimal digit. -/
def digitByte (k : ℕ) : UInt8 := (k + 48).toUInt8

theorem toNat_digitByte {k : ℕ} (hk : k < 10) : (digitByte k).toNat = k + 48 := by
  simp only [digitByte, Nat.toUInt8, UInt8.ofNat, UInt8.toNat, BitVec.toNat_ofNat]
  omega

/-- `strconv.FormatUint(p, 10)`: the decimal digits of `p`, most significant first, with no
leading zero. -/
def formatUint (p : ℕ) : GoString :=
  (if h : p < 10 then [] else formatUint (p / 10)) ++ [digitByte (p % 10)]
termination_by p
decreasing_by omega

theorem formatUint_ne_nil (p : ℕ) : formatUint p ≠ [] := by
  rw [formatUint]; simp

theorem isDigit_of_mem_formatUint {p : ℕ} {c : UInt8} (hc : c ∈ formatUint p) : isDigit c := by
  induction p using Nat.strong_induction_on with
  | _ p ih =>
    rw [formatUint] at hc
    rcases List.mem_append.mp hc with hc | hc
    · split_ifs at hc with hp
      · simp at hc
      · exact ih _ (by omega) hc
    · rw [List.mem_singleton.mp hc]
      simp [isDigit, toNat_digitByte (Nat.mod_lt p (by norm_num))]
      omega

theorem decimalValue_formatUint (p : ℕ) : decimalValue 0 (formatUint p) = p := by
  induction p using Nat.strong_induction_on with
  | _ p ih =>
    rw [formatUint, decimalValue_append]
    split_ifs with hp
    · simp [toNat_digitByte (Nat.mod_lt p (by norm_num))]; omega
    · simp [ih _ (by omega : p / 10 < p), toNat_digitByte (Nat.mod_lt p (by norm_num))]; omega

/-- A host has at most one decomposition of the shape `HostShape`. -/
theorem HostShape.unique {host sandboxID sandboxID' d d' r r' : GoString} {port port' : ℕ}
    (h : HostShape host sandboxID port d r) (h' : HostShape host sandboxID' port' d' r') :
    sandboxID = sandboxID' ∧ port = port' ∧ d = d' ∧ r = r' := by
  have hok := parseHost_eq_ok_iff.mpr ⟨d', r', h'⟩
  rw [parseHost_eq_ok_iff.mpr ⟨d, r, h⟩, Except.ok.injEq, Prod.mk.injEq] at hok
  obtain ⟨rfl, rfl⟩ := hok
  have hd : d = d' := h.port_eq.trans h'.port_eq.symm
  subst hd
  have heq := h.eq.symm.trans h'.eq
  simp only [List.append_cancel_left_eq, List.cons.injEq, true_and] at heq
  exact ⟨rfl, rfl, rfl, heq⟩

/-- `ParseHost` returns `(sandboxID, port, nil)` exactly for the hosts of shape
`d ++ "-" ++ sandboxID ++ r` (decimal `d` of value `port < 2^64`, non-empty alphanumeric
`sandboxID`, `r` not going on with a letter or digit); that shape is unique; so every
`decimal(p) ++ "-" ++ s ++ "." ++ domain` parses to `(s, p)`. -/
theorem parseHost_accepts_exactly :
    (∀ host sandboxID port, parseHost host = .ok (sandboxID, port) ↔
      ∃ d r, HostShape host sandboxID port d r) ∧
    (∀ host sandboxID sandboxID' port port' d d' r r',
      HostShape host sandboxID port d r → HostShape host sandboxID' port' d' r' →
        sandboxID = sandboxID' ∧ port = port' ∧ d = d' ∧ r = r') ∧
    ∀ (p : UInt64) (s domain : GoString), s ≠ [] → (∀ c ∈ s, isAlnum c) →
      parseHost (formatUint p.toNat ++ dash :: (s ++ dot :: domain)) = .ok (s, p.toNat) :=
  ⟨fun _ _ _ => parseHost_eq_ok_iff,
    fun _ _ _ _ _ _ _ _ _ h h' => h.unique h',
    fun p s domain hs halnum => parseHost_eq_ok_iff.mpr ⟨formatUint p.toNat, dot :: domain,
      { eq := rfl
        port_ne_nil := formatUint_ne_nil _
        port_digits := fun _ hc => isDigit_of_mem_formatUint hc
        port_value := decimalValue_formatUint _
        port_lt := p.toNat_lt_size
        id_ne_nil := hs
        id_alnum := halnum
        rest_head := by simpa using dot_not_isAlnum }⟩⟩

end E2bInfra.Proxy
