import Mathlib.Tactic.NormNum

/-!
# The decimal port of `ParseHost`

`ParseHost` reads the port with `strconv.ParseUint(s, 10, 64)`. This file models that call
byte for byte, with the cutoff test and the wrap-around test of its digit loop, and proves
that it accepts exactly the non-empty strings of decimal digits whose value is below `2^64`.
-/

namespace E2bInfra

/-- The bytes of a Go `string`. -/
abbrev GoString := List UInt8

/-- The errors of `strconv.ParseUint`: a byte that is not a digit of the base, or a value
past the bit size. -/
inductive NumError
  | errSyntax
  | errRange
  deriving DecidableEq, Repr

/-- `maxVal` of `ParseUint` at bit size 64. -/
def maxUint64 : ℕ := 2 ^ 64 - 1

/-- The `cutoff` of base ten: the smallest value whose product with ten exceeds `maxUint64`. -/
def cutoff : ℕ := maxUint64 / 10 + 1

/-- `lower(c)` of `strconv`: sets the bit `'x' - 'X'`, which lowers ASCII letters. -/
def lower (c : UInt8) : UInt8 := c ||| 0x20

/-- The digit value the loop of `ParseUint` reads from a byte: `'0'` to `'9'`, or a letter
as a digit of the bases up to 36; `none` for any other byte. -/
def digitOf (c : UInt8) : Option ℕ :=
  if 48 ≤ c.toNat ∧ c.toNat ≤ 57 then some (c.toNat - 48)
  else if 97 ≤ (lower c).toNat ∧ (lower c).toNat ≤ 122 then some ((lower c).toNat - 97 + 10)
  else none

/-- The digit loop of `strconv.ParseUint` in base ten at bit size 64, from the value `n`
read so far. Both multiplication and addition wrap modulo `2^64`, as `uint64` does. -/
def parseUintDigits : ℕ → GoString → Except NumError ℕ
  | n, [] => .ok n
  | n, c :: cs =>
    match digitOf c with
    | none => .error .errSyntax
    | some d =>
      if 10 ≤ d then .error .errSyntax
      else if cutoff ≤ n then .error .errRange
      else
        let n := n * 10 % 2 ^ 64
        let n1 := (n + d) % 2 ^ 64
        if n1 < n ∨ maxUint64 < n1 then .error .errRange
        else parseUintDigits n1 cs

/-- `strconv.ParseUint(s, 10, 64)`. The value it returns beside an error is not modelled:
`ParseHost` drops it. -/
def parseUint (s : GoString) : Except NumError ℕ :=
  if s = [] then .error .errSyntax else parseUintDigits 0 s

/-- A byte of `'0'` to `'9'`. -/
def isDigit (c : UInt8) : Bool := 48 ≤ c.toNat && c.toNat ≤ 57

/-- The value of a string of decimal digits, read on from the value `n`. -/
def decimalValue (n : ℕ) (s : GoString) : ℕ := s.foldl (fun n c => n * 10 + (c.toNat - 48)) n

@[simp] theorem decimalValue_nil (n : ℕ) : decimalValue n [] = n := rfl

@[simp] theorem decimalValue_cons (n : ℕ) (c : UInt8) (s : GoString) :
    decimalValue n (c :: s) = decimalValue (n * 10 + (c.toNat - 48)) s := rfl

theorem decimalValue_append (n : ℕ) (s t : GoString) :
    decimalValue n (s ++ t) = decimalValue (decimalValue n s) t := by
  simp [decimalValue, List.foldl_append]

/-- Reading more digits never lowers the value. -/
theorem le_decimalValue (n : ℕ) (s : GoString) : n ≤ decimalValue n s := by
  induction s generalizing n with
  | nil => rfl
  | cons c s ih => rw [decimalValue_cons]; exact le_trans (by omega) (ih _)

theorem digitOf_of_isDigit {c : UInt8} (hc : isDigit c) : digitOf c = some (c.toNat - 48) := by
  simp only [isDigit, Bool.and_eq_true, decide_eq_true_eq] at hc
  simp [digitOf, hc]

/-- A byte that is not a decimal digit has no digit value below ten. -/
theorem ten_le_of_digitOf {c : UInt8} {d : ℕ} (hc : isDigit c = false) (hd : digitOf c = some d) :
    10 ≤ d := by
  simp only [isDigit, Bool.and_eq_false_iff, decide_eq_false_iff_not, not_le] at hc
  unfold digitOf at hd
  split_ifs at hd with h1 h2
  · omega
  · cases hd; omega

theorem two_pow_sixty_four : (2 : ℕ) ^ 64 = 18446744073709551616 := by norm_num

/-- One digit of the loop: it goes on from `n * 10 + d` while that stays below `2^64`, and
fails with `ErrRange` otherwise, whichever of its two overflow tests fires. -/
theorem parseUintDigits_cons_of_isDigit {n : ℕ} {c : UInt8} {cs : GoString} (hc : isDigit c) :
    parseUintDigits n (c :: cs) =
      if n * 10 + (c.toNat - 48) < 2 ^ 64 then parseUintDigits (n * 10 + (c.toNat - 48)) cs
      else .error .errRange := by
  have hd : c.toNat - 48 < 10 := by
    simp only [isDigit, Bool.and_eq_true, decide_eq_true_eq] at hc; omega
  simp only [parseUintDigits, digitOf_of_isDigit hc, cutoff, maxUint64, two_pow_sixty_four]
  split_ifs <;> first | rfl | omega | (congr 1; omega)

theorem parseUintDigits_cons_of_not_isDigit {n : ℕ} {c : UInt8} {cs : GoString}
    (hc : isDigit c = false) : parseUintDigits n (c :: cs) = .error .errSyntax := by
  cases hd : digitOf c with
  | none => simp [parseUintDigits, hd]
  | some d => simp [parseUintDigits, hd, ten_le_of_digitOf hc hd]

/-- The digit loop succeeds exactly on digit strings whose value stays below `2^64`. -/
theorem parseUintDigits_eq_ok {n m : ℕ} {s : GoString} (hn : n < 2 ^ 64) :
    parseUintDigits n s = .ok m ↔ (∀ c ∈ s, isDigit c) ∧ decimalValue n s = m ∧ m < 2 ^ 64 := by
  induction s generalizing n with
  | nil =>
    simp only [parseUintDigits, Except.ok.injEq, List.not_mem_nil, decimalValue_nil]
    constructor
    · rintro rfl; exact ⟨fun _ h => h.elim, rfl, hn⟩
    · exact fun h => h.2.1
  | cons c cs ih =>
    cases hc : isDigit c with
    | false =>
      simp only [parseUintDigits_cons_of_not_isDigit hc, List.mem_cons, forall_eq_or_imp, hc]
      simp
    | true =>
      rw [parseUintDigits_cons_of_isDigit hc]
      simp only [List.mem_cons, forall_eq_or_imp, hc, true_and, decimalValue_cons]
      split_ifs with hlt
      · exact ih hlt
      · have hle := le_decimalValue (n * 10 + (c.toNat - 48)) cs
        simp only [reduceCtorEq, false_iff, not_and]
        omega

/-- `ParseUint(s, 10, 64)` succeeds exactly on the non-empty strings of decimal digits
whose value is below `2^64`, and returns that value. Leading zeros are accepted. -/
theorem parseUint_eq_ok {s : GoString} {m : ℕ} :
    parseUint s = .ok m ↔ s ≠ [] ∧ (∀ c ∈ s, isDigit c) ∧ decimalValue 0 s = m ∧ m < 2 ^ 64 := by
  unfold parseUint
  split_ifs with hs
  · simp [hs]
  · simp only [ne_eq, hs, not_false_eq_true, true_and]
    exact parseUintDigits_eq_ok (by positivity)

end E2bInfra
