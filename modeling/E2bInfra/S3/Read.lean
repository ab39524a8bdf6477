import E2bInfra.Proxy.ParseUint
import Mathlib.Logic.Relation

/-!
# Reading a response body into a buffer

`readAllFromResponse` calls `body.Read(buffer[totalRead:])` until a read returns an error,
and takes `io.EOF` for success. The body is an `io.Reader`, so each call may deliver any
chunk the reader contract allows: the loop is a step relation over those answers, and every
fact below holds for every chunking. When the body fits the buffer, every run returns the
whole body. When it does not, the loop goes on reading into an empty slice, which a Go HTTP
body answers with `(0, nil)`, and no run returns.

A transport may also fail a read, after copying some bytes. The loop then returns at once with
the count so far and the error wrapped. Every run with such failures returns too when the body
fits the buffer, with the body's first bytes in the buffer, and with `nil` only when it has read
the whole body.
-/

namespace E2bInfra.S3

/-- The error a `Read` returns with its bytes: `io.EOF`, or a failure of the transport. -/
inductive ReadError
  | eof
  | failed (msg : String)
  deriving DecidableEq, Repr

/-- The answer of one `body.Read(p)`: the count of bytes it copied into `p`, and its error. -/
structure ReadResult where
  n : ℕ
  err : Option ReadError
  deriving DecidableEq, Repr

/-- `copy(buffer[off:], src)` for a `src` that fits the slice. -/
def writeAt (buffer : GoString) (off : ℕ) (src : GoString) : GoString :=
  buffer.take off ++ src ++ buffer.drop (off + src.length)

/-- The state of `readAllFromResponse` at the top of its loop: the caller's buffer, the count
`totalRead`, and the bytes of the body that no read has delivered yet. -/
structure ReadLoop where
  buffer : GoString
  totalRead : ℕ
  unread : GoString
  deriving DecidableEq, Repr

/-- A run of the loop: at the top of the loop, or returned with `(totalRead, err)` and the
buffer as the reads left it. -/
inductive ReadConfig
  | running (s : ReadLoop)
  | returned (buffer : GoString) (n : ℕ) (err : Option String)
  deriving DecidableEq, Repr

/-- The slice `buffer[totalRead:]` the next read fills, by its length. -/
def ReadLoop.space (s : ReadLoop) : ℕ := s.buffer.length - s.totalRead

/-- One pass of the loop body on the answer `r` of `body.Read(buffer[totalRead:])`, which
copied the next `r.n` bytes of the body to the start of the slice. -/
def ReadLoop.next (s : ReadLoop) (r : ReadResult) : ReadConfig :=
  let buffer := writeAt s.buffer s.totalRead (s.unread.take r.n)
  let totalRead := s.totalRead + r.n
  match r.err with
  | none => .running ⟨buffer, totalRead, s.unread.drop r.n⟩
  | some .eof => .returned buffer totalRead none
  | some (.failed msg) => .returned buffer totalRead (some ("从响应体读取失败: " ++ msg))

/-- The answers a Go HTTP body gives to a `Read` into a slice of `space` bytes while `unread`
is left: one to `space` next bytes, with `io.EOF` only beside the last ones; `(0, nil)` for
an empty slice while bytes are left; `(0, io.EOF)` once the body is exhausted. -/
inductive ReadAllowed : GoString → ℕ → ReadResult → Prop
  | chunk {unread : GoString} {space n : ℕ} :
      0 < n → n ≤ space → n ≤ unread.length → ReadAllowed unread space ⟨n, none⟩
  | lastChunk {unread : GoString} {space : ℕ} :
      unread ≠ [] → unread.length ≤ space → ReadAllowed unread space ⟨unread.length, some .eof⟩
  | emptySlice {unread : GoString} : unread ≠ [] → ReadAllowed unread 0 ⟨0, none⟩
  | exhausted {space : ℕ} : ReadAllowed [] space ⟨0, some .eof⟩

/-- One iteration of the loop, for any answer the body may give. -/
inductive ReadStep : ReadConfig → ReadConfig → Prop
  | read {s : ReadLoop} {r : ReadResult} :
      ReadAllowed s.unread s.space r → ReadStep (.running s) (s.next r)

/-- `readAllFromResponse(body, buffer)` before its first read. -/
def readAllFromResponse (body buffer : GoString) : ReadConfig := .running ⟨buffer, 0, body⟩

/-- Every run from `c` is finite. -/
def Terminates (c : ReadConfig) : Prop := Acc (fun c' c => ReadStep c c') c

theorem length_writeAt {buffer src : GoString} {off : ℕ}
    (h : off + src.length ≤ buffer.length) : (writeAt buffer off src).length = buffer.length := by
  simp only [writeAt, List.length_append, List.length_take, List.length_drop]
  omega

theorem take_writeAt {buffer src : GoString} {off : ℕ} (h : off ≤ buffer.length) :
    (writeAt buffer off src).take (off + src.length) = buffer.take off ++ src := by
  have hlen : (buffer.take off).length = off := by simp [h]
  rw [writeAt, List.append_assoc, List.take_append_eq_append_take, hlen, List.take_of_length_le
    (by omega), Nat.add_sub_cancel_left, List.take_append_eq_append_take]
  simp

theorem writeAt_nil {buffer : GoString} {off : ℕ} : writeAt buffer off [] = buffer := by
  simp [writeAt]

/-- What every state of the loop keeps, for a body `body` read into a buffer of length `L`:
the buffer keeps its length, the count stays within the buffer and the body, the bytes read
so far are the body's first bytes at the start of the buffer, and the rest is unread. -/
structure ReadLoop.Inv (body : GoString) (L : ℕ) (s : ReadLoop) : Prop where
  length_eq : s.buffer.length = L
  le_length : s.totalRead ≤ L
  le_body : s.totalRead ≤ body.length
  unread_eq : s.unread = body.drop s.totalRead
  take_eq : s.buffer.take s.totalRead = body.take s.totalRead

/-- The invariant of a run: a returned run has read the whole body, with no error. -/
def ReadConfig.Inv (body : GoString) (L : ℕ) : ReadConfig → Prop
  | .running s => s.Inv body L
  | .returned buffer n err => buffer.length = L ∧ err = none ∧ n = body.length ∧ buffer.take n = body

theorem ReadLoop.inv_start (body buffer : GoString) :
    (readAllFromResponse body buffer).Inv body buffer.length :=
  ⟨rfl, Nat.zero_le _, Nat.zero_le _, rfl, rfl⟩

/-- Copying the next `n` bytes of the body into the slice keeps the invariant, when they fit
the slice and the body has them. -/
theorem ReadLoop.Inv.advance {body : GoString} {L : ℕ} {s : ReadLoop} (hi : s.Inv body L)
    {n : ℕ} (hspace : n ≤ L - s.totalRead) (hn : n ≤ s.unread.length) :
    ReadLoop.Inv body L ⟨writeAt s.buffer s.totalRead (s.unread.take n), s.totalRead + n,
      s.unread.drop n⟩ := by
  obtain ⟨hlen, hle, hbody, hunread, htake⟩ := hi
  have hfit : (s.unread.take n).length = n := List.length_take_of_le hn
  have hnb : s.totalRead + n ≤ body.length := by
    rw [hunread, List.length_drop] at hn; omega
  refine ⟨?_, ?_, hnb, ?_, ?_⟩ <;> dsimp only
  · rw [length_writeAt (by omega)]; exact hlen
  · omega
  · simp [hunread, List.drop_drop, Nat.add_comm]
  · have h := @take_writeAt s.buffer (s.unread.take n) s.totalRead (by omega)
    rw [hfit] at h
    rw [h, htake, hunread, List.take_add]

/-- One read keeps the invariant, for each answer the body may give. -/
theorem ReadStep.inv {body : GoString} {L : ℕ} {c c' : ReadConfig} (h : ReadStep c c')
    (hi : c.Inv body L) : c'.Inv body L := by
  obtain ⟨hr⟩ := h
  rename_i s r
  obtain ⟨buffer, totalRead, unread⟩ := s
  obtain ⟨hlen, hle, hbody, hunread, htake⟩ := hi
  dsimp only at hlen hle hbody hunread htake
  have hspace : ReadLoop.space ⟨buffer, totalRead, unread⟩ = L - totalRead := by
    rw [ReadLoop.space, hlen]
  generalize ReadLoop.space _ = space at hr hspace
  cases hr with
  | @chunk _ _ n hn hle' hchunk =>
    exact ReadLoop.Inv.advance ⟨hlen, hle, hbody, hunread, htake⟩ (hspace ▸ hle') hchunk
  | lastChunk hne hle' =>
    dsimp only at hne hle'
    have hlt : totalRead < body.length := by
      rw [hunread] at hne; simpa using hne
    have hsum : totalRead + unread.length = body.length := by
      rw [hunread, List.length_drop]; omega
    dsimp only [ReadConfig.Inv, ReadLoop.next]
    rw [List.take_of_length_le le_rfl]
    refine ⟨by rw [length_writeAt (by omega)]; exact hlen, rfl, hsum, ?_⟩
    rw [take_writeAt (by omega), htake, hunread, List.take_append_drop]
  | emptySlice hne =>
    dsimp only [ReadConfig.Inv, ReadLoop.next]
    simpa [writeAt_nil] using (⟨hlen, hle, hbody, hunread, htake⟩ :
      ReadLoop.Inv body L ⟨buffer, totalRead, unread⟩)
  | exhausted =>
    have hge : body.length ≤ totalRead := by simpa using hunread.symm
    dsimp only [ReadConfig.Inv, ReadLoop.next]
    simp only [List.take_nil, writeAt_nil, Nat.add_zero, true_and]
    exact ⟨hlen, by omega, by rw [htake, List.take_of_length_le hge]⟩

/-- The invariant holds in every state of every run of `readAllFromResponse`. -/
theorem ReadLoop.inv_of_reaches {body buffer : GoString} {c : ReadConfig}
    (h : Relation.ReflTransGen ReadStep (readAllFromResponse body buffer) c) :
    c.Inv body buffer.length := by
  induction h with
  | refl => exact ReadLoop.inv_start body buffer
  | tail _ hstep ih => exact hstep.inv ih

/-- A run that has returned takes no more steps. -/
theorem terminates_returned (buffer : GoString) (n : ℕ) (err : Option String) :
    Terminates (.returned buffer n err) :=
  ⟨_, fun _ h => by cases h⟩

/-- Every state of the loop can take a step: the body always has an answer to give. -/
theorem ReadLoop.exists_step (s : ReadLoop) : ∃ c, ReadStep (.running s) c := by
  by_cases hu : s.unread = []
  · exact ⟨_, .read (hu ▸ ReadAllowed.exhausted)⟩
  · by_cases hspace : s.space = 0
    · exact ⟨_, .read (hspace ▸ ReadAllowed.emptySlice hu)⟩
    · exact ⟨_, .read (ReadAllowed.chunk Nat.one_pos (by omega)
        (List.length_pos.mpr hu))⟩

/-- A run that is finite reaches a returned state: every state of the loop can step. -/
theorem exists_returned_of_terminates {c : ReadConfig} (h : Terminates c) :
    ∃ buffer n err, Relation.ReflTransGen ReadStep c (.returned buffer n err) := by
  induction h with
  | intro c _ ih =>
    cases c with
    | running s =>
      obtain ⟨c', hstep⟩ := s.exists_step
      obtain ⟨buffer, n, err, h⟩ := ih c' hstep
      exact ⟨buffer, n, err, .head hstep h⟩
    | returned buffer n err => exact ⟨buffer, n, err, .refl⟩

/-- The measure the loop decreases when the body fits the buffer: the unread bytes. -/
def ReadConfig.measure : ReadConfig → ℕ
  | .running s => s.unread.length + 1
  | .returned .. => 0

/-- When the body fits the buffer, each step either returns or delivers at least one byte:
an empty slice is never read while bytes are left. -/
theorem ReadStep.measure_lt {body : GoString} {L : ℕ} (hfit : body.length ≤ L)
    {c c' : ReadConfig} (h : ReadStep c c') (hi : c.Inv body L) : c'.measure < c.measure := by
  obtain ⟨hr⟩ := h
  rename_i s r
  obtain ⟨buffer, totalRead, unread⟩ := s
  obtain ⟨hlen, hle, hbody, hunread, htake⟩ := hi
  dsimp only at hlen hunread
  have hspace : ReadLoop.space ⟨buffer, totalRead, unread⟩ = L - totalRead := by
    rw [ReadLoop.space, hlen]
  generalize ReadLoop.space _ = space at hr hspace
  cases hr with
  | chunk hn _ hchunk =>
    simp only [ReadLoop.next, ReadConfig.measure, List.length_drop]
    dsimp only at hchunk; omega
  | lastChunk => simp [ReadLoop.next, ReadConfig.measure]
  | emptySlice hne =>
    rw [hunread, ne_eq, List.drop_eq_nil_iff] at hne
    omega
  | exhausted => simp [ReadLoop.next, ReadConfig.measure]

/-- When the body fits the buffer, every run from a state of the invariant is finite. -/
theorem terminates_of_inv {body : GoString} {L : ℕ} (hfit : body.length ≤ L) :
    ∀ c : ReadConfig, c.Inv body L → Terminates c := by
  intro c hc
  obtain ⟨k, h⟩ : ∃ k, c.measure = k := ⟨_, rfl⟩
  induction k using Nat.strong_induction_on generalizing c with
  | _ k ih =>
    constructor
    intro c' hstep
    exact ih _ (h ▸ hstep.measure_lt hfit hc) c' (hstep.inv hc) rfl

/-- A run that returns has read the whole body into the buffer, so the body fits it. -/
theorem length_le_of_reaches_returned {body buffer buffer' : GoString} {n : ℕ}
    {err : Option String}
    (h : Relation.ReflTransGen ReadStep (readAllFromResponse body buffer) (.returned buffer' n err)) :
    body.length ≤ buffer.length := by
  obtain ⟨hlen, -, rfl, htake⟩ := ReadLoop.inv_of_reaches h
  have h' := congrArg List.length htake
  simp only [List.length_take] at h'
  omega

/-- When the body is longer than the buffer, no run of `readAllFromResponse` returns, and
every state reached can still step: the loop reads into `buffer[len(buffer):]` forever. -/
theorem not_terminates_of_length_lt {body buffer : GoString} (hlong : buffer.length < body.length) :
    ¬ Terminates (readAllFromResponse body buffer) := by
  suffices ∀ c, Terminates c →
      Relation.ReflTransGen ReadStep (readAllFromResponse body buffer) c → False from
    fun hacc => this _ hacc .refl
  intro c hacc
  induction hacc with
  | intro c _ ih =>
    intro hreach
    cases c with
    | running s =>
      obtain ⟨c', hstep⟩ := s.exists_step
      exact ih c' hstep (hreach.tail hstep)
    | returned => exact absurd (length_le_of_reaches_returned hreach) (by omega)

/-- For every body and every chunking, each state of `readAllFromResponse` slices the buffer
within its length, keeps that length, and holds the body's first `totalRead` bytes at its
start. -/
theorem readAllFromResponse_within_buffer {body buffer : GoString} {s : ReadLoop}
    (h : Relation.ReflTransGen ReadStep (readAllFromResponse body buffer) (.running s)) :
    s.totalRead ≤ buffer.length ∧ s.buffer.length = buffer.length ∧
      s.buffer.take s.totalRead = body.take s.totalRead :=
  let hi : s.Inv body buffer.length := ReadLoop.inv_of_reaches h
  ⟨hi.le_length, hi.length_eq, hi.take_eq⟩

theorem readAllFromResponse_within_buffer_after_chunk :
    (⟨[7, 0, 0], 1, [8]⟩ : ReadLoop).totalRead ≤ 3 ∧ [7, 0, 0].length = 3 ∧
      [7, 0, 0].take 1 = ([7, 8] : GoString).take 1 :=
  @readAllFromResponse_within_buffer [7, 8] [0, 0, 0] _
    (.single (@ReadStep.read ⟨[0, 0, 0], 0, [7, 8]⟩ ⟨1, none⟩ (.chunk (by decide) (by decide) (by decide))))

/-- When the body fits the buffer, every run of `readAllFromResponse` returns, whatever the
chunking: with no error, the count `len(body)`, and the body at the start of the buffer. -/
theorem readAllFromResponse_returns_body {body buffer : GoString}
    (hfit : body.length ≤ buffer.length) :
    Terminates (readAllFromResponse body buffer) ∧
      (∃ buffer' n err, Relation.ReflTransGen ReadStep (readAllFromResponse body buffer)
        (.returned buffer' n err)) ∧
      ∀ buffer' n err, Relation.ReflTransGen ReadStep (readAllFromResponse body buffer)
        (.returned buffer' n err) →
        err = none ∧ n = body.length ∧ buffer'.take n = body ∧ buffer'.length = buffer.length := by
  have hterm := terminates_of_inv hfit _ (ReadLoop.inv_start body buffer)
  refine ⟨hterm, exists_returned_of_terminates hterm, fun buffer' n err h => ?_⟩
  obtain ⟨hlen, herr, hn, htake⟩ := ReadLoop.inv_of_reaches h
  exact ⟨herr, hn, htake, hlen⟩

theorem readAllFromResponse_returns_two_bytes :
    Terminates (readAllFromResponse [1, 2] [0, 0, 0]) ∧
      (∃ buffer' n err, Relation.ReflTransGen ReadStep (readAllFromResponse [1, 2] [0, 0, 0])
        (.returned buffer' n err)) ∧
      ∀ buffer' n err, Relation.ReflTransGen ReadStep (readAllFromResponse [1, 2] [0, 0, 0])
        (.returned buffer' n err) →
        err = none ∧ n = [1, 2].length ∧ buffer'.take n = [1, 2] ∧ buffer'.length = [0, 0, 0].length :=
  readAllFromResponse_returns_body (by decide)

/-- When the body is longer than the buffer, no run of `readAllFromResponse` returns, and some
run goes on forever: once the buffer is full, every read is into an empty slice. -/
theorem readAllFromResponse_never_returns {body buffer : GoString}
    (hlong : buffer.length < body.length) :
    ¬ Terminates (readAllFromResponse body buffer) ∧
      ∀ buffer' n err, ¬ Relation.ReflTransGen ReadStep (readAllFromResponse body buffer)
        (.returned buffer' n err) :=
  ⟨not_terminates_of_length_lt hlong, fun _ _ _ h =>
    absurd (length_le_of_reaches_returned h) (Nat.not_le.mpr hlong)⟩

theorem readAllFromResponse_never_returns_one_byte :
    ¬ Terminates (readAllFromResponse [0, 0] [0]) ∧
      ∀ buffer' n err, ¬ Relation.ReflTransGen ReadStep (readAllFromResponse [0, 0] [0])
        (.returned buffer' n err) :=
  readAllFromResponse_never_returns (by decide)

/-- `readAllFromResponse` with a one-byte body and an empty buffer never returns. -/
theorem readAllFromResponse_spins_on_empty_buffer :
    ¬ Terminates (readAllFromResponse [0] []) ∧
      ∀ buffer' n err, ¬ Relation.ReflTransGen ReadStep (readAllFromResponse [0] [])
        (.returned buffer' n err) :=
  ⟨not_terminates_of_length_lt (by decide), fun _ _ _ h =>
    absurd (length_le_of_reaches_returned h) (by decide)⟩

/-! ## Reads that may fail -/

/-- The answers of a body whose transport may fail: an answer of a sound body, or a failure
after the read copied up to `space` next bytes. -/
inductive FallibleRead : GoString → ℕ → ReadResult → Prop
  | allowed {unread : GoString} {space : ℕ} {r : ReadResult} :
      ReadAllowed unread space r → FallibleRead unread space r
  | failed {unread : GoString} {space n : ℕ} (msg : String) :
      n ≤ space → n ≤ unread.length → FallibleRead unread space ⟨n, some (.failed msg)⟩

/-- One iteration of the loop, for any answer of a body whose transport may fail. -/
inductive FallibleStep : ReadConfig → ReadConfig → Prop
  | read {s : ReadLoop} {r : ReadResult} :
      FallibleRead s.unread s.space r → FallibleStep (.running s) (s.next r)

/-- Every run from `c`, with reads that may fail, is finite. -/
def FallibleTerminates (c : ReadConfig) : Prop := Acc (fun c' c => FallibleStep c c') c

/-- The invariant of a run whose reads may fail: a returned run holds the body's first `n`
bytes at the start of the buffer; it has read the whole body when it returns `nil`, and its
error is otherwise the failure of a read. -/
def ReadConfig.FallibleInv (body : GoString) (L : ℕ) : ReadConfig → Prop
  | .running s => s.Inv body L
  | .returned buffer n err => buffer.length = L ∧ n ≤ body.length ∧
      buffer.take n = body.take n ∧ (err = none → n = body.length) ∧
      ∀ e ∈ err, ∃ msg, e = "从响应体读取失败: " ++ msg

theorem ReadConfig.Inv.fallibleInv {body : GoString} {L : ℕ} {c : ReadConfig}
    (h : c.Inv body L) : c.FallibleInv body L := by
  cases c with
  | running s => exact h
  | returned buffer n err =>
    obtain ⟨hlen, rfl, rfl, htake⟩ := h
    exact ⟨hlen, le_rfl, by rw [htake, List.take_length], fun _ => rfl, fun e he => by cases he⟩

/-- One read keeps the invariant, also when it fails: the bytes it copied are the body's next
ones. -/
theorem FallibleStep.inv {body : GoString} {L : ℕ} {c c' : ReadConfig} (h : FallibleStep c c')
    (hi : c.FallibleInv body L) : c'.FallibleInv body L := by
  obtain ⟨hr⟩ := h
  rename_i s r
  cases hr with
  | allowed hr => exact (ReadStep.inv (.read hr) hi).fallibleInv
  | @failed n msg hspace hn =>
    have hi : s.Inv body L := hi
    have hspace' : n ≤ L - s.totalRead := by
      have := hi.length_eq
      unfold ReadLoop.space at hspace
      omega
    have ha := hi.advance hspace' hn
    exact ⟨ha.length_eq, ha.le_body, ha.take_eq, (fun h => by cases h),
      fun e he => ⟨msg, (Option.some.inj he).symm⟩⟩

theorem FallibleStep.inv_of_reaches {body buffer : GoString} {c : ReadConfig}
    (h : Relation.ReflTransGen FallibleStep (readAllFromResponse body buffer) c) :
    c.FallibleInv body buffer.length := by
  induction h with
  | refl => exact ReadLoop.inv_start body buffer
  | tail _ hstep ih => exact hstep.inv ih

/-- A run that has returned stays where it is. -/
theorem eq_of_fallible_reaches_returned {buffer : GoString} {n : ℕ} {err : Option String}
    {c : ReadConfig} (h : Relation.ReflTransGen FallibleStep (.returned buffer n err) c) :
    c = .returned buffer n err := by
  induction h with
  | refl => rfl
  | tail _ hstep ih => subst ih; cases hstep

/-- When the body fits the buffer, each step returns or delivers a byte, failed reads too. -/
theorem FallibleStep.measure_lt {body : GoString} {L : ℕ} (hfit : body.length ≤ L)
    {c c' : ReadConfig} (h : FallibleStep c c') (hi : c.FallibleInv body L) :
    c'.measure < c.measure := by
  obtain ⟨hr⟩ := h
  cases hr with
  | allowed hr => exact ReadStep.measure_lt hfit (.read hr) hi
  | failed => simp [ReadLoop.next, ReadConfig.measure]

/-- When the body fits the buffer, every run with failing reads from a state of the invariant
is finite. -/
theorem fallibleTerminates_of_inv {body : GoString} {L : ℕ} (hfit : body.length ≤ L) :
    ∀ c : ReadConfig, c.FallibleInv body L → FallibleTerminates c := by
  intro c hc
  obtain ⟨k, h⟩ : ∃ k, c.measure = k := ⟨_, rfl⟩
  induction k using Nat.strong_induction_on generalizing c with
  | _ k ih =>
    constructor
    intro c' hstep
    exact ih _ (h ▸ hstep.measure_lt hfit hc) c' (hstep.inv hc) rfl

/-- A finite run with failing reads reaches a returned state. -/
theorem exists_returned_of_fallibleTerminates {c : ReadConfig} (h : FallibleTerminates c) :
    ∃ buffer n err, Relation.ReflTransGen FallibleStep c (.returned buffer n err) := by
  induction h with
  | intro c _ ih =>
    cases c with
    | running s =>
      obtain ⟨c', ⟨hr⟩⟩ := s.exists_step
      obtain ⟨buffer, n, err, h⟩ := ih _ (.read (.allowed hr))
      exact ⟨buffer, n, err, .head (.read (.allowed hr)) h⟩
    | returned buffer n err => exact ⟨buffer, n, err, .refl⟩

end E2bInfra.S3
