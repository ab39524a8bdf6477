import E2bInfra.S3.Read

/-!
# Ranged reads of an S3 object

`Object.ReadAt(b, off)` sends `GetObject` with the header `bytes=off-(off+len(b)-1)` and reads
the body into `b` with `readAllFromResponse`. The answer of `GetObject` follows the range
rules of HTTP. For a non-empty buffer whose range fits `int64`, every run returns the bytes of
the object from `off` on, and a read cut short by the end of the object returns `nil` with
fewer bytes than `len(b)`, since `readAllFromResponse` takes `io.EOF` for success.
-/

namespace E2bInfra.S3

/-- `int64(x)`: `x` wrapped into the range of Go's `int64`. -/
def toInt64 (x : ℤ) : ℤ := (x + 2 ^ 63) % 2 ^ 64 - 2 ^ 63

/-- The answer of `GetObject` to the header `bytes=first-last` on an object of content `c`,
by the range rules of HTTP: a range whose last byte comes before its first is malformed and
the header is ignored, so the whole object comes back; a first byte at or past the end is not
satisfiable, an error; otherwise the bytes from `first` to `last`, cut at the end. -/
def getObject (c : GoString) (first last : ℤ) : Except String GoString :=
  if last < first then .ok c
  else if (c.length : ℤ) ≤ first then .error "InvalidRange"
  else .ok ((c.drop first.toNat).take (last + 1 - first).toNat)

/-- `Object.ReadAt(b, off)` on an object of content `c`, up to its first read: the error of
`GetObject` returned at once, or the loop of `readAllFromResponse` on the body it streams. -/
def readAt (c b : GoString) (off : ℤ) : ReadConfig :=
  match getObject c off (toInt64 (off + b.length - 1)) with
  | .error e => .returned b 0 (some ("创建S3读取器失败: " ++ e))
  | .ok body => readAllFromResponse body b

theorem toInt64_of_lt {x : ℤ} (h0 : -2 ^ 63 ≤ x) (h1 : x < 2 ^ 63) : toInt64 x = x := by
  rw [toInt64, Int.emod_eq_of_lt (by omega) (by omega)]
  omega

/-- A run that has returned stays where it is. -/
theorem eq_of_reaches_returned {buffer : GoString} {n : ℕ} {err : Option String} {c : ReadConfig}
    (h : Relation.ReflTransGen ReadStep (.returned buffer n err) c) : c = .returned buffer n err := by
  induction h with
  | refl => rfl
  | tail _ hstep ih => subst ih; cases hstep

/-- With `off` before the end, a non-empty buffer whose range fits `int64` streams the bytes
of the object from `off`, as many as the buffer holds or the object has. -/
theorem readAt_of_lt {c b : GoString} {off : ℤ} (hoff : 0 ≤ off) (hb : b ≠ [])
    (hfit : off + b.length ≤ 2 ^ 63) (hlt : off < c.length) :
    readAt c b off = readAllFromResponse ((c.drop off.toNat).take b.length) b := by
  have hlen : 0 < b.length := List.length_pos.mpr hb
  rw [readAt, toInt64_of_lt (by omega) (by omega), getObject, if_neg (by omega),
    if_neg (by omega), show (off + b.length - 1 + 1 - off).toNat = b.length by omega]

/-- With `off` at or past the end, `ReadAt` returns the error of `GetObject` at once. -/
theorem readAt_of_le {c b : GoString} {off : ℤ} (hb : b ≠ []) (hfit : off + b.length ≤ 2 ^ 63)
    (hle : c.length ≤ off) :
    readAt c b off = .returned b 0 (some ("创建S3读取器失败: " ++ "InvalidRange")) := by
  have hlen : 0 < b.length := List.length_pos.mpr hb
  rw [readAt, toInt64_of_lt (by omega) (by omega), getObject, if_neg (by omega), if_pos hle]

/-- `ReadAt` into a non-empty buffer `b` at an offset `off ≥ 0` whose range
`off + len(b)` fits `int64`: every run returns, with `n ≤ len(b)` bytes of the object from
`off` at the start of `b`. The error is `nil` exactly when `off` is before the end, and then
`n = min(len(b), |c| - off)`: a read that meets the end of the object returns fewer bytes
than `len(b)` with a `nil` error. -/
theorem readAt_returns {c b : GoString} {off : ℤ} (hoff : 0 ≤ off) (hb : b ≠ [])
    (hfit : off + b.length ≤ 2 ^ 63) :
    Terminates (readAt c b off) ∧
      (∃ buffer n err, Relation.ReflTransGen ReadStep (readAt c b off) (.returned buffer n err)) ∧
      ∀ buffer n err, Relation.ReflTransGen ReadStep (readAt c b off) (.returned buffer n err) →
        n ≤ b.length ∧ buffer.take n = (c.drop off.toNat).take n ∧ buffer.length = b.length ∧
          (err = none ↔ off < c.length) ∧
          (off < c.length → n = min b.length (c.length - off.toNat)) := by
  by_cases hlt : off < c.length
  · rw [readAt_of_lt hoff hb hfit hlt]
    have hbody : ((c.drop off.toNat).take b.length).length ≤ b.length := by simp
    have hterm := terminates_of_inv hbody _ (ReadLoop.inv_start _ _)
    refine ⟨hterm, exists_returned_of_terminates hterm, fun buffer n err h => ?_⟩
    obtain ⟨hlen, rfl, rfl, htake⟩ := ReadLoop.inv_of_reaches h
    refine ⟨hbody, ?_, hlen, by simp [hlt], fun _ => by simp⟩
    rw [htake, List.take_eq_take]
    simp
  · rw [readAt_of_le hb hfit (by omega)]
    refine ⟨terminates_returned _ _ _, ⟨_, _, _, .refl⟩, fun buffer n err h => ?_⟩
    cases eq_of_reaches_returned h
    simp [hlt]

theorem readAt_returns_at_end :
    Terminates (readAt [1, 2, 3] [0, 0, 0, 0] 1) ∧
      (∃ buffer n err, Relation.ReflTransGen ReadStep (readAt [1, 2, 3] [0, 0, 0, 0] 1)
        (.returned buffer n err)) ∧
      ∀ buffer n err, Relation.ReflTransGen ReadStep (readAt [1, 2, 3] [0, 0, 0, 0] 1)
        (.returned buffer n err) →
        n ≤ [0, 0, 0, 0].length ∧ buffer.take n = ([1, 2, 3].drop (1 : ℤ).toNat).take n ∧
          buffer.length = [0, 0, 0, 0].length ∧ (err = none ↔ (1 : ℤ) < [1, 2, 3].length) ∧
          ((1 : ℤ) < [1, 2, 3].length →
            n = min [0, 0, 0, 0].length ([1, 2, 3].length - (1 : ℤ).toNat)) :=
  readAt_returns (by decide) (by decide) (by decide)

/-- A read of four bytes at offset one of a three-byte object can return two bytes with a
`nil` error, so the error is not `nil` only when all of `b` is filled. -/
theorem readAt_short_read_without_error :
    ¬ ∀ buffer n err, Relation.ReflTransGen ReadStep (readAt [1, 2, 3] [0, 0, 0, 0] 1)
      (.returned buffer n err) → err = none → n = 4 := fun h =>
  absurd (h _ 2 none (.single (@ReadStep.read ⟨[0, 0, 0, 0], 0, [2, 3]⟩ ⟨2, some .eof⟩
    (.lastChunk (by decide) (by decide)))) rfl) (by decide)

end E2bInfra.S3
