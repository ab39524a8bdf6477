import E2bInfra.S3.Object

/-!
# The objects of the template bucket

An `Object` names one key of the template bucket. `ReadFrom`, `Upload` and `UploadWithCli` put
a whole object, `Delete` removes it, and `Size`, `WriteTo` and `ReadAt` read it. A write either
fails and leaves the bucket as it was, or has its whole effect, so over every run of calls the
bucket holds at each key what the last successful write to it left: the bucket is a map in
which the last write wins. A `ReadAt` after a run, of a range within that content, always
returns, whatever chunking the response body uses and whichever of its reads fail: with a `nil`
error it has filled the buffer with exactly the bytes of the range, and otherwise it returns
the error of `GetObject` or of the failed read, with the bytes of the range read before it.
-/

namespace E2bInfra.S3

/-- The template bucket, by the content of each key: `none` where there is no object. -/
def Bucket := String → Option GoString

/-- The bucket with `key` holding `c`, or no object when `c` is `none`. -/
def Bucket.put (b : Bucket) (key : String) (c : Option GoString) : Bucket :=
  fun k => if k = key then c else b k

@[simp] theorem Bucket.put_apply (b : Bucket) (key k : String) (c : Option GoString) :
    b.put key c k = if k = key then c else b k := rfl

/-- `Object`, by its key; the bucket handle is the template bucket. -/
structure Object where
  key : String
  deriving DecidableEq, Repr

/-- `NewObject(ctx, bucket, objectPath)`. -/
def newObject (objectPath : String) : Object := ⟨objectPath⟩

/-- `Object.Delete` (lines 65-80), with `err` the error of `DeleteObject`, which succeeds on a
missing key too. -/
def Object.delete (o : Object) (b : Bucket) (err : Option String) : Option String × Bucket :=
  match err with
  | some e => (some ("删除S3对象失败: " ++ e), b)
  | none => (none, b.put o.key none)

/-- `Object.Size` (lines 82-97), with `err` an error of `HeadObject` on the way; on a missing key
`HeadObject` answers `NotFound`. -/
def Object.size (o : Object) (b : Bucket) (err : Option String) : Except String ℕ :=
  match err, b o.key with
  | some e, _ => .error ("获取S3对象(" ++ o.key ++ ")属性失败: " ++ e)
  | none, none => .error ("获取S3对象(" ++ o.key ++ ")属性失败: " ++ "NotFound")
  | none, some c => .ok c.length

/-- `Object.WriteTo(dst)` (lines 101-116) into a writer that takes every byte: what `dst`
receives and the count `io.Copy` returns. On a missing key `GetObject` answers `NoSuchKey`. -/
def Object.writeTo (o : Object) (b : Bucket) (err : Option String) :
    Except String (GoString × ℕ) :=
  match err, b o.key with
  | some e, _ => .error ("下载S3对象失败: " ++ e)
  | none, none => .error ("下载S3对象失败: " ++ "NoSuchKey")
  | none, some c => .ok (c, c.length)

/-- `Object.ReadFrom(src)` (lines 118-134): the upload manager reads `src` to its end and puts it
as the object, or fails with `err` and puts nothing. The count is 0 either way. -/
def Object.readFrom (o : Object) (b : Bucket) (src : GoString) (err : Option String) :
    (ℕ × Option String) × Bucket :=
  match err with
  | some e => ((0, some ("上传到S3失败: " ++ e)), b)
  | none => ((0, none), b.put o.key (some src))

/-- `Object.ReadAt(b, off)` (lines 136-155) on the bucket, with `err` an error of `GetObject` on
the way: on a missing key `GetObject` answers `NoSuchKey`, else the ranged read of `readAt` on
the object's content, whose body reads may fail (`FallibleStep`). -/
def Object.readAt (o : Object) (bucket : Bucket) (b : GoString) (off : ℤ) (err : Option String) :
    ReadConfig :=
  match err, bucket o.key with
  | some e, _ => .returned b 0 (some ("创建S3读取器失败: " ++ e))
  | none, none => .returned b 0 (some ("创建S3读取器失败: " ++ "NoSuchKey"))
  | none, some c => S3.readAt c b off

/-- `Object.Upload(ctx, path)`, that is `uploadFileWithMultipart` (lines 201-231): `file` is what
`os.Open` gives, the content of the file or its error, and `err` the error of the upload. -/
def Object.upload (o : Object) (b : Bucket) (file : Except String GoString)
    (err : Option String) : Option String × Bucket :=
  match file, err with
  | .error e, _ => (some ("打开文件失败: " ++ e), b)
  | .ok _, some e => (some ("上传失败: " ++ e), b)
  | .ok c, none => (none, b.put o.key (some c))

/-- `Object.UploadWithCli(ctx, path)` (lines 182-199): `aws s3 cp` copies `file`, the content of
`path`, or fails with an error and its combined output. -/
def Object.uploadWithCli (o : Object) (b : Bucket) (file : GoString)
    (cliErr : Option (String × String)) : Option String × Bucket :=
  match cliErr with
  | some (e, output) => (some ("使用CLI上传文件到S3失败: " ++ e ++ "\n" ++ output), b)
  | none => (none, b.put o.key (some file))

/-! ## Runs of calls -/

/-- One call on an object, with the answers of S3 and of the local system that it meets. -/
inductive ObjectOp
  | delete (o : Object) (err : Option String)
  | size (o : Object) (err : Option String)
  | writeTo (o : Object) (err : Option String)
  | readFrom (o : Object) (src : GoString) (err : Option String)
  | readAt (o : Object) (b : GoString) (off : ℤ) (err : Option String)
  | upload (o : Object) (file : Except String GoString) (err : Option String)
  | uploadWithCli (o : Object) (file : GoString) (cliErr : Option (String × String))

/-- The bucket after one call: the writes put or remove their object, the reads change
nothing. -/
def ObjectOp.apply : ObjectOp → Bucket → Bucket
  | .delete o err, b => (o.delete b err).2
  | .readFrom o src err, b => (o.readFrom b src err).2
  | .upload o file err, b => (o.upload b file err).2
  | .uploadWithCli o file cliErr, b => (o.uploadWithCli b file cliErr).2
  | .size .., b | .writeTo .., b | .readAt .., b => b

/-- The bucket after calls one after another. -/
def runObjectOps (b : Bucket) : List ObjectOp → Bucket
  | [] => b
  | op :: ops => runObjectOps (op.apply b) ops

/-- What a call writes when it returns no error: its key and the new content, `none` for a
delete. Reads write nothing. -/
def ObjectOp.written : ObjectOp → Option (String × Option GoString)
  | .delete o none => some (o.key, none)
  | .readFrom o src none => some (o.key, some src)
  | .upload o (.ok c) none => some (o.key, some c)
  | .uploadWithCli o file none => some (o.key, some file)
  | _ => none

/-- The content that the last successful write to `key` among `ops` left, if one did. -/
def lastWrite (ops : List ObjectOp) (key : String) : Option (Option GoString) :=
  ((ops.filterMap ObjectOp.written).reverse.find? (·.1 == key)).map (·.2)

/-- One call does exactly what it writes. -/
theorem ObjectOp.apply_eq (op : ObjectOp) (b : Bucket) :
    op.apply b = match op.written with
      | some (key, c) => b.put key c
      | none => b := by
  cases op with
  | delete o err => cases err <;> rfl
  | readFrom o src err => cases err <;> rfl
  | upload o file err => rcases file with _ | _ <;> cases err <;> rfl
  | uploadWithCli o file cliErr => rcases cliErr with _ | ⟨_, _⟩ <;> rfl
  | size | writeTo | readAt => rfl

theorem ObjectOp.apply_get (op : ObjectOp) (b : Bucket) (key : String) :
    op.apply b key = (lastWrite [op] key).getD (b key) := by
  rw [ObjectOp.apply_eq]
  cases hw : op.written with
  | none => simp [lastWrite, hw]
  | some w =>
    obtain ⟨k, c⟩ := w
    by_cases hk : key = k
    · simp [lastWrite, hw, hk]
    · simp [lastWrite, hw, hk, Ne.symm hk]

theorem lastWrite_cons (op : ObjectOp) (ops : List ObjectOp) (key : String) :
    lastWrite (op :: ops) key = (lastWrite ops key).or (lastWrite [op] key) := by
  cases hw : op.written with
  | none => simp [lastWrite, hw]
  | some w =>
    simp only [lastWrite, List.filterMap_cons, hw, List.filterMap_nil, List.reverse_cons,
      List.reverse_nil, List.nil_append, List.find?_append]
    cases List.find? (fun x => x.1 == key) (List.filterMap ObjectOp.written ops).reverse <;> rfl

/-- Over every run of calls, whatever S3 and the local system answer, each key holds the
content of its last successful write, or what it held before the run when no write to it
succeeded. -/
theorem runObjectOps_get (b : Bucket) (ops : List ObjectOp) (key : String) :
    runObjectOps b ops key = (lastWrite ops key).getD (b key) := by
  induction ops generalizing b with
  | nil => rfl
  | cons op ops ih =>
    rw [runObjectOps, ih, ObjectOp.apply_get, lastWrite_cons op ops]
    cases lastWrite ops key <;> rfl

/-- A failed upload after a `ReadFrom` leaves what `ReadFrom` put; a delete of another key
touches nothing. -/
example : runObjectOps (fun _ => none)
    [.readFrom ⟨"k"⟩ [1] none, .upload ⟨"k"⟩ (.ok [2]) (some "timeout"), .delete ⟨"j"⟩ none] "k" =
      some [1] := by decide

end E2bInfra.S3
