import Mathlib.Data.List.Basic

/-!
# Removing a directory of objects

`RemoveDir` lists the keys under `dirPath + "/"` page by page and deletes each page with one
`DeleteObjects` call. It never deletes a key outside the prefix. But it looks only at the error
of each call and drops its response, whose `Errors` list names the keys S3 could not delete:
those keys stay in the bucket while `RemoveDir` returns `nil`.
-/

namespace E2bInfra.S3

/-- The answer of one `DeleteObjects` call: an error of the whole call, or success with the
keys of its `Errors` list, which it did not delete. -/
inductive DeleteResult
  | failed (err : String)
  | deleted (errors : List String)
  deriving DecidableEq, Repr

/-- Whether `k` starts with `pre`, the `Prefix` test of `ListObjectsV2`. -/
def hasPrefix (pre k : String) : Bool := pre.toList.isPrefixOf k.toList

/-- The pages of a listing of `bucket` under `pre`: together they are the keys of the bucket
that start with `pre`, and each is non-empty, but for the one empty page of an empty listing.
The continuation token of `ListObjectsV2` stands after the last key listed, so deleting the
keys already listed does not move the pages that follow. -/
def IsListing (bucket : List String) (pre : String) (pages : List (List String)) : Prop :=
  pages.flatten = bucket.filter (hasPrefix pre) ∧ (pages = [[]] ∨ ∀ p ∈ pages, p ≠ [])

/-- `RemoveDir(ctx, bucket, dirPath)` on the keys of the bucket. `pages` holds the pages the
paginator returned, each with the answer of the `DeleteObjects` call on it; `listErr` is the
error of a further `NextPage`, if the paginator had more pages and that request failed. -/
def removeDir (dirPath : String) (bucket : List String) :
    List (List String × DeleteResult) → Option String → Except String Unit × List String
  | [], none => (.ok (), bucket)
  | [], some e => (.error ("failed to list objects in directory '" ++ dirPath ++ "': " ++ e), bucket)
  | (keys, answer) :: rest, listErr =>
    if keys = [] then (.ok (), bucket)
    else match answer with
      | .failed e =>
        (.error ("failed to delete objects in directory '" ++ dirPath ++ "': " ++ e), bucket)
      | .deleted errors =>
        removeDir dirPath (bucket.filter fun k => k ∉ keys ∨ k ∈ errors) rest listErr

/-- `Storage.Remove`: `RemoveDir` on the directory of the build. -/
def storageRemove (buildId : String) (bucket : List String)
    (pages : List (List String × DeleteResult)) (listErr : Option String) :
    Except String Unit × List String :=
  match removeDir buildId bucket pages listErr with
  | (.error e, b) => (.error ("error when removing template '" ++ buildId ++ "': " ++ e), b)
  | (.ok (), b) => (.ok (), b)

/-- `Delete` of the template manager, on the bucket: `Storage.Remove` of the build's objects. The
deletion of the build's image from the registry that follows only logs its error, and `Delete`
returns `nil` whatever it gives. -/
def delete (buildId : String) (bucket : List String) (pages : List (List String × DeleteResult))
    (listErr : Option String) : Except String Unit × List String :=
  match storageRemove buildId bucket pages listErr with
  | (.error e, b) => (.error ("error when deleting template objects: " ++ e), b)
  | (.ok (), b) => (.ok (), b)

/-- `Delete` leaves the bucket as `RemoveDir` on the build's directory does, and returns `nil`
exactly when `RemoveDir` does; its error is that of `RemoveDir` under the two prefixes of the
callers. -/
theorem delete_eq (buildId : String) (bucket : List String)
    (pages : List (List String × DeleteResult)) (listErr : Option String) :
    delete buildId bucket pages listErr =
      (((removeDir buildId bucket pages listErr).1).mapError fun e =>
        "error when deleting template objects: " ++
          ("error when removing template '" ++ buildId ++ "': " ++ e),
        (removeDir buildId bucket pages listErr).2) := by
  unfold delete storageRemove
  rcases removeDir buildId bucket pages listErr with ⟨e | ⟨⟩, b⟩ <;>
    simp [Except.mapError, String.append_assoc]

/-- `RemoveDir` deletes only keys of its pages: every key outside them stays, whatever the
answers. -/
theorem mem_removeDir_of_not_mem {dirPath k : String} {bucket : List String}
    {pages : List (List String × DeleteResult)} {listErr : Option String} (hk : k ∈ bucket)
    (hpages : ∀ p ∈ pages, k ∉ p.1) : k ∈ (removeDir dirPath bucket pages listErr).2 := by
  induction pages generalizing bucket with
  | nil => cases listErr <;> exact hk
  | cons p rest ih =>
    obtain ⟨keys, answer⟩ := p
    simp only [removeDir]
    split_ifs
    · exact hk
    · cases answer with
      | failed e => exact hk
      | deleted errors =>
        exact ih (List.mem_filter.mpr ⟨hk, by simpa using Or.inl (hpages _ (List.mem_cons_self _ _))⟩)
          fun p hp => hpages p (List.mem_cons_of_mem _ hp)

/-- `RemoveDir` never adds a key. -/
theorem mem_of_mem_removeDir {dirPath k : String} {bucket : List String}
    {pages : List (List String × DeleteResult)} {listErr : Option String}
    (hk : k ∈ (removeDir dirPath bucket pages listErr).2) : k ∈ bucket := by
  induction pages generalizing bucket with
  | nil => cases listErr <;> exact hk
  | cons p rest ih =>
    obtain ⟨keys, answer⟩ := p
    simp only [removeDir] at hk
    split_ifs at hk
    · exact hk
    · cases answer with
      | failed e => exact hk
      | deleted errors => exact (List.mem_filter.mp (ih hk)).1

/-- When `RemoveDir` returns `nil` over non-empty pages, a key of a page that is still in the
bucket was named in the `Errors` list of the `DeleteObjects` call on one of its pages. -/
theorem mem_errors_of_removeDir_ok {dirPath k : String} {bucket : List String}
    {pages : List (List String × DeleteResult)} {listErr : Option String}
    (hne : ∀ p ∈ pages, p.1 ≠ []) (hok : (removeDir dirPath bucket pages listErr).1 = .ok ())
    (hk : k ∈ (removeDir dirPath bucket pages listErr).2) (hpage : k ∈ (pages.map (·.1)).flatten) :
    ∃ keys errors, (keys, .deleted errors) ∈ pages ∧ k ∈ keys ∧ k ∈ errors := by
  induction pages generalizing bucket with
  | nil => simp at hpage
  | cons p rest ih =>
    obtain ⟨keys, answer⟩ := p
    have hkeys : keys ≠ [] := hne _ (List.mem_cons_self _ _)
    simp only [removeDir, if_neg hkeys] at hok hk
    cases answer with
    | failed e => cases hok
    | deleted errors =>
      by_cases hin : k ∈ keys
      · have hleft := List.mem_filter.mp (mem_of_mem_removeDir hk)
        simp only [hin, not_true_eq_false, false_or, decide_eq_true_eq] at hleft
        exact ⟨keys, errors, List.mem_cons_self _ _, hin, hleft.2⟩
      · have hrest : k ∈ (rest.map (·.1)).flatten := by
          simpa only [List.map_cons, List.flatten_cons, List.mem_append, hin, false_or] using hpage
        obtain ⟨keys', errors', hmem, hk'⟩ :=
          ih (fun p hp => hne p (List.mem_cons_of_mem (keys, .deleted errors) hp)) hok hk hrest
        exact ⟨keys', errors', List.mem_cons_of_mem _ hmem, hk'⟩

/-- For every bucket, directory and split of its listing into pages, and whatever
`DeleteObjects` answers: `RemoveDir` deletes no key outside `dirPath + "/"`; and when it returns
`nil`, each key under the prefix that is left was named in the `Errors` list of a
`DeleteObjects` call, so with no such errors every key under the prefix is deleted. -/
theorem removeDir_deletes_within_prefix {dirPath : String} {bucket : List String}
    {pages : List (List String × DeleteResult)} {listErr : Option String}
    (hlist : IsListing bucket (dirPath ++ "/") (pages.map (·.1))) :
    (∀ k ∈ bucket, hasPrefix (dirPath ++ "/") k = false →
      k ∈ (removeDir dirPath bucket pages listErr).2) ∧
    ((removeDir dirPath bucket pages listErr).1 = .ok () →
      ∀ k ∈ (removeDir dirPath bucket pages listErr).2, hasPrefix (dirPath ++ "/") k →
        ∃ keys errors, (keys, .deleted errors) ∈ pages ∧ k ∈ keys ∧ k ∈ errors) := by
  obtain ⟨hflat, hshape⟩ := hlist
  refine ⟨fun k hk hpre => mem_removeDir_of_not_mem hk fun p hp hkp => ?_, fun hok k hk hpre => ?_⟩
  · have hin : k ∈ (pages.map (·.1)).flatten :=
      List.mem_flatten.mpr ⟨p.1, List.mem_map_of_mem _ hp, hkp⟩
    rw [hflat, List.mem_filter] at hin
    simp [hpre] at hin
  · have hin : k ∈ (pages.map (·.1)).flatten := by
      rw [hflat, List.mem_filter]; exact ⟨mem_of_mem_removeDir hk, hpre⟩
    rcases hshape with hone | hne
    · simp [hone] at hin
    · exact mem_errors_of_removeDir_ok (fun p hp => hne _ (List.mem_map_of_mem _ hp)) hok hk hin

/-- One page under `b/` that `DeleteObjects` removes whole: `c` stays, and no key under `b/`
is left. -/
theorem removeDir_deletes_within_prefix_one_page :
    (∀ k ∈ ["b/x", "c"], hasPrefix ("b" ++ "/") k = false →
      k ∈ (removeDir "b" ["b/x", "c"] [(["b/x"], .deleted [])] none).2) ∧
    ((removeDir "b" ["b/x", "c"] [(["b/x"], .deleted [])] none).1 = .ok () →
      ∀ k ∈ (removeDir "b" ["b/x", "c"] [(["b/x"], .deleted [])] none).2, hasPrefix ("b" ++ "/") k →
        ∃ keys errors, (keys, .deleted errors) ∈ [(["b/x"], DeleteResult.deleted [])] ∧
          k ∈ keys ∧ k ∈ errors) :=
  removeDir_deletes_within_prefix (by unfold IsListing; decide)

/-- A `DeleteObjects` call that succeeds but names the only key of the directory in its
`Errors` list: `RemoveDir` returns `nil`, and the key is still in the bucket. -/
theorem removeDir_ignores_delete_errors :
    IsListing ["b/x"] ("b" ++ "/") [["b/x"]] ∧
      removeDir "b" ["b/x"] [(["b/x"], .deleted ["b/x"])] none = (.ok (), ["b/x"]) :=
  ⟨by unfold IsListing; decide, rfl⟩

end E2bInfra.S3
