import Mathlib.Logic.Function.Basic

/-!
# The template cache of the orchestrator

`Cache` keeps templates in a ttlcache by cache key. `GetTemplate` returns the cached template
or builds one and inserts it; `AddSnapshot` registers the diffs of a finished build in the
diff store and inserts a template for the snapshot. In storage mode both insert with
`GetOrSet`, which keeps an entry that is already there. This file models each operation as
one sequential call; the interleavings of concurrent calls are in `Template.Concurrent`.
-/

namespace E2bInfra.Orchestrator

/-- `MOCK_SANDBOX`: mock mode when it is `"true"`, storage mode otherwise. -/
inductive Mode
  | storage
  | mock
  deriving DecidableEq, Repr

/-- `storage.TemplateFiles`, built from the arguments of `NewTemplateFiles`. -/
structure TemplateFiles where
  templateId : String
  buildId : String
  kernelVersion : String
  firecrackerVersion : String
  hugePages : Bool
  deriving DecidableEq, Repr

/-- `header.Metadata`, by the fields this package sets. -/
structure Metadata where
  version : ℕ
  blockSize : ℕ
  size : ℕ
  generation : ℕ
  deriving DecidableEq, Repr

/-- `header.Header`. Its block map is not read in this package and is left out. -/
structure Header where
  metadata : Metadata
  deriving DecidableEq, Repr

/-- `LocalFile`, a snapfile on the local disk. -/
structure LocalFile where
  path : String
  deriving DecidableEq, Repr

/-- A template read from storage. `id` stands for the address of the instance, so two
templates built by two calls are two instances even with equal fields. -/
structure StorageTemplate where
  id : ℕ
  files : TemplateFiles
  isSnapshot : Bool
  memfileHeader : Option Header
  rootfsHeader : Option Header
  localSnapfile : Option LocalFile
  deriving DecidableEq, Repr

/-- `mockTemplate`, with the address of the instance as `id`. -/
structure MockTemplate where
  id : ℕ
  files : TemplateFiles
  deriving DecidableEq, Repr

/-- The `Template` interface, by its two implementations. -/
inductive Template
  | storage (t : StorageTemplate)
  | mock (t : MockTemplate)
  deriving DecidableEq, Repr

/-- `build.DiffType`. -/
inductive DiffType
  | memfile
  | rootfs
  deriving DecidableEq, Repr

/-- Modelled from the spec: `build.Diff`, whose source is not under src/. "A tagged variant
`NoDiff | LocalDiff{path} | RemoteDiff{objectKey}`". -/
inductive Diff
  | noDiff
  | localDiff (path : String)
  | remoteDiff (objectKey : String)
  deriving DecidableEq, Repr

/-- Modelled from the spec: `build.DiffStore`, whose source is not under src/. "A registry
keyed by `(buildID, ArtifactKind)`; `Add` rejects `NoDiff` (no-op), and `Get` returns the
Diff or not present." -/
structure DiffStore where
  diffs : List ((String × DiffType) × Diff)
  deriving DecidableEq, Repr

/-- Modelled from the spec: `DiffStore.Add`, which registers a diff under its key, in place of
one registered there before, and ignores `NoDiff`. -/
def DiffStore.add (s : DiffStore) (buildId : String) (t : DiffType) (d : Diff) : DiffStore :=
  match d with
  | .noDiff => s
  | _ => ⟨((buildId, t), d) :: s.diffs.filter (·.1 != (buildId, t))⟩

/-- Modelled from the spec: `DiffStore.Get`. -/
def DiffStore.get (s : DiffStore) (buildId : String) (t : DiffType) : Option Diff :=
  s.diffs.lookup (buildId, t)

/-- A ttlcache of templates by key. Expiry is left out: the runs studied have no eviction. -/
abbrev TtlCache := String → Option Template

/-- `Cache`: the ttlcache and the diff store, with the allocator of template instances and two
records no code reads: every insertion into the ttlcache, and every `Fetch` started. -/
structure Cache where
  cache : TtlCache
  buildStore : DiffStore
  nextId : ℕ
  stored : List (String × Template)
  fetched : List StorageTemplate

/-- `ttlcache.Set`: put `t` under `key`, in place of any entry there. -/
def Cache.set (c : Cache) (key : String) (t : Template) : Cache :=
  { c with cache := Function.update c.cache key (some t), stored := (key, t) :: c.stored }

/-- `ttlcache.GetOrSet`, one atomic step: the entry under `key` with `found = true`, or `t`
inserted with `found = false`. -/
def Cache.getOrSet (c : Cache) (key : String) (t : Template) : (Template × Bool) × Cache :=
  match c.cache key with
  | some v => ((v, true), c)
  | none => ((t, false), c.set key t)

/-- The `switch` of `AddSnapshot` on one of its diffs: register it unless it is `NoDiff`. -/
def Cache.addDiff (c : Cache) (buildId : String) (t : DiffType) (d : Diff) : Cache :=
  match d with
  | .noDiff => c
  | _ => { c with buildStore := c.buildStore.add buildId t d }

/-- `go storageTemplate.Fetch(...)` when `GetOrSet` did not find an entry. -/
def Cache.startFetch (c : Cache) (t : StorageTemplate) (found : Bool) : Cache :=
  if found then c else { c with fetched := t :: c.fetched }

/-- The cache key of a template's files, `Files().CacheKey()`. Its source is not under src/:
it is a parameter, a function of the files alone, as the spec has it. -/
def CacheKeyFn := TemplateFiles → String

/-- The key of mock mode, `fmt.Sprintf("%s-%s-%s-%s-%v-%v", ...)`. -/
def mockCacheKey (f : TemplateFiles) (isSnapshot : Bool) : String :=
  f.templateId ++ "-" ++ f.buildId ++ "-" ++ f.kernelVersion ++ "-" ++ f.firecrackerVersion ++
    "-" ++ toString f.hugePages ++ "-" ++ toString isSnapshot

/-- Modelled from the spec: `newTemplateFromStorage`, whose source is not under src/. The
storage-backed template holds the identity and the headers and snapfile it is given; it fails
when its cache files cannot be made, which is the outcome `filesErr` of the environment. The
instance is allocated at `c.nextId`. -/
def newTemplateFromStorage (c : Cache) (files : TemplateFiles) (isSnapshot : Bool)
    (memfileHeader rootfsHeader : Option Header) (localSnapfile : Option LocalFile)
    (filesErr : Option String) : Except String StorageTemplate × Cache :=
  match filesErr with
  | some e => (.error e, c)
  | none =>
    (.ok ⟨c.nextId, files, isSnapshot, memfileHeader, rootfsHeader, localSnapfile⟩,
      { c with nextId := c.nextId + 1 })

/-- `newMockTemplate`, allocated at `c.nextId`. -/
def newMockTemplate (c : Cache) (files : TemplateFiles) : MockTemplate × Cache :=
  (⟨c.nextId, files⟩, { c with nextId := c.nextId + 1 })

/-- `NewCache`: an empty ttlcache and an empty diff store. -/
def newCache : Cache := ⟨fun _ => none, ⟨[]⟩, 0, [], []⟩

/-- `Cache.GetTemplate` as one sequential call. -/
def getTemplate (cacheKey : CacheKeyFn) (mode : Mode) (c : Cache) (files : TemplateFiles)
    (isSnapshot : Bool) (filesErr : Option String) : Except String Template × Cache :=
  match mode with
  | .mock =>
    let key := mockCacheKey files isSnapshot
    match c.cache key with
    | some t => (.ok t, c)
    | none =>
      let (m, c) := newMockTemplate c files
      (.ok (.mock m), c.set key (.mock m))
  | .storage =>
    match newTemplateFromStorage c files isSnapshot none none none filesErr with
    | (.error e, c) => (.error ("failed to create template cache from storage: " ++ e), c)
    | (.ok t, c) =>
      let ((v, found), c) := c.getOrSet (cacheKey files) (.storage t)
      (.ok v, c.startFetch t found)

/-- `Cache.AddSnapshot`. -/
def addSnapshot (cacheKey : CacheKeyFn) (mode : Mode) (c : Cache) (files : TemplateFiles)
    (memfileHeader rootfsHeader : Option Header) (localSnapfile : Option LocalFile)
    (memfileDiff rootfsDiff : Diff) (filesErr : Option String) : Except String Unit × Cache :=
  match mode with
  | .mock => (.ok (), c)
  | .storage =>
    let c := (c.addDiff files.buildId .memfile memfileDiff).addDiff files.buildId .rootfs rootfsDiff
    match newTemplateFromStorage c files true memfileHeader rootfsHeader localSnapfile filesErr with
    | (.error e, c) => (.error ("failed to create template cache from storage: " ++ e), c)
    | (.ok t, c) =>
      let ((_, found), c) := c.getOrSet (cacheKey files) (.storage t)
      (.ok (), c.startFetch t found)

section Lemmas

variable {c : Cache} {key : String} {t v : Template}

@[simp] theorem Cache.set_cache : (c.set key t).cache = Function.update c.cache key (some t) := rfl

@[simp] theorem Cache.set_fetched : (c.set key t).fetched = c.fetched := rfl

@[simp] theorem Cache.set_nextId : (c.set key t).nextId = c.nextId := rfl

@[simp] theorem Cache.set_buildStore : (c.set key t).buildStore = c.buildStore := rfl

theorem Cache.getOrSet_of_some (h : c.cache key = some v) : c.getOrSet key t = ((v, true), c) := by
  simp [Cache.getOrSet, h]

/-- `GetOrSet` returns the entry under the key, or else the template it was given. -/
@[simp] theorem Cache.getOrSet_value : (c.getOrSet key t).1.1 = (c.cache key).getD t := by
  unfold Cache.getOrSet; split <;> simp_all

@[simp] theorem Cache.getOrSet_found : (c.getOrSet key t).1.2 = (c.cache key).isSome := by
  unfold Cache.getOrSet; split <;> simp_all

/-- After `GetOrSet`, the key holds the value it returned; other keys are untouched. -/
@[simp] theorem Cache.getOrSet_cache :
    (c.getOrSet key t).2.cache = Function.update c.cache key (some ((c.cache key).getD t)) := by
  unfold Cache.getOrSet
  split <;> rename_i h <;> simp [h]

theorem Cache.getOrSet_of_none (h : c.cache key = none) :
    c.getOrSet key t = ((t, false), c.set key t) := by
  simp [Cache.getOrSet, h]

@[simp] theorem Cache.startFetch_cache {s : StorageTemplate} {found : Bool} :
    (c.startFetch s found).cache = c.cache := by
  unfold Cache.startFetch; split <;> rfl

variable {b : String} {k : DiffType} {d : Diff}

@[simp] theorem Cache.addDiff_cache : (c.addDiff b k d).cache = c.cache := by
  cases d <;> rfl

@[simp] theorem Cache.addDiff_nextId : (c.addDiff b k d).nextId = c.nextId := by
  cases d <;> rfl

@[simp] theorem Cache.addDiff_stored : (c.addDiff b k d).stored = c.stored := by
  cases d <;> rfl

@[simp] theorem Cache.addDiff_fetched : (c.addDiff b k d).fetched = c.fetched := by
  cases d <;> rfl

/-- The `switch` adds what `DiffStore.Add` adds: `Add` ignores `NoDiff` as well. -/
@[simp] theorem Cache.addDiff_buildStore : (c.addDiff b k d).buildStore = c.buildStore.add b k d := by
  cases d <;> rfl

end Lemmas

/-- When `AddSnapshot` fails, the ttlcache, the allocator and the records of insertions and of
`Fetch` are as they were, but each diff of the call that is not `NoDiff` stays registered in
the diff store under the build: the diffs are added before the template is built, and nothing
takes them back. -/
theorem addSnapshot_error {cacheKey : CacheKeyFn} {mode : Mode} {c c' : Cache}
    {files : TemplateFiles} {memfileHeader rootfsHeader : Option Header}
    {localSnapfile : Option LocalFile} {memfileDiff rootfsDiff : Diff} {filesErr : Option String}
    {e : String}
    (h : addSnapshot cacheKey mode c files memfileHeader rootfsHeader localSnapfile memfileDiff
      rootfsDiff filesErr = (.error e, c')) :
    c'.cache = c.cache ∧ c'.nextId = c.nextId ∧ c'.stored = c.stored ∧ c'.fetched = c.fetched ∧
      c'.buildStore = (c.buildStore.add files.buildId .memfile memfileDiff).add files.buildId
        .rootfs rootfsDiff := by
  cases mode with
  | mock => cases h
  | storage =>
    cases filesErr with
    | none =>
      simp only [addSnapshot, newTemplateFromStorage] at h
      cases h
    | some err =>
      simp only [addSnapshot, newTemplateFromStorage, Prod.mk.injEq] at h
      obtain ⟨-, rfl⟩ := h
      simp

theorem addSnapshot_error_of_newCache :
    ∃ c', addSnapshot (·.buildId) .storage newCache ⟨"t", "b", "k", "f", false⟩ none none none
        (.localDiff "m") .noDiff (some "e") =
        (.error "failed to create template cache from storage: e", c') ∧
      c'.cache = newCache.cache ∧ c'.nextId = newCache.nextId ∧ c'.stored = newCache.stored ∧
      c'.fetched = newCache.fetched ∧
      c'.buildStore = (newCache.buildStore.add "b" .memfile (.localDiff "m")).add "b" .rootfs .noDiff :=
  ⟨_, rfl, @addSnapshot_error (·.buildId) .storage newCache _ ⟨"t", "b", "k", "f", false⟩
    none none none (.localDiff "m") .noDiff (some "e") _ rfl⟩

/-- A failed `AddSnapshot` on a new cache leaves the memfile diff of the failed snapshot
registered under its build. -/
theorem addSnapshot_error_registers_diff :
    ∃ c', addSnapshot (·.buildId) .storage newCache ⟨"t", "b", "k", "f", false⟩ none none none
        (.localDiff "m") .noDiff (some "e") =
        (.error "failed to create template cache from storage: e", c') ∧
      c'.buildStore ≠ newCache.buildStore ∧ c'.buildStore.get "b" .memfile = some (.localDiff "m") :=
  ⟨_, rfl, by decide, by decide⟩

/-- A successful `AddSnapshot` in storage mode leaves under its key the entry that was there,
or else the template it built, at the next instance of the allocator. -/
theorem addSnapshot_ok_cache {cacheKey : CacheKeyFn} {c c' : Cache} {files : TemplateFiles}
    {memfileHeader rootfsHeader : Option Header} {localSnapfile : Option LocalFile}
    {memfileDiff rootfsDiff : Diff} {filesErr : Option String}
    (h : addSnapshot cacheKey .storage c files memfileHeader rootfsHeader localSnapfile memfileDiff
      rootfsDiff filesErr = (.ok (), c')) :
    c'.cache (cacheKey files) = some ((c.cache (cacheKey files)).getD
      (.storage ⟨c.nextId, files, true, memfileHeader, rootfsHeader, localSnapfile⟩)) := by
  cases filesErr with
  | some e => simp only [addSnapshot, newTemplateFromStorage] at h; cases h
  | none =>
    simp only [addSnapshot, newTemplateFromStorage, Prod.mk.injEq] at h
    obtain ⟨-, rfl⟩ := h
    simp

/-- In storage mode, `GetTemplate` on a key with an entry returns that entry, whenever it
returns a template. -/
theorem getTemplate_storage_of_some {cacheKey : CacheKeyFn} {c c' : Cache} {files : TemplateFiles}
    {isSnapshot : Bool} {filesErr : Option String} {t v : Template}
    (hv : c.cache (cacheKey files) = some v)
    (h : getTemplate cacheKey .storage c files isSnapshot filesErr = (.ok t, c')) : t = v := by
  cases filesErr with
  | some e => simp only [getTemplate, newTemplateFromStorage] at h; cases h
  | none =>
    simp only [getTemplate, newTemplateFromStorage, Prod.mk.injEq, Except.ok.injEq,
      Cache.getOrSet_value, hv, Option.getD_some] at h
    exact h.1.symm

/-- After a successful `AddSnapshot` in storage mode, a `GetTemplate` of the same files with
`isSnapshot = true` that returns a template returns the template `AddSnapshot` built, with the
headers and snapfile it was given, if the key had no entry before; and otherwise the entry
that was there, which `GetOrSet` kept. -/
theorem getTemplate_after_addSnapshot {cacheKey : CacheKeyFn} {c c' c'' : Cache}
    {files : TemplateFiles} {memfileHeader rootfsHeader : Option Header}
    {localSnapfile : Option LocalFile} {memfileDiff rootfsDiff : Diff}
    {filesErr filesErr' : Option String} {t : Template}
    (hadd : addSnapshot cacheKey .storage c files memfileHeader rootfsHeader localSnapfile
      memfileDiff rootfsDiff filesErr = (.ok (), c'))
    (hget : getTemplate cacheKey .storage c' files true filesErr' = (.ok t, c'')) :
    t = (c.cache (cacheKey files)).getD
      (.storage ⟨c.nextId, files, true, memfileHeader, rootfsHeader, localSnapfile⟩) :=
  getTemplate_storage_of_some (addSnapshot_ok_cache hadd) hget

theorem getTemplate_after_addSnapshot_on_newCache :
    ∃ c' c'' t, addSnapshot (·.buildId) .storage newCache ⟨"t", "b", "k", "f", false⟩ none none
        (some ⟨"snap"⟩) .noDiff .noDiff none = (.ok (), c') ∧
      getTemplate (·.buildId) .storage c' ⟨"t", "b", "k", "f", false⟩ true none = (.ok t, c'') ∧
      t = (newCache.cache "b").getD
        (.storage ⟨newCache.nextId, ⟨"t", "b", "k", "f", false⟩, true, none, none, some ⟨"snap"⟩⟩) :=
  ⟨_, _, _, rfl, rfl, @getTemplate_after_addSnapshot (·.buildId) newCache _ _
    ⟨"t", "b", "k", "f", false⟩ none none (some ⟨"snap"⟩) .noDiff .noDiff none none _ rfl rfl⟩

/-- A storage-mode `GetTemplate` of the files with `isSnapshot = false` leaves its template under
their key. A later successful `AddSnapshot` of the same files keeps that entry, and a
`GetTemplate` with `isSnapshot = true` returns it: a template that is no snapshot, without the
snapfile `AddSnapshot` was given. -/
theorem getTemplate_after_addSnapshot_keeps_entry :
    ∃ old c₁ c' c'', getTemplate (·.buildId) .storage newCache ⟨"t", "b", "k", "f", false⟩ false
        none = (.ok old, c₁) ∧
      addSnapshot (·.buildId) .storage c₁ ⟨"t", "b", "k", "f", false⟩ none none (some ⟨"snap"⟩)
        .noDiff .noDiff none = (.ok (), c') ∧
      getTemplate (·.buildId) .storage c' ⟨"t", "b", "k", "f", false⟩ true none = (.ok old, c'') ∧
      old ≠ .storage ⟨c₁.nextId, ⟨"t", "b", "k", "f", false⟩, true, none, none, some ⟨"snap"⟩⟩ :=
  ⟨_, _, _, _, rfl, rfl, rfl, by decide⟩

end E2bInfra.Orchestrator
