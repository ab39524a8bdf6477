import E2bInfra.Template.Cache

/-!
# Concurrent calls of `GetTemplate`

Calls of `GetTemplate` run on many goroutines at once. Each call is a sequence of steps, one
ttlcache operation each, and the steps of all calls interleave in any order. In storage mode
the only operation is `GetOrSet`, so for one key a single instance is ever stored, every call
returns it, and `Fetch` starts once, on it. In mock mode a call does `Get` and, later, `Set`:
two calls can both miss, and each then stores and returns an instance of its own.
-/

namespace E2bInfra.Orchestrator

/-- Where a call of `GetTemplate` is between its steps. -/
inductive Phase
  | start
  | built (t : StorageTemplate)
  | missed
  | returned (v : Template)
  | failed (err : String)
  deriving DecidableEq, Repr

/-- A call of `GetTemplate`: the files and snapshot flag it was called with, and its phase. -/
structure Call where
  files : TemplateFiles
  isSnapshot : Bool
  phase : Phase
  deriving DecidableEq, Repr

/-- The next step of a call. A step holds one operation on the ttlcache together with the code
of the call beside it that reads nothing shared: `go Fetch` and `return` after `GetOrSet`,
making the mock template before `Set`. In storage mode the first step builds the template,
with `filesErr` the outcome of making its cache files. -/
def Call.step (cacheKey : CacheKeyFn) (mode : Mode) (c : Cache) (g : Call)
    (filesErr : Option String) : Option (Phase × Cache) :=
  match mode, g.phase with
  | .storage, .start =>
    match newTemplateFromStorage c g.files g.isSnapshot none none none filesErr with
    | (.error e, c) => some (.failed ("failed to create template cache from storage: " ++ e), c)
    | (.ok t, c) => some (.built t, c)
  | .storage, .built t =>
    let ((v, found), c) := c.getOrSet (cacheKey g.files) (.storage t)
    some (.returned v, c.startFetch t found)
  | .mock, .start =>
    match c.cache (mockCacheKey g.files g.isSnapshot) with
    | some t => some (.returned t, c)
    | none => some (.missed, c)
  | .mock, .missed =>
    let (m, c) := newMockTemplate c g.files
    some (.returned (.mock m), c.set (mockCacheKey g.files g.isSnapshot) (.mock m))
  | _, _ => none

/-- The cache shared by the calls, and the calls. -/
structure Sys where
  cache : Cache
  calls : List Call

/-- Call `i` takes its next step. -/
def Sys.step (cacheKey : CacheKeyFn) (mode : Mode) (s : Sys) (i : ℕ) (filesErr : Option String) :
    Option Sys :=
  match s.calls[i]? with
  | none => none
  | some g => (g.step cacheKey mode s.cache filesErr).map
      fun (p, c) => ⟨c, s.calls.set i { g with phase := p }⟩

/-- The states of every interleaving of the steps of the calls, from `init`. -/
inductive Reachable (cacheKey : CacheKeyFn) (mode : Mode) (init : Sys) : Sys → Prop
  | init : Reachable cacheKey mode init init
  | step {s s' : Sys} {i : ℕ} {filesErr : Option String} :
      Reachable cacheKey mode init s → s.step cacheKey mode i filesErr = some s' →
        Reachable cacheKey mode init s'

/-- Take the steps of a schedule in order: the call to step and the outcome of its files. -/
def run (cacheKey : CacheKeyFn) (mode : Mode) : Sys → List (ℕ × Option String) → Option Sys
  | s, [] => some s
  | s, (i, e) :: rest => (s.step cacheKey mode i e).bind (run cacheKey mode · rest)

theorem reachable_of_run {cacheKey : CacheKeyFn} {mode : Mode} {init s s' : Sys}
    {l : List (ℕ × Option String)} (hs : Reachable cacheKey mode init s)
    (h : run cacheKey mode s l = some s') : Reachable cacheKey mode init s' := by
  induction l generalizing s with
  | nil => cases h; exact hs
  | cons p rest ih =>
    simp only [run, Option.bind_eq_some] at h
    obtain ⟨s1, h1, h2⟩ := h
    exact ih (.step hs h1) h2

/-- The files both calls of the mock-mode race are made with. -/
def raceFiles : TemplateFiles := ⟨"t", "b", "k", "f", false⟩

/-- Two mock-mode calls of one identity, each missing before the other sets: the first call
returns the instance it set and the second another one, and both instances were stored under
the same key in turn. -/
theorem getTemplate_mock_race :
    ∃ s, Reachable (·.buildId) .mock ⟨newCache, [⟨raceFiles, false, .start⟩, ⟨raceFiles, false, .start⟩]⟩ s ∧
      (s.calls.map (·.phase)) = [.returned (.mock ⟨0, raceFiles⟩), .returned (.mock ⟨1, raceFiles⟩)] ∧
      s.cache.stored = [(mockCacheKey raceFiles false, .mock ⟨1, raceFiles⟩),
        (mockCacheKey raceFiles false, .mock ⟨0, raceFiles⟩)] := by
  obtain ⟨s, hrun⟩ : ∃ s, run (·.buildId) .mock
      ⟨newCache, [⟨raceFiles, false, .start⟩, ⟨raceFiles, false, .start⟩]⟩
      [(0, none), (1, none), (0, none), (1, none)] = some s := ⟨_, rfl⟩
  refine ⟨s, reachable_of_run .init hrun, ?_⟩
  simp only [run, Sys.step, Call.step] at hrun
  cases hrun
  exact ⟨rfl, rfl⟩

/-- The phase of a call that has ended with a result. -/
def Phase.ofResult : Except String Template → Phase
  | .ok v => .returned v
  | .error e => .failed e

/-- A call that runs alone computes the sequential `getTemplate`, in at most two steps. -/
theorem getTemplate_alone (cacheKey : CacheKeyFn) (mode : Mode) (c : Cache) (files : TemplateFiles)
    (isSnapshot : Bool) (filesErr : Option String) :
    ∃ l : List (ℕ × Option String), l.length ≤ 2 ∧
      run cacheKey mode ⟨c, [⟨files, isSnapshot, .start⟩]⟩ l =
        some ⟨(getTemplate cacheKey mode c files isSnapshot filesErr).2,
          [⟨files, isSnapshot, .ofResult (getTemplate cacheKey mode c files isSnapshot filesErr).1⟩]⟩ := by
  cases mode with
  | storage =>
    cases filesErr with
    | some e => exact ⟨[(0, some e)], by simp, rfl⟩
    | none => exact ⟨[(0, none), (0, none)], by simp, rfl⟩
  | mock =>
    cases hkey : c.cache (mockCacheKey files isSnapshot) with
    | some t =>
      refine ⟨[(0, none)], by decide, ?_⟩
      simp [run, Sys.step, Call.step, getTemplate, hkey, Phase.ofResult]
    | none =>
      refine ⟨[(0, none), (0, none)], by decide, ?_⟩
      simp [run, Sys.step, Call.step, getTemplate, hkey, Phase.ofResult, newMockTemplate]

/-- What one storage-mode step can do: leave the ttlcache and the records as they were without
returning, return the entry `GetOrSet` found, or insert the call's template under an empty key,
start `Fetch` on it, and return it. -/
theorem Call.step_storage_cases {cacheKey : CacheKeyFn} {c c' : Cache} {g : Call}
    {filesErr : Option String} {p : Phase}
    (h : g.step cacheKey .storage c filesErr = some (p, c')) :
    (c'.cache = c.cache ∧ c'.stored = c.stored ∧ c'.fetched = c.fetched ∧ ∀ v, p ≠ .returned v) ∨
    (∃ v, c.cache (cacheKey g.files) = some v ∧ p = .returned v ∧ c' = c) ∨
    (∃ t, c.cache (cacheKey g.files) = none ∧ p = .returned (.storage t) ∧
      c' = { c with cache := Function.update c.cache (cacheKey g.files) (some (.storage t)),
                    stored := (cacheKey g.files, .storage t) :: c.stored,
                    fetched := t :: c.fetched }) := by
  rcases g with ⟨files, isSnapshot, phase⟩
  cases phase with
  | start =>
    left
    cases filesErr <;> simp only [Call.step, newTemplateFromStorage, Option.some.injEq,
      Prod.mk.injEq] at h <;> obtain ⟨rfl, rfl⟩ := h <;> simp
  | built t =>
    right
    cases hkey : c.cache (cacheKey files) with
    | some v =>
      left
      simp only [Call.step, Cache.getOrSet_of_some hkey, Cache.startFetch, if_true,
        Option.some.injEq, Prod.mk.injEq] at h
      exact ⟨v, rfl, h.1.symm, h.2.symm⟩
    | none =>
      right
      simp only [Call.step, Cache.getOrSet_of_none hkey, Cache.startFetch, Bool.false_eq_true,
        if_false, Option.some.injEq, Prod.mk.injEq] at h
      exact ⟨t, rfl, h.1.symm, h.2.symm⟩
  | missed => cases h
  | returned => cases h
  | failed => cases h

/-- What a storage-mode run keeps for calls made with the files `files`, started on a cache
with no entry under their key and with empty records: all that was stored under the key is
the entry there, which is a storage template; `Fetch` was started on that entry and on nothing
else; and each call that has returned returned the entry. -/
structure StorageInv (cacheKey : CacheKeyFn) (files : TemplateFiles) (s : Sys) : Prop where
  stored : ∀ t, (cacheKey files, t) ∈ s.cache.stored ↔ s.cache.cache (cacheKey files) = some t
  entry : ∀ v, s.cache.cache (cacheKey files) = some v → ∃ w, v = .storage w
  fetched : ∀ w, w ∈ s.cache.fetched ↔ s.cache.cache (cacheKey files) = some (.storage w)
  fetched_length : s.cache.fetched.length ≤ 1
  files_eq : ∀ g ∈ s.calls, g.files = files
  returned : ∀ g ∈ s.calls, ∀ v, g.phase = .returned v → s.cache.cache (cacheKey files) = some v

theorem StorageInv.start {cacheKey : CacheKeyFn} {c : Cache} {files : TemplateFiles}
    {isSnapshot : Bool} (n : ℕ) (hkey : c.cache (cacheKey files) = none) (hstored : c.stored = [])
    (hfetched : c.fetched = []) :
    StorageInv cacheKey files ⟨c, List.replicate n ⟨files, isSnapshot, .start⟩⟩ where
  stored := by simp [hkey, hstored]
  entry := by simp [hkey]
  fetched := by simp [hkey, hfetched]
  fetched_length := by simp [hfetched]
  files_eq := by simp +contextual [List.mem_replicate]
  returned := by simp +contextual [List.mem_replicate]

/-- One step of any call keeps the invariant. -/
theorem StorageInv.step {cacheKey : CacheKeyFn} {files : TemplateFiles} {s s' : Sys} {i : ℕ}
    {filesErr : Option String} (hinv : StorageInv cacheKey files s)
    (h : s.step cacheKey .storage i filesErr = some s') : StorageInv cacheKey files s' := by
  simp only [Sys.step] at h
  split at h
  · cases h
  rename_i g hg
  obtain ⟨⟨p, c'⟩, hstep, rfl⟩ := Option.map_eq_some'.mp h
  have hfiles : g.files = files := hinv.files_eq g (List.getElem?_mem hg)
  obtain ⟨gfiles, isSnapshot, phase⟩ := g
  dsimp only at hfiles hstep ⊢
  subst hfiles
  have hmem : ∀ g' ∈ s.calls.set i ⟨gfiles, isSnapshot, p⟩, g' ∈ s.calls ∨ g' = ⟨gfiles, isSnapshot, p⟩ :=
    fun _ h' => List.mem_or_eq_of_mem_set h'
  have hfiles' : ∀ g' ∈ s.calls.set i ⟨gfiles, isSnapshot, p⟩, g'.files = gfiles := fun g' hg' =>
    (hmem g' hg').elim (hinv.files_eq g') (fun h' => h' ▸ rfl)
  rcases Call.step_storage_cases hstep with ⟨hc, hs, hf, hp⟩ | ⟨v, hv, rfl, rfl⟩ | ⟨t, hnone, rfl, rfl⟩
  · refine ⟨?_, ?_, ?_, ?_, hfiles', ?_⟩ <;> simp only [hc, hs, hf]
    · exact hinv.stored
    · exact hinv.entry
    · exact hinv.fetched
    · exact hinv.fetched_length
    · intro g' hg' v hv
      rcases hmem g' hg' with h' | rfl
      · exact hinv.returned g' h' v hv
      · exact absurd hv (hp v)
  · refine ⟨hinv.stored, hinv.entry, hinv.fetched, hinv.fetched_length, hfiles', ?_⟩
    intro g' hg' v' hv'
    rcases hmem g' hg' with h' | rfl
    · exact hinv.returned g' h' v' hv'
    · cases hv'; exact hv
  · have hfetched : s.cache.fetched = [] :=
      List.eq_nil_iff_forall_not_mem.mpr fun w hw => by simp [(hinv.fetched w).mp hw] at hnone
    refine ⟨fun v => ?_, by simp, fun w => ?_, by simp [hfetched], hfiles', ?_⟩
    · simp only [List.mem_cons, Prod.mk.injEq, true_and, Function.update_same, Option.some.injEq,
        hinv.stored, hnone, reduceCtorEq, or_false]
      exact eq_comm
    · simp [hfetched, eq_comm]
    · intro g' hg' v' hv'
      rcases hmem g' hg' with h' | rfl
      · simp [hinv.returned g' h' v' hv'] at hnone
      · cases hv'; simp

theorem StorageInv.of_reachable {cacheKey : CacheKeyFn} {files : TemplateFiles} {init s : Sys}
    (h0 : StorageInv cacheKey files init) (h : Reachable cacheKey .storage init s) :
    StorageInv cacheKey files s := by
  induction h with
  | init => exact h0
  | step _ hstep ih => exact ih.step hstep

/-- In storage mode, through every interleaving of any number of calls of one identity
started on a cache with no entry under its key: at most one instance is ever stored under the
key, every call that returns a template returns the entry, and as soon as one has returned,
`Fetch` has been started exactly once, on that instance, and on no other. -/
theorem getTemplate_storage_one_instance {cacheKey : CacheKeyFn} {c : Cache}
    {files : TemplateFiles} {isSnapshot : Bool} {n : ℕ} {s : Sys}
    (hkey : c.cache (cacheKey files) = none) (hstored : c.stored = []) (hfetched : c.fetched = [])
    (h : Reachable cacheKey .storage ⟨c, List.replicate n ⟨files, isSnapshot, .start⟩⟩ s) :
    (∀ t t', (cacheKey files, t) ∈ s.cache.stored → (cacheKey files, t') ∈ s.cache.stored → t = t') ∧
    ∀ g ∈ s.calls, ∀ v, g.phase = .returned v →
      s.cache.cache (cacheKey files) = some v ∧ ∃ w, v = .storage w ∧ s.cache.fetched = [w] := by
  have hinv := (StorageInv.start n hkey hstored hfetched).of_reachable h
  refine ⟨fun t t' ht ht' => ?_, fun g hg v hv => ?_⟩
  · exact Option.some.inj (((hinv.stored t).mp ht).symm.trans ((hinv.stored t').mp ht'))
  · have hentry := hinv.returned g hg v hv
    obtain ⟨w, rfl⟩ := hinv.entry v hentry
    refine ⟨hentry, w, rfl, ?_⟩
    have hw : w ∈ s.cache.fetched := (hinv.fetched w).mpr hentry
    match hf : s.cache.fetched, hinv.fetched_length with
    | [w'], _ => rw [hf, List.mem_singleton] at hw; rw [hw]
    | [], _ => simp [hf] at hw

theorem getTemplate_storage_one_instance_after_race :
    ∃ s, Reachable (·.buildId) .storage ⟨newCache, List.replicate 2 ⟨raceFiles, false, .start⟩⟩ s ∧
      s.calls.map (·.phase) = [.returned (.storage ⟨0, raceFiles, false, none, none, none⟩),
        .returned (.storage ⟨0, raceFiles, false, none, none, none⟩)] ∧
      (∀ t t', (raceFiles.buildId, t) ∈ s.cache.stored → (raceFiles.buildId, t') ∈ s.cache.stored →
        t = t') ∧
      ∀ g ∈ s.calls, ∀ v, g.phase = .returned v →
        s.cache.cache raceFiles.buildId = some v ∧ ∃ w, v = .storage w ∧ s.cache.fetched = [w] := by
  obtain ⟨s, hrun⟩ : ∃ s, run (·.buildId) .storage
      ⟨newCache, List.replicate 2 ⟨raceFiles, false, .start⟩⟩
      [(0, none), (1, none), (0, none), (1, none)] = some s := ⟨_, rfl⟩
  have hreach := reachable_of_run .init hrun
  refine ⟨s, hreach, ?_, @getTemplate_storage_one_instance (·.buildId) newCache raceFiles false 2 s
    rfl rfl rfl hreach⟩
  simp only [run, Sys.step, Call.step] at hrun
  cases hrun
  rfl

end E2bInfra.Orchestrator
