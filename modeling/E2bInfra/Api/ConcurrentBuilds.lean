import E2bInfra.Api.StartBuild

/-!
# Concurrent requests to start builds

Requests to start builds of one template run at once. Each is a sequence of atomic steps: the
read of the template with its build, the read of the template's running builds, each
`TemplateBuildDelete`, `TemplateCreate`, and the status write. Both checks read the database
before any status is written, so two requests can pass them together: for one build both send
`TemplateCreate`, and for two builds each cancels the other before either has started, and then
both start. What does hold through every interleaving is the order the code's comment at line 249
asks for: a build is set to building only after its `TemplateCreate` went through. A request that
runs alone computes `postTemplatesTemplateIDBuildsBuildID`.
-/

namespace E2bInfra.Api

/-- Where a request is between its atomic steps: not started; with the template, its requested
build and the team loaded; cancelling the template's running builds; about to call
`CreateTemplate`; about to write the status, with the answer if the write goes through; or
answered. -/
inductive Pc
  | start
  | loaded (u : String) (env : Env) (builds : List EnvBuild) (team : Team)
  | deleting (u envID : String) (builds : List EnvBuild) (team : Team) (rest : List EnvBuild)
  | creating (u : String)
  | setting (u : String) (status : BuildStatus) (reason : String) (onOk : Response)
  | answered (r : Response)
  deriving DecidableEq, Repr

/-- The request's first step: parse the build ID, get the user's teams, load the template with
the build (the read of lines 69-75), and find the team that owns it. -/
def Request.begin (req : Request) (db : Db) : Pc :=
  match req.load db with
  | .error r => .answered r
  | .ok (u, env, builds, team) => .loaded u env builds team

/-- Where the checks of lines 172-195 send the request. -/
def afterChecks (u : String) (builds : List EnvBuild) (team : Team) : Pc :=
  match checkBuild builds team with
  | .error r => .answered r
  | .ok _ => .creating u

/-- The loop of `DeleteBuilds` over the builds left to cancel, then the checks. -/
def afterDeletes (u envID : String) (builds : List EnvBuild) (team : Team) :
    List EnvBuild → Pc
  | [] => afterChecks u builds team
  | rest => .deleting u envID builds team rest

/-- One atomic step of a request, with `err` the error of the call it makes, if it makes one:
where the request goes, what it did, and the database after it. -/
def Pc.step (req : Request) (db : Db) (err : Option String) :
    Pc → Option (Pc × List Effect × Db)
  | .start => some (req.begin db, [], db)
  | .loaded u env builds team =>
    match req.runningBuildsErr with
    | some _ => some (.answered (.apiError 500 "Error during template build request"), [], db)
    | none => some (afterDeletes u env.id builds team (db.runningBuilds env.id u), [], db)
  | .deleting _ _ _ _ [] => none
  | .deleting u envID builds team (b :: rest) =>
    match err with
    | some _ => some (.answered (.apiError 500 "Error during template build cancel request"), [], db)
    | none => some (afterDeletes u envID builds team rest, [.templateBuildDelete envID b.id], db)
  | .creating u =>
    match err with
    | some e => some (.setting u .failed ("error when building env: " ++ e) .noResponse, [], db)
    | none => some (.setting u .building "starting build" (.status 202),
        [.templateCreate req.templateID u], db)
  | .setting u status reason onOk =>
    let (effects, db) := writeStatus db u status reason err
    some (.answered (if err.isNone then onOk else .noResponse), effects, db)
  | .answered _ => none

/-- The database, what the requests did so far in order, and the requests. -/
structure World where
  db : Db
  log : List Effect
  requests : List (Request × Pc)
  deriving DecidableEq, Repr

/-- Request `i` takes its next step, with `err` the error of the call it makes. -/
def World.step (w : World) (i : ℕ) (err : Option String) : Option World :=
  match w.requests[i]? with
  | none => none
  | some (req, pc) => (pc.step req w.db err).map fun (pc, effects, db) =>
      ⟨db, w.log ++ effects, w.requests.set i (req, pc)⟩

/-- The worlds of every interleaving of the requests' steps, from `init`. -/
inductive Reachable (init : World) : World → Prop
  | init : Reachable init init
  | step {w w' : World} {i : ℕ} {err : Option String} : Reachable init w →
      w.step i err = some w' → Reachable init w'

/-- Take the steps of a schedule in order: the request to step and the error of its call. -/
def run : World → List (ℕ × Option String) → Option World
  | w, [] => some w
  | w, (i, err) :: rest => (w.step i err).bind (run · rest)

theorem reachable_of_run {init w w' : World} {l : List (ℕ × Option String)}
    (hw : Reachable init w) (h : run w l = some w') : Reachable init w' := by
  induction l generalizing w with
  | nil => cases h; exact hw
  | cons p rest ih =>
    obtain ⟨w1, h1, h2⟩ := Option.bind_eq_some.1 h
    exact ih (.step hw h1) h2

theorem run_append (w : World) (l₁ l₂ : List (ℕ × Option String)) :
    run w (l₁ ++ l₂) = (run w l₁).bind (run · l₂) := by
  induction l₁ generalizing w with
  | nil => rfl
  | cons p rest ih =>
    obtain ⟨i, err⟩ := p
    show ((w.step i err).bind fun x => run x (rest ++ l₂)) = _
    simp only [run, ih, Option.bind_assoc]

/-! ## Two requests that both pass the checks -/

/-- A template `t` of team `team`, with the given builds. -/
def raceDb (builds : List EnvBuild) : Db := ⟨[⟨"t", "team"⟩], builds⟩

/-- Two requests for one waiting build both read it as waiting before either writes its status,
and both send `TemplateCreate` for it. Two requests for two waiting builds each cancel the other
build before either has started, and then both start theirs: two builds of the template run,
neither cancelled after its start. -/
theorem handler_race_creates_twice :
    (∃ w, Reachable ⟨raceDb [⟨"b1", "t", .waiting, none⟩], [],
        [(startRequest "b1", .start), (startRequest "b1", .start)]⟩ w ∧
      w.log = [.templateCreate "t" "b1", .templateCreate "t" "b1"]) ∧
    (∃ w, Reachable ⟨raceDb [⟨"b1", "t", .waiting, none⟩, ⟨"b2", "t", .waiting, none⟩], [],
        [(startRequest "b1", .start), (startRequest "b2", .start)]⟩ w ∧
      w.log = [.templateBuildDelete "t" "b2", .templateBuildDelete "t" "b1",
        .templateCreate "t" "b1", .templateCreate "t" "b2"]) := by
  constructor
  · obtain ⟨w, hrun⟩ : ∃ w, run ⟨raceDb [⟨"b1", "t", .waiting, none⟩], [],
        [(startRequest "b1", .start), (startRequest "b1", .start)]⟩
        [(0, none), (1, none), (0, none), (1, none), (0, none), (1, none)] = some w := ⟨_, rfl⟩
    refine ⟨w, reachable_of_run .init hrun, ?_⟩
    cases hrun
    rfl
  · obtain ⟨w, hrun⟩ : ∃ w, run ⟨raceDb [⟨"b1", "t", .waiting, none⟩, ⟨"b2", "t", .waiting, none⟩],
        [], [(startRequest "b1", .start), (startRequest "b2", .start)]⟩
        [(0, none), (1, none), (0, none), (1, none), (0, none), (1, none), (0, none), (1, none)] =
        some w := ⟨_, rfl⟩
    refine ⟨w, reachable_of_run .init hrun, ?_⟩
    cases hrun
    rfl

/-! ## Building only after `TemplateCreate` -/

theorem afterChecks_ne_setting (u : String) (builds : List EnvBuild) (team : Team) {v : String}
    {status : BuildStatus} {reason : String} {onOk : Response} :
    afterChecks u builds team ≠ .setting v status reason onOk := by
  unfold afterChecks
  split <;> simp

theorem afterDeletes_ne_setting (u envID : String) (builds : List EnvBuild) (team : Team)
    (rest : List EnvBuild) {v : String} {status : BuildStatus} {reason : String}
    {onOk : Response} : afterDeletes u envID builds team rest ≠ .setting v status reason onOk := by
  cases rest with
  | nil => exact afterChecks_ne_setting u builds team
  | cons _ _ => simp [afterDeletes]

theorem Request.begin_ne_setting (req : Request) (db : Db) {v : String} {status : BuildStatus}
    {reason : String} {onOk : Response} : req.begin db ≠ .setting v status reason onOk := by
  unfold Request.begin
  split <;> simp

/-- What a step can write and where it can go: a status write comes only from a request about
to write that status, and a request reaches the building write only by a `TemplateCreate` that
went through. -/
theorem Pc.step_spec {req : Request} {db db' : Db} {err : Option String} {pc pc' : Pc}
    {effects : List Effect} (h : pc.step req db err = some (pc', effects, db')) :
    (∀ u status reason, .setStatus u status reason ∈ effects →
      ∃ onOk, pc = .setting u status reason onOk) ∧
    (∀ u reason onOk, pc' = .setting u .building reason onOk →
      pc = .creating u ∧ effects = [.templateCreate req.templateID u]) := by
  cases pc with
  | start =>
    cases h
    exact ⟨by simp, fun _ _ _ h => absurd h (Request.begin_ne_setting req db)⟩
  | loaded u env builds team =>
    simp only [Pc.step] at h
    split at h <;> cases h
    · exact ⟨by simp, by simp⟩
    · exact ⟨by simp, fun _ _ _ h => absurd h (afterDeletes_ne_setting _ _ _ _ _)⟩
  | deleting u envID builds team rest =>
    cases rest with
    | nil => cases h
    | cons b rest =>
      cases err with
      | some e => cases h; exact ⟨by simp, by simp⟩
      | none =>
        cases h
        exact ⟨by simp, fun _ _ _ h => absurd h (afterDeletes_ne_setting _ _ _ _ _)⟩
  | creating u =>
    cases err with
    | some e => cases h; exact ⟨by simp, by simp⟩
    | none => cases h; exact ⟨by simp, by simp⟩
  | setting u status reason onOk =>
    cases err with
    | some e => cases h; exact ⟨by simp [writeStatus], by simp⟩
    | none =>
      cases h
      refine ⟨fun u' status' reason' h => ?_, by simp⟩
      simp only [writeStatus, List.mem_singleton, Effect.setStatus.injEq] at h
      obtain ⟨rfl, rfl, rfl⟩ := h
      exact ⟨onOk, rfl⟩
  | answered r => cases h

/-- The invariant: every building write in the log follows a `TemplateCreate` of the build, and
every request about to write building has had its `TemplateCreate` go through. -/
structure CreatedInv (w : World) : Prop where
  log_created : ∀ log₁ log₂ u reason, w.log = log₁ ++ .setStatus u .building reason :: log₂ →
    ∃ t, .templateCreate t u ∈ log₁
  pending_created : ∀ c ∈ w.requests, ∀ u reason onOk, c.2 = .setting u .building reason onOk →
    ∃ t, .templateCreate t u ∈ w.log

/-- Appending at most one effect that is no building write keeps every building write where it
was; appending the building write of `u` puts the whole old log before it. -/
theorem eq_append_setStatus_of_append {log log₁ log₂ effects : List Effect} {u reason : String}
    (hlen : effects.length ≤ 1)
    (h : log ++ effects = log₁ ++ .setStatus u .building reason :: log₂) :
    (∃ log₂', log = log₁ ++ .setStatus u .building reason :: log₂') ∨
      (log₁ = log ∧ .setStatus u .building reason ∈ effects) := by
  rcases List.append_eq_append_iff.1 h with ⟨a, rfl, he⟩ | ⟨c, rfl, he⟩
  · cases a with
    | nil => exact .inr ⟨by simp, by simp [he]⟩
    | cons x a => exact absurd hlen (by simp [he])
  · cases c with
    | nil =>
      rw [List.nil_append] at he
      exact .inr ⟨by simp, he ▸ List.mem_cons_self _ _⟩
    | cons x c =>
      simp only [List.cons_append, List.cons.injEq] at he
      obtain ⟨rfl, -⟩ := he
      exact .inl ⟨c, rfl⟩

theorem Pc.step_length_le {req : Request} {db db' : Db} {err : Option String} {pc pc' : Pc}
    {effects : List Effect} (h : pc.step req db err = some (pc', effects, db')) :
    effects.length ≤ 1 := by
  cases pc with
  | deleting u envID builds team rest =>
    cases rest with
    | nil => cases h
    | cons b rest => cases err <;> cases h <;> simp
  | creating u => cases err <;> cases h <;> simp
  | setting u status reason onOk => cases err <;> cases h <;> simp [writeStatus]
  | loaded u env builds team => simp only [Pc.step] at h; split at h <;> cases h <;> simp
  | answered r => cases h
  | start => cases h; simp

theorem CreatedInv.step {w w' : World} {i : ℕ} {err : Option String} (hinv : CreatedInv w)
    (h : w.step i err = some w') : CreatedInv w' := by
  simp only [World.step] at h
  cases hc : w.requests[i]? with
  | none => simp [hc] at h
  | some c =>
    obtain ⟨req, pc⟩ := c
    simp only [hc, Option.map_eq_some'] at h
    obtain ⟨⟨pc', effects, db'⟩, hstep, rfl⟩ := h
    have hmem : (req, pc) ∈ w.requests := List.getElem?_mem hc
    obtain ⟨hwrite, hcreate⟩ := Pc.step_spec hstep
    constructor
    · intro log₁ log₂ u reason hlog
      rcases eq_append_setStatus_of_append (Pc.step_length_le hstep) hlog with
        ⟨log₂', hold⟩ | ⟨rfl, hnew⟩
      · exact hinv.log_created _ _ _ _ hold
      · obtain ⟨onOk, rfl⟩ := hwrite u .building reason hnew
        exact hinv.pending_created _ hmem u reason onOk rfl
    · intro c hc' u reason onOk hpc
      rcases List.mem_or_eq_of_mem_set hc' with hc' | rfl
      · obtain ⟨t, ht⟩ := hinv.pending_created c hc' u reason onOk hpc
        exact ⟨t, List.mem_append_left _ ht⟩
      · obtain ⟨-, rfl⟩ := hcreate u reason onOk hpc
        exact ⟨req.templateID, by simp⟩

theorem CreatedInv.of_reachable {db : Db} {requests : List Request} {w : World}
    (hw : Reachable ⟨db, [], requests.map (·, .start)⟩ w) : CreatedInv w := by
  induction hw with
  | init => exact ⟨by simp, by simp⟩
  | step _ h ih => exact ih.step h

/-- Through every interleaving of any number of requests, started on any database, every write
of the building status follows a `TemplateCreate` of the same build that went through, as the
comment at line 249 asks. -/
theorem handler_building_after_create {db : Db} {requests : List Request} {w : World}
    (hw : Reachable ⟨db, [], requests.map (·, .start)⟩ w) {log₁ log₂ : List Effect}
    {u reason : String} (hlog : w.log = log₁ ++ .setStatus u .building reason :: log₂) :
    ∃ t, .templateCreate t u ∈ log₁ := by
  exact (CreatedInv.of_reachable hw).log_created _ _ _ _ hlog

/-- One request started on a waiting build runs to its building write. -/
theorem handler_building_after_create_alone :
    ∃ w, Reachable ⟨raceDb [⟨"b1", "t", .waiting, none⟩], [], [startRequest "b1"].map (·, .start)⟩ w ∧
      w.log = [.templateCreate "t" "b1"] ++ .setStatus "b1" .building "starting build" :: [] ∧
      ∃ t, .templateCreate t "b1" ∈ [Effect.templateCreate "t" "b1"] := by
  obtain ⟨w, hrun⟩ : ∃ w, run ⟨raceDb [⟨"b1", "t", .waiting, none⟩], [],
      [startRequest "b1"].map (·, .start)⟩ [(0, none), (0, none), (0, none), (0, none)] = some w :=
    ⟨_, rfl⟩
  have hw := reachable_of_run .init hrun
  have hlog : w.log = [.templateCreate "t" "b1"] ++
      .setStatus "b1" .building "starting build" :: [] := by cases hrun; rfl
  exact ⟨w, hw, hlog, handler_building_after_create hw hlog⟩

/-! ## A request alone -/

/-- The schedule on which `DeleteBuilds` meets the given errors: a step per call, up to the first
error. -/
def deleteSchedule (deleteErr : String → Option String) : List EnvBuild → List (ℕ × Option String)
  | [] => []
  | b :: rest =>
    match deleteErr b.id with
    | some e => [(0, some e)]
    | none => (0, none) :: deleteSchedule deleteErr rest

/-- Run alone through the schedule of its `DeleteBuilds`, a request cancels the builds as
`deleteBuilds` does and goes to its checks, or answers the error of a failed cancel. -/
theorem run_deleteSchedule (db : Db) (log : List Effect) (req : Request) (u envID : String)
    (builds : List EnvBuild) (team : Team) (deleteErr : String → Option String)
    (rest : List EnvBuild) :
    run ⟨db, log, [(req, afterDeletes u envID builds team rest)]⟩ (deleteSchedule deleteErr rest) =
      some ⟨db, log ++ (deleteBuilds envID deleteErr rest).1,
        [(req, if (deleteBuilds envID deleteErr rest).2 then afterChecks u builds team
          else .answered (.apiError 500 "Error during template build cancel request"))]⟩ := by
  induction rest generalizing log with
  | nil => simp [deleteSchedule, deleteBuilds, afterDeletes, run]
  | cons b rest ih =>
    cases he : deleteErr b.id with
    | some e => simp [deleteSchedule, deleteBuilds, afterDeletes, run, World.step, Pc.step, he]
    | none =>
      simp only [deleteSchedule, deleteBuilds, he, run, World.step, afterDeletes]
      have := ih (log ++ [.templateBuildDelete envID b.id])
      rw [List.append_assoc, List.singleton_append] at this
      simpa [Pc.step] using this

/-- The schedule of a request run alone with the given errors of its calls. -/
def aloneSchedule (db : Db) (req : Request) (deleteErr : String → Option String)
    (createErr setStatusErr : Option String) : List (ℕ × Option String) :=
  match req.begin db, req.runningBuildsErr with
  | .loaded u env builds team, none =>
    (0, none) :: (0, none) :: deleteSchedule deleteErr (db.runningBuilds env.id u) ++
      (if (deleteBuilds env.id deleteErr (db.runningBuilds env.id u)).2 ∧
          (checkBuild builds team).isOk then [(0, createErr), (0, setStatusErr)] else [])
  | .loaded _ _ _ _, some _ => [(0, none), (0, none)]
  | _, _ => [(0, none)]

/-- A request that runs alone, with the given errors of its calls, answers, acts and leaves the
database as `postTemplatesTemplateIDBuildsBuildID` says. -/
theorem handler_alone (db : Db) (req : Request) (deleteErr : String → Option String)
    (createErr setStatusErr : Option String) :
    run ⟨db, [], [(req, .start)]⟩ (aloneSchedule db req deleteErr createErr setStatusErr) =
      some ⟨(postTemplatesTemplateIDBuildsBuildID db req deleteErr createErr setStatusErr).2.2,
        (postTemplatesTemplateIDBuildsBuildID db req deleteErr createErr setStatusErr).2.1,
        [(req, .answered
          (postTemplatesTemplateIDBuildsBuildID db req deleteErr createErr setStatusErr).1)]⟩ := by
  rcases hload : req.load db with r | ⟨u, env, builds, team⟩
  · simp [aloneSchedule, Request.begin, hload, run, World.step, Pc.step,
      postTemplatesTemplateIDBuildsBuildID]
  have hbegin : req.begin db = .loaded u env builds team := by simp [Request.begin, hload]
  rcases hre : req.runningBuildsErr with _ | e
  swap
  · simp [aloneSchedule, hbegin, hre, hload, run, World.step, Pc.step,
      postTemplatesTemplateIDBuildsBuildID]
  have hloaded : run ⟨db, [], [(req, .start)]⟩ [(0, none), (0, none)] =
      some ⟨db, [], [(req, afterDeletes u env.id builds team (db.runningBuilds env.id u))]⟩ := by
    simp [run, World.step, Pc.step, hbegin, hre]
  simp only [aloneSchedule, hbegin, hre, postTemplatesTemplateIDBuildsBuildID, hload]
  rw [show ∀ l t : List (ℕ × Option String), (0, none) :: (0, none) :: l ++ t =
    [(0, none), (0, none)] ++ l ++ t from fun _ _ => rfl, run_append, run_append, hloaded,
    Option.some_bind, run_deleteSchedule, Option.some_bind]
  rcases deleteBuilds env.id deleteErr (db.runningBuilds env.id u) with ⟨deletes, _ | _⟩
  · simp [run]
  rcases hcheck : checkBuild builds team with r | b
  · simp [run, afterChecks, hcheck]
  cases createErr <;> cases setStatusErr <;>
    simp [run, afterChecks, hcheck, World.step, Pc.step, createAndSetStatus, writeStatus]

end E2bInfra.Api
