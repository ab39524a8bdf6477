import Mathlib.Data.List.Nodup

/-!
# Starting a template build

`PostTemplatesTemplateIDBuildsBuildID` parses the build ID, gets the user's teams, loads the
template with the requested build, checks that one of the user's teams owns it, queries the
template's other waiting or building builds and cancels them at the template manager, and only
then looks at the requested build: it must have been loaded, be waiting, and have a cluster node
when the team is in a cluster. When it passes, the handler sends `TemplateCreate` and sets the
build's status to building.

The checks come after the cancellation, and the first of them indexes the loaded builds with no
length test. A request for a build the template does not have cancels the template's builds in
flight and then panics; a request for a build that is not waiting cancels them and is refused.
-/

namespace E2bInfra.Api

/-- `envbuild.Status`: the values the handler writes or compares with, and any other. -/
inductive BuildStatus
  | waiting
  | building
  | failed
  | other (name : String)
  deriving DecidableEq, Repr

/-- An `env_builds` row, by the fields the handler reads. -/
structure EnvBuild where
  id : String
  envID : String
  status : BuildStatus
  clusterNodeID : Option String
  deriving DecidableEq, Repr

/-- An `envs` row: a template and the team that owns it. -/
structure Env where
  id : String
  teamID : String
  deriving DecidableEq, Repr

/-- A team of the user, with its cluster if it has one. -/
structure Team where
  id : String
  clusterID : Option String
  deriving DecidableEq, Repr

/-- The database, by the tables the handler reads and writes. -/
structure Db where
  envs : List Env
  envBuilds : List EnvBuild
  deriving DecidableEq, Repr

/-- A request: the template and build IDs of its path, the build ID as `uuid.Parse` reads it
(`none` when it is no UUID), what `GetUserAndTeams` returns for it (its error, or else the user's
teams), and the errors of the database calls of its two queries, where the call itself fails:
the template query's (the model computes its not-found error from the rows) and the running
builds query's. -/
structure Request where
  templateID : String
  buildID : String
  buildUUID : Option String
  teamsErr : Option String
  teams : List Team
  queryEnvErr : Option String
  runningBuildsErr : Option String
  deriving DecidableEq, Repr

/-- The handler's answer: an error through `sendAPIStoreError`, a bare status, none at all (it
returns without writing one), or a panic of the Go runtime. -/
inductive Response
  | apiError (code : ℕ) (message : String)
  | status (code : ℕ)
  | noResponse
  | panic (message : String)
  deriving DecidableEq, Repr

/-- What the handler does outside its answer: a call to the template manager that went
through, or a status write to the database. -/
inductive Effect
  | templateBuildDelete (templateID buildID : String)
  | templateCreate (templateID buildID : String)
  | setStatus (buildID : String) (status : BuildStatus) (reason : String)
  deriving DecidableEq, Repr

/-- The error of `Only` when no template has the ID; it comes from generated code that is not in
the repository. -/
def errEnvNotFound : String := "models: env not found"

/-- The query of lines 69-75: the template with the given ID, with its builds of the given ID;
`none` where `Only` finds no template. -/
def Db.queryEnv (db : Db) (templateID buildUUID : String) : Option (Env × List EnvBuild) :=
  (db.envs.find? (·.id = templateID)).map fun env =>
    (env, db.envBuilds.filter fun b => b.envID = env.id ∧ b.id = buildUUID)

/-- The query of lines 128-137: the template's waiting or building builds but the requested one. -/
def Db.runningBuilds (db : Db) (envID buildUUID : String) : List EnvBuild :=
  db.envBuilds.filter fun b =>
    b.envID = envID ∧ (b.status = .waiting ∨ b.status = .building) ∧ b.id ≠ buildUUID

/-- The row update of `SetStatus`, whose code is not in the repository: the build's status. -/
def Db.setStatus (db : Db) (buildID : String) (status : BuildStatus) : Db :=
  { db with envBuilds := db.envBuilds.map fun b =>
      if b.id = buildID then { b with status := status } else b }

/-- `DeleteBuilds` on builds of a template, with `deleteErr` the error of each `DeleteBuild`
call: the deletions that went through, and whether all did. It stops at the first error. -/
def deleteBuilds (templateID : String) (deleteErr : String → Option String) :
    List EnvBuild → List Effect × Bool
  | [] => ([], true)
  | b :: rest =>
    match deleteErr b.id with
    | some _ => ([], false)
    | none =>
      let (effects, ok) := deleteBuilds templateID deleteErr rest
      (.templateBuildDelete templateID b.id :: effects, ok)

/-- The index panic of line 172 on an empty `envDB.Edges.Builds`. -/
def indexPanic : Response := .panic "runtime error: index out of range [0] with length 0"

/-- Lines 172-195: the first loaded build must be waiting, and have a cluster node when the
team is in a cluster. -/
def checkBuild (builds : List EnvBuild) (team : Team) : Except Response EnvBuild :=
  match builds with
  | [] => .error indexPanic
  | build :: _ =>
    if build.status ≠ .waiting then .error (.apiError 400 "build is not in waiting state")
    else if team.clusterID.isSome ∧ build.clusterNodeID.isNone then
      .error (.apiError 500 "build is not assigned to a cluster node")
    else .ok build

/-- A `SetStatus` call with `err` its error: the write and the database after it. -/
def writeStatus (db : Db) (buildID : String) (status : BuildStatus) (reason : String) :
    Option String → List Effect × Db
  | none => ([.setStatus buildID status reason], db.setStatus buildID status)
  | some _ => ([], db)

/-- Lines 205-268: `CreateTemplate` with `createErr` its error, then `SetStatus` with
`setStatusErr` its error: failed with the reason on an error, else building. -/
def createAndSetStatus (db : Db) (templateID buildUUID : String)
    (createErr setStatusErr : Option String) : Response × List Effect × Db :=
  match createErr with
  | some e =>
    let (effects, db) :=
      writeStatus db buildUUID .failed ("error when building env: " ++ e) setStatusErr
    (.noResponse, effects, db)
  | none =>
    let (effects, db) := writeStatus db buildUUID .building "starting build" setStatusErr
    (if setStatusErr.isNone then .status 202 else .noResponse,
      .templateCreate templateID buildUUID :: effects, db)

/-- Lines 33-111: parse the build ID, get the user's teams, load the template with the build
and find the user's team that owns it; or the answer of the first of them that fails. -/
def Request.load (req : Request) (db : Db) : Except Response (String × Env × List EnvBuild × Team) :=
  match req.buildUUID with
  | none => .error (.apiError 400 ("Invalid build ID: " ++ req.buildID))
  | some u =>
    match req.teamsErr with
    | some e => .error (.apiError 500 ("Error when getting default team: " ++ e))
    | none =>
      match req.queryEnvErr with
      | some e => .error (.apiError 404 ("Error when getting template: " ++ e))
      | none =>
        match db.queryEnv req.templateID u with
        | none => .error (.apiError 404 ("Error when getting template: " ++ errEnvNotFound))
        | some (env, builds) =>
          match req.teams.find? (·.id = env.teamID) with
          | none => .error (.apiError 403 "User does not have access to the template")
          | some team => .ok (u, env, builds, team)

/-- `PostTemplatesTemplateIDBuildsBuildID` run alone on `db`, with the errors of the calls it
makes: its answer, what it did in order, and the database after it. -/
def postTemplatesTemplateIDBuildsBuildID (db : Db) (req : Request)
    (deleteErr : String → Option String) (createErr setStatusErr : Option String) :
    Response × List Effect × Db :=
  match req.load db with
  | .error r => (r, [], db)
  | .ok (u, env, builds, team) =>
    match req.runningBuildsErr with
    | some _ => (.apiError 500 "Error during template build request", [], db)
    | none =>
      match deleteBuilds env.id deleteErr (db.runningBuilds env.id u) with
      | (deletes, false) =>
        (.apiError 500 "Error during template build cancel request", deletes, db)
      | (deletes, true) =>
        match checkBuild builds team with
        | .error r => (r, deletes, db)
        | .ok _ =>
          let (r, effects, db) :=
            createAndSetStatus db req.templateID u createErr setStatusErr
          (r, deletes ++ effects, db)

/-- A request that passes the first checks has a parsed build ID, a template with the build
loaded, and a team of the user that owns it. -/
theorem Request.load_eq_ok {req : Request} {db : Db} {u : String} {env : Env}
    {builds : List EnvBuild} {team : Team} (h : req.load db = .ok (u, env, builds, team)) :
    req.buildUUID = some u ∧ db.queryEnv req.templateID u = some (env, builds) ∧
      req.teams.find? (·.id = env.teamID) = some team := by
  unfold Request.load at h
  repeat' split at h
  all_goals cases h
  exact ⟨‹_›, ‹_›, ‹_›⟩

/-- The first checks fail with an API error. -/
theorem Request.load_eq_error {req : Request} {db : Db} {r : Response}
    (h : req.load db = .error r) : ∃ code message, r = .apiError code message := by
  unfold Request.load at h
  repeat' split at h
  all_goals cases h
  all_goals exact ⟨_, _, rfl⟩

/-- `DeleteBuilds` deletes a prefix of its list, one `TemplateBuildDelete` each, and all of it
when every call goes through. -/
theorem deleteBuilds_eq_take (templateID : String) (deleteErr : String → Option String)
    (l : List EnvBuild) :
    ∃ k, (deleteBuilds templateID deleteErr l).1 =
        (l.take k).map (fun b => .templateBuildDelete templateID b.id) ∧
      ((deleteBuilds templateID deleteErr l).2 = true → k = l.length) := by
  induction l with
  | nil => exact ⟨0, rfl, fun _ => rfl⟩
  | cons b rest ih =>
    obtain ⟨k, hk, hok⟩ := ih
    simp only [deleteBuilds]
    cases deleteErr b.id with
    | some _ => exact ⟨0, rfl, fun h => absurd h (by simp)⟩
    | none => exact ⟨k + 1, by simp [hk], fun h => by simp [hok h]⟩

/-- A request whose build is not loaded, not waiting, or without a cluster node on a team in a
cluster, for every database and every outcome of the calls: the handler leaves the database as it
was, sends no `TemplateCreate` and writes no status; what it does is cancel a prefix of the
template's other waiting or building builds, and it answers with an API error or panics. -/
theorem handler_rejects {db : Db} {req : Request} {deleteErr : String → Option String}
    {createErr setStatusErr : Option String} {u : String} {env : Env} {builds : List EnvBuild}
    {team : Team} (hu : req.buildUUID = some u)
    (henv : db.queryEnv req.templateID u = some (env, builds))
    (hteam : req.teams.find? (·.id = env.teamID) = some team)
    (hbad : ∀ b ∈ builds.head?, b.status ≠ .waiting ∨
      (team.clusterID.isSome ∧ b.clusterNodeID.isNone)) :
    (postTemplatesTemplateIDBuildsBuildID db req deleteErr createErr setStatusErr).2.2 = db ∧
      (∃ k, (postTemplatesTemplateIDBuildsBuildID db req deleteErr createErr setStatusErr).2.1 =
        ((db.runningBuilds env.id u).take k).map (fun b => .templateBuildDelete env.id b.id)) ∧
      ((postTemplatesTemplateIDBuildsBuildID db req deleteErr createErr setStatusErr).1 =
          indexPanic ∨
        ∃ code message,
          (postTemplatesTemplateIDBuildsBuildID db req deleteErr createErr setStatusErr).1 =
            .apiError code message) := by
  obtain ⟨k, hk, -⟩ := deleteBuilds_eq_take env.id deleteErr (db.runningBuilds env.id u)
  have hcheck : ∃ r, checkBuild builds team = .error r ∧
      (r = indexPanic ∨ ∃ code message, r = .apiError code message) := by
    cases builds with
    | nil => exact ⟨_, rfl, .inl rfl⟩
    | cons b rest =>
      simp only [checkBuild]
      split_ifs with hs hc
      any_goals exact ⟨_, rfl, .inr ⟨_, _, rfl⟩⟩
      exact absurd (hbad b rfl) (by tauto)
  obtain ⟨r, hr, hrerr⟩ := hcheck
  unfold postTemplatesTemplateIDBuildsBuildID
  rcases hload : req.load db with r' | ⟨u', env', builds', team'⟩
  · exact ⟨rfl, ⟨0, rfl⟩, .inr (Request.load_eq_error hload)⟩
  obtain ⟨hu', henv', hteam'⟩ := Request.load_eq_ok hload
  obtain rfl : u = u' := Option.some.inj (hu.symm.trans hu')
  obtain ⟨rfl, rfl⟩ := Prod.mk.inj (Option.some.inj (henv.symm.trans henv'))
  obtain rfl := Option.some.inj (hteam.symm.trans hteam')
  rcases req.runningBuildsErr with _ | e
  swap
  · exact ⟨rfl, ⟨0, rfl⟩, .inr ⟨_, _, rfl⟩⟩
  dsimp only
  cases hdel : deleteBuilds env.id deleteErr (db.runningBuilds env.id u) with
  | mk deletes ok =>
    rw [hdel] at hk
    cases ok with
    | false => exact ⟨rfl, ⟨k, hk⟩, .inr ⟨_, _, rfl⟩⟩
    | true =>
      simp only [hr, true_and]
      exact ⟨⟨k, hk⟩, hrerr⟩

/-- Template `t` of team `team`, with its build `b1` building. -/
def busyDb : Db := ⟨[⟨"t", "team"⟩], [⟨"b1", "t", .building, none⟩]⟩

/-- A request of a member of `team` to start build `b` of template `t`. -/
def startRequest (b : String) : Request := ⟨"t", b, some b, none, [⟨"team", none⟩], none, none⟩

/-- A request for build `b2`, which template `t` does not have: the handler cancels `b1` and
answers the index panic, with the database unchanged. -/
theorem handler_rejects_unknown_build :
    (postTemplatesTemplateIDBuildsBuildID busyDb (startRequest "b2") (fun _ => none) none
        none).2.2 = busyDb ∧
      (∃ k, (postTemplatesTemplateIDBuildsBuildID busyDb (startRequest "b2") (fun _ => none) none
        none).2.1 = ((busyDb.runningBuilds "t" "b2").take k).map
          (fun b => .templateBuildDelete "t" b.id)) ∧
      ((postTemplatesTemplateIDBuildsBuildID busyDb (startRequest "b2") (fun _ => none) none
          none).1 = indexPanic ∨
        ∃ code message, (postTemplatesTemplateIDBuildsBuildID busyDb (startRequest "b2")
          (fun _ => none) none none).1 = .apiError code message) :=
  @handler_rejects busyDb (startRequest "b2") (fun _ => none) none none "b2" ⟨"t", "team"⟩ []
    ⟨"team", none⟩ rfl (by decide) (by decide) (by simp)

/-- A request for a build the template does not have, while another of its builds is building:
the handler cancels that build at the template manager, then indexes the empty list of loaded
builds and panics. -/
theorem handler_cancels_then_panics :
    postTemplatesTemplateIDBuildsBuildID busyDb (startRequest "b2") (fun _ => none) none none =
      (indexPanic, [.templateBuildDelete "t" "b1"], busyDb) := by
  decide

/-! ## Requests one after another -/

/-- The IDs of the builds a list of effects sends `TemplateCreate`, in order. -/
def createdIDs (effects : List Effect) : List String :=
  effects.filterMap fun
    | .templateCreate _ u => some u
    | _ => none

@[simp] theorem createdIDs_append (e₁ e₂ : List Effect) :
    createdIDs (e₁ ++ e₂) = createdIDs e₁ ++ createdIDs e₂ :=
  List.filterMap_append _ _ _

@[simp] theorem createdIDs_deleteBuilds (templateID : String)
    (deleteErr : String → Option String) (l : List EnvBuild) :
    createdIDs (deleteBuilds templateID deleteErr l).1 = [] := by
  induction l with
  | nil => rfl
  | cons b rest ih =>
    simp only [deleteBuilds]
    cases deleteErr b.id with
    | some _ => rfl
    | none => simpa [createdIDs] using ih

theorem checkBuild_eq_ok {builds : List EnvBuild} {team : Team} {b : EnvBuild}
    (h : checkBuild builds team = .ok b) : b ∈ builds ∧ b.status = .waiting := by
  cases builds with
  | nil => cases h
  | cons b' rest =>
    simp only [checkBuild] at h
    split_ifs at h with hs
    cases h
    exact ⟨List.mem_cons_self _ _, by simpa using hs⟩

/-- What one request does to the database and to the builds it starts: nothing to either, or,
after the checks passed on a waiting build `u`, what `CreateTemplate` and `SetStatus` do for `u`;
its cancellations start nothing. -/
theorem handler_cases (db : Db) (req : Request) (deleteErr : String → Option String)
    (createErr setStatusErr : Option String) :
    (createdIDs (postTemplatesTemplateIDBuildsBuildID db req deleteErr createErr setStatusErr).2.1 =
        [] ∧ (postTemplatesTemplateIDBuildsBuildID db req deleteErr createErr setStatusErr).2.2 = db) ∨
    ∃ u, ∃ b ∈ db.envBuilds, b.id = u ∧ b.status = .waiting ∧
      createdIDs (postTemplatesTemplateIDBuildsBuildID db req deleteErr createErr setStatusErr).2.1 =
        createdIDs (createAndSetStatus db req.templateID u createErr setStatusErr).2.1 ∧
      (postTemplatesTemplateIDBuildsBuildID db req deleteErr createErr setStatusErr).2.2 =
        (createAndSetStatus db req.templateID u createErr setStatusErr).2.2 := by
  rcases hload : req.load db with r | ⟨u, env, builds, team⟩
  · exact .inl (by simp [postTemplatesTemplateIDBuildsBuildID, hload, createdIDs])
  obtain ⟨-, henv, -⟩ := Request.load_eq_ok hload
  rcases hre : req.runningBuildsErr with _ | e
  swap
  · exact .inl (by simp [postTemplatesTemplateIDBuildsBuildID, hload, hre, createdIDs])
  have hdeletes := createdIDs_deleteBuilds env.id deleteErr (db.runningBuilds env.id u)
  rcases hdel : deleteBuilds env.id deleteErr (db.runningBuilds env.id u) with ⟨deletes, _ | _⟩
  · rw [hdel] at hdeletes
    exact .inl (by simp [postTemplatesTemplateIDBuildsBuildID, hload, hre, hdel, hdeletes])
  rw [hdel] at hdeletes
  rcases hcheck : checkBuild builds team with r | b
  · exact .inl (by simp [postTemplatesTemplateIDBuildsBuildID, hload, hre, hdel, hcheck,
      hdeletes])
  obtain ⟨hb, hwaiting⟩ := checkBuild_eq_ok hcheck
  simp only [postTemplatesTemplateIDBuildsBuildID, hload, hre, hdel, hcheck]
  simp only [Db.queryEnv, Option.map_eq_some', Prod.mk.injEq] at henv
  obtain ⟨_, -, rfl, rfl⟩ := henv
  simp only [List.mem_filter, decide_eq_true_eq] at hb
  exact .inr ⟨u, b, hb.1, hb.2.2, hwaiting, by simp [hdeletes], rfl⟩

/-- Requests handled one after another, each with the errors of its calls: what they did, in
order, the database after them, and their answers. -/
def serial : Db → List (Request × (String → Option String) × Option String × Option String) →
    List Effect × Db × List Response
  | db, [] => ([], db, [])
  | db, (req, deleteErr, createErr, setStatusErr) :: rest =>
    let (r, effects, db) := postTemplatesTemplateIDBuildsBuildID db req deleteErr createErr setStatusErr
    let (effects', db, rs) := serial db rest
    (effects ++ effects', db, r :: rs)

/-- The invariant of serial requests whose status writes go through: a build sent
`TemplateCreate` is building in every row of it. -/
def CreatedBuilding (db : Db) (log : List Effect) : Prop :=
  ∀ u ∈ createdIDs log, ∀ b ∈ db.envBuilds, b.id = u → b.status = .building

theorem mem_setStatus {db : Db} {u : String} {status : BuildStatus} {b : EnvBuild}
    (hb : b ∈ (db.setStatus u status).envBuilds) :
    (b.id = u ∧ b.status = status) ∨ (b.id ≠ u ∧ b ∈ db.envBuilds) := by
  simp only [Db.setStatus, List.mem_map] at hb
  obtain ⟨b₀, hb₀, rfl⟩ := hb
  split_ifs with h
  · exact .inl ⟨h, rfl⟩
  · exact .inr ⟨h, hb₀⟩

/-- One request whose status write goes through keeps the invariant, and starts no build
started before. -/
theorem CreatedBuilding.handler {db : Db} {log : List Effect} (hinv : CreatedBuilding db log)
    (hnodup : (createdIDs log).Nodup) (req : Request) (deleteErr : String → Option String)
    (createErr : Option String) :
    CreatedBuilding (postTemplatesTemplateIDBuildsBuildID db req deleteErr createErr none).2.2
        (log ++ (postTemplatesTemplateIDBuildsBuildID db req deleteErr createErr none).2.1) ∧
      (createdIDs (log ++
        (postTemplatesTemplateIDBuildsBuildID db req deleteErr createErr none).2.1)).Nodup := by
  rcases handler_cases db req deleteErr createErr none with ⟨hc, hdb⟩ | ⟨u, b, hb, rfl, hw, hc, hdb⟩
  · rw [hdb]
    refine ⟨fun u hu => hinv u (by simpa [hc] using hu), by simpa [hc] using hnodup⟩
  have hnew : b.id ∉ createdIDs log := fun h => by simp [hinv _ h b hb rfl] at hw
  rw [hdb]
  refine ⟨fun u hu b' hb' hid => ?_, ?_⟩
  · rw [createdIDs_append, hc, List.mem_append] at hu
    cases createErr with
    | some e =>
      have hu : u ∈ createdIDs log :=
        hu.resolve_right (by simp [createAndSetStatus, writeStatus, createdIDs])
      rcases mem_setStatus hb' with ⟨hid', -⟩ | ⟨-, hb'⟩
      · exact absurd (hid' ▸ hid ▸ hu) hnew
      · exact hinv u hu b' hb' hid
    | none =>
      rcases mem_setStatus hb' with ⟨-, hst⟩ | ⟨hne, hb'⟩
      · exact hst
      · rcases hu with hu | hu
        · exact hinv u hu b' hb' hid
        · simp only [createAndSetStatus, writeStatus, createdIDs, List.filterMap_cons,
            List.filterMap_nil, List.mem_singleton] at hu
          exact absurd (hid.trans hu) hne
  · rw [createdIDs_append, hc]
    cases createErr with
    | some e => simpa [createAndSetStatus, writeStatus, createdIDs] using hnodup
    | none =>
      have hone : createdIDs (createAndSetStatus db req.templateID b.id none none).2.1 = [b.id] :=
        rfl
      rw [hone]
      simpa [List.nodup_append, hnew] using hnodup

/-- Requests that do not overlap, on any database, with every status write going through: no
build is sent `TemplateCreate` twice. The status write is what stops a second request: the build
it marks building fails the waiting test. -/
theorem serial_creates_once {db : Db}
    {calls : List (Request × (String → Option String) × Option String × Option String)}
    (hset : ∀ c ∈ calls, c.2.2.2 = none) : (createdIDs (serial db calls).1).Nodup := by
  suffices h : ∀ (db : Db) (log : List Effect), CreatedBuilding db log →
      (createdIDs log).Nodup → (createdIDs (log ++ (serial db calls).1)).Nodup from
    by simpa using h db [] (fun _ hu => by simp [createdIDs] at hu) List.nodup_nil
  induction calls with
  | nil => intro db log _ hnodup; simpa [serial] using hnodup
  | cons c rest ih =>
    obtain ⟨req, deleteErr, createErr, setStatusErr⟩ := c
    obtain rfl : setStatusErr = none := hset _ (List.mem_cons_self _ _)
    intro db log hinv hnodup
    obtain ⟨hinv', hnodup'⟩ := hinv.handler hnodup req deleteErr createErr
    have := ih (fun c hc => hset c (List.mem_cons_of_mem _ hc)) _ _ hinv' hnodup'
    simpa [serial, List.append_assoc] using this

/-- Two requests for one waiting build, one after the other: the first starts it, the second is
refused. -/
theorem serial_creates_once_twice_requested :
    (createdIDs (serial ⟨[⟨"t", "team"⟩], [⟨"b1", "t", .waiting, none⟩]⟩
      [(startRequest "b1", fun _ => none, none, none),
       (startRequest "b1", fun _ => none, none, none)]).1).Nodup :=
  serial_creates_once (by simp)

/-- The status write cannot be dropped from `serial_creates_once`: when it fails, the build stays
waiting, and a later request for it sends `TemplateCreate` for it again, with no race. -/
theorem serial_creates_twice_after_failed_status :
    createdIDs (serial ⟨[⟨"t", "team"⟩], [⟨"b1", "t", .waiting, none⟩]⟩
      [(startRequest "b1", fun _ => none, none, some "db down"),
       (startRequest "b1", fun _ => none, none, none)]).1 = ["b1", "b1"] := by
  decide

end E2bInfra.Api
