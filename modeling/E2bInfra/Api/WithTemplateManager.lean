import E2bInfra.Api.StartBuild
import E2bInfra.TemplateManager.Calls

/-!
# The build handler on the template manager

The model of the handler takes the error of each call to the template manager as given. Here
those errors come from the model of the template manager. Lines 153-158 build each `DeleteBuild`
with the template and build IDs only, so every cancellation goes to the local template manager,
whatever the team's cluster. The handler's log of cancellations is then exactly the template
manager's requests that went through. While the local template manager is unhealthy, a template
with two waiting or building builds is stuck: every request for it fails at the cancellation,
before any check of the requested build, and requests one after another never start a build of
it.
-/

namespace E2bInfra.Api

open TemplateManager (EdgePool ServiceInfoStatus Sent)

/-- Lines 153-158: the handler's `DeleteBuild` requests, with no cluster and no node. -/
def cancelRequests (templateID : String) (builds : List EnvBuild) :
    List TemplateManager.DeleteBuild :=
  builds.map fun b => ⟨b.id, templateID, none, none⟩

/-- The effect of a request in the handler's log, when it went through. -/
def effectOf (s : Sent) : Option Effect :=
  match s.err, s.request with
  | none, .templateBuildDelete buildID templateID => some (.templateBuildDelete templateID buildID)
  | none, .templateCreate config => some (.templateCreate config.templateID config.buildID)
  | _, _ => none

/-- The error of the handler's `DeleteBuild` call for a build of `templateID`, where `status` is
the local client's status and `rpcErr` is the builder's answer by build ID. -/
def deleteErrOf (edgePool : EdgePool) (status : ServiceInfoStatus) (templateID : String)
    (rpcErr : String → Option String) (buildID : String) : Option String :=
  (TemplateManager.deleteBuild edgePool status buildID templateID none none (rpcErr buildID)).1

/-- The handler's `DeleteBuilds`, with each call failing as the template manager's `DeleteBuild`
fails, is the template manager's `DeleteBuilds` on the handler's requests. It goes through
exactly when that returns no error, its effects are the requests that went through, and every
request goes to the local template manager, whatever the team's cluster. -/
theorem deleteBuilds_refines (edgePool : EdgePool) (status : ServiceInfoStatus)
    (templateID : String) (rpcErr : String → Option String) (builds : List EnvBuild) :
    (deleteBuilds templateID (deleteErrOf edgePool status templateID rpcErr) builds).2 =
        (TemplateManager.deleteBuilds edgePool status rpcErr
          (cancelRequests templateID builds)).1.isNone ∧
      (deleteBuilds templateID (deleteErrOf edgePool status templateID rpcErr) builds).1 =
        (TemplateManager.deleteBuilds edgePool status rpcErr
          (cancelRequests templateID builds)).2.filterMap effectOf ∧
      ∀ s ∈ (TemplateManager.deleteBuilds edgePool status rpcErr
          (cancelRequests templateID builds)).2, s.target = .localClient := by
  induction builds with
  | nil => exact ⟨rfl, rfl, by simp [TemplateManager.deleteBuilds, cancelRequests]⟩
  | cons b rest ih =>
    obtain ⟨hok, heff, htarget⟩ := ih
    have hdel : deleteErrOf edgePool status templateID rpcErr b.id =
        (TemplateManager.deleteBuild edgePool status b.id templateID none none (rpcErr b.id)).1 :=
      rfl
    rcases @TemplateManager.deleteBuild_spec edgePool status b.id templateID none none
      (rpcErr b.id) with ⟨e, -, hd⟩ | ⟨client, hc, hd⟩
    · rw [hd] at hdel
      simp [deleteBuilds, TemplateManager.deleteBuilds, cancelRequests, hdel, hd]
    obtain ⟨-, rfl⟩ := TemplateManager.getBuilderClient_local_eq_ok (.inl rfl) hc
    rw [hd] at hdel
    cases hr : rpcErr b.id with
    | some e =>
      rw [hr] at hd hdel
      simp [deleteBuilds, TemplateManager.deleteBuilds, cancelRequests, hdel, hd, hr, effectOf]
    | none =>
      rw [hr] at hd hdel
      simp only [cancelRequests] at hok heff htarget
      simp [deleteBuilds, TemplateManager.deleteBuilds, cancelRequests, hdel, hd, hr, effectOf,
        hok, heff]
      exact htarget

example : deleteBuilds "t" (deleteErrOf (fun _ => none) .orchestratorHealthy "t" fun _ => none)
    [⟨"b1", "t", .waiting, none⟩] = ([.templateBuildDelete "t" "b1"], true) := by
  decide

/-! ## While the local template manager is unhealthy -/

/-- While the local client is unhealthy, every cancellation of the handler fails at
`getBuilderClient`, whatever the builders would answer. -/
theorem deleteErrOf_unhealthy (edgePool : EdgePool) (templateID : String)
    (rpcErr : String → Option String) (buildID : String) :
    deleteErrOf edgePool .orchestratorUnhealthy templateID rpcErr buildID =
      some ("failed to get builder edgeHttpClient: " ++
        TemplateManager.errLocalTemplateManagerNotAvailable) :=
  rfl

theorem deleteBuilds_of_fail {templateID : String} {deleteErr : String → Option String}
    (hfail : ∀ u, (deleteErr u).isSome) {l : List EnvBuild} (hl : l ≠ []) :
    deleteBuilds templateID deleteErr l = ([], false) := by
  obtain ⟨b, rest, rfl⟩ := List.exists_cons_of_ne_nil hl
  obtain ⟨e, he⟩ := Option.isSome_iff_exists.1 (hfail b.id)
  simp [deleteBuilds, he]

theorem Db.queryEnv_eq_some {db : Db} {templateID u : String} {env : Env}
    {builds : List EnvBuild} (h : db.queryEnv templateID u = some (env, builds)) :
    env.id = templateID ∧ ∀ b ∈ builds, b ∈ db.envBuilds ∧ b.envID = templateID ∧ b.id = u := by
  simp only [Db.queryEnv, Option.map_eq_some', Prod.mk.injEq] at h
  obtain ⟨env, hfind, rfl, rfl⟩ := h
  have hid : env.id = templateID := by simpa using List.find?_some hfind
  refine ⟨hid, fun b hb => ?_⟩
  simp only [List.mem_filter, decide_eq_true_eq] at hb
  exact ⟨hb.1, hb.2.1.trans hid, hb.2.2⟩

/-- The answers the handler gives before it looks at the requested build: the refusal of the
build ID, the error of `GetUserAndTeams`, the failed template query, the refused access, the
failed query of the running builds, and the failed cancellation. -/
def earlyAnswer (req : Request) (r : Response) : Prop :=
  r = .apiError 400 ("Invalid build ID: " ++ req.buildID) ∨
    (∃ e, r = .apiError 500 ("Error when getting default team: " ++ e)) ∨
    (∃ e, r = .apiError 404 ("Error when getting template: " ++ e)) ∨
    r = .apiError 403 "User does not have access to the template" ∨
    r = .apiError 500 "Error during template build request" ∨
    r = .apiError 500 "Error during template build cancel request"

theorem earlyAnswer_of_load {req : Request} {db : Db} {r : Response}
    (h : req.load db = .error r) : earlyAnswer req r := by
  unfold Request.load at h
  repeat' split at h
  all_goals cases h
  all_goals simp [earlyAnswer]

/-- A request for a template with, for every build ID, another of its builds waiting or
building: while every cancellation fails, the request changes nothing and does nothing, and it
answers with one of the answers it gives before it looks at the requested build. -/
theorem handler_of_cancel_fails {db : Db} {req : Request} {deleteErr : String → Option String}
    {createErr setStatusErr : Option String} (hfail : ∀ u, (deleteErr u).isSome)
    (hrunning : ∀ u, ∃ b ∈ db.envBuilds, b.envID = req.templateID ∧
      (b.status = .waiting ∨ b.status = .building) ∧ b.id ≠ u) :
    ∃ r, earlyAnswer req r ∧
      postTemplatesTemplateIDBuildsBuildID db req deleteErr createErr setStatusErr = (r, [], db) := by
  rcases hload : req.load db with r | ⟨u, env, builds, team⟩
  · exact ⟨r, earlyAnswer_of_load hload, by simp [postTemplatesTemplateIDBuildsBuildID, hload]⟩
  rcases hre : req.runningBuildsErr with _ | e
  swap
  · exact ⟨_, .inr (.inr (.inr (.inr (.inl rfl)))),
      by simp [postTemplatesTemplateIDBuildsBuildID, hload, hre]⟩
  obtain ⟨-, henv, -⟩ := Request.load_eq_ok hload
  obtain ⟨b, hb, hbenv, hbrun, hbu⟩ := hrunning u
  have hne : db.runningBuilds env.id u ≠ [] := by
    rw [(Db.queryEnv_eq_some henv).1]
    exact List.ne_nil_of_mem (List.mem_filter.2 ⟨hb, by simp [hbenv, hbrun, hbu]⟩)
  exact ⟨_, .inr (.inr (.inr (.inr (.inr rfl)))), by simp [postTemplatesTemplateIDBuildsBuildID,
    hload, hre, deleteBuilds_of_fail hfail hne]⟩

/-! ## A request leaves the other templates alone -/

@[simp] theorem Db.map_id_setStatus (db : Db) (u : String) (status : BuildStatus) :
    (db.setStatus u status).envBuilds.map (·.id) = db.envBuilds.map (·.id) := by
  simp only [Db.setStatus, List.map_map]
  exact List.map_congr_left fun b _ => by by_cases h : b.id = u <;> simp [h]

theorem Db.mem_setStatus_of_ne {db : Db} {u : String} {status : BuildStatus} {b : EnvBuild}
    (hb : b ∈ db.envBuilds) (hne : b.id ≠ u) : b ∈ (db.setStatus u status).envBuilds :=
  List.mem_map.2 ⟨b, hb, if_neg hne⟩

theorem not_templateCreate_mem_deleteBuilds (templateID : String)
    (deleteErr : String → Option String) (l : List EnvBuild) (t u : String) :
    Effect.templateCreate t u ∉ (deleteBuilds templateID deleteErr l).1 := fun h => by
  have := createdIDs_deleteBuilds templateID deleteErr l
  simp only [createdIDs, List.filterMap_eq_nil_iff] at this
  simpa using this _ h

/-- What `CreateTemplate` and `SetStatus` do: they change at most the status of the build, and
send `TemplateCreate` for the given template only. -/
theorem createAndSetStatus_cases (db : Db) (templateID u : String)
    (createErr setStatusErr : Option String) :
    ((createAndSetStatus db templateID u createErr setStatusErr).2.2 = db ∨
      ∃ status, (createAndSetStatus db templateID u createErr setStatusErr).2.2 =
        db.setStatus u status) ∧
    ∀ t u', Effect.templateCreate t u' ∈ (createAndSetStatus db templateID u createErr
      setStatusErr).2.1 → t = templateID := by
  cases createErr <;> cases setStatusErr <;>
    simp [createAndSetStatus, writeStatus, or_iff_not_imp_left]

/-- A request changes only builds of its own template, keeps the build IDs, and sends
`TemplateCreate` only for its own template. -/
theorem handler_frame (db : Db) (req : Request) (deleteErr : String → Option String)
    (createErr setStatusErr : Option String) (hids : (db.envBuilds.map (·.id)).Nodup) :
    ((postTemplatesTemplateIDBuildsBuildID db req deleteErr createErr setStatusErr).2.2.envBuilds.map
        (·.id)).Nodup ∧
      (∀ b ∈ db.envBuilds, b.envID ≠ req.templateID →
        b ∈ (postTemplatesTemplateIDBuildsBuildID db req deleteErr createErr
          setStatusErr).2.2.envBuilds) ∧
      ∀ t u, Effect.templateCreate t u ∈
        (postTemplatesTemplateIDBuildsBuildID db req deleteErr createErr setStatusErr).2.1 →
          t = req.templateID := by
  have hkeep : ∀ l : List Effect, (∀ t u, Effect.templateCreate t u ∉ l) →
      (db.envBuilds.map (·.id)).Nodup ∧ (∀ b ∈ db.envBuilds, b.envID ≠ req.templateID →
        b ∈ db.envBuilds) ∧ ∀ t u, Effect.templateCreate t u ∈ l → t = req.templateID :=
    fun l hl => ⟨hids, fun _ hb _ => hb, fun t u h => absurd h (hl t u)⟩
  unfold postTemplatesTemplateIDBuildsBuildID
  split
  · exact hkeep [] (by simp)
  rename_i u env builds team hload
  obtain ⟨-, henv, -⟩ := Request.load_eq_ok hload
  split
  · exact hkeep [] (by simp)
  have hdeletes := not_templateCreate_mem_deleteBuilds env.id deleteErr (db.runningBuilds env.id u)
  split <;> rename_i hdel <;> rw [hdel] at hdeletes
  · exact hkeep _ hdeletes
  split
  · exact hkeep _ hdeletes
  rename_i b hcheck
  obtain ⟨hbdb, hbenv, rfl⟩ := (Db.queryEnv_eq_some henv).2 b (checkBuild_eq_ok hcheck).1
  obtain ⟨hdb, hcreate⟩ := createAndSetStatus_cases db req.templateID b.id createErr setStatusErr
  refine ⟨?_, fun b' hb' hne => ?_, fun t u' h => ?_⟩
  · rcases hdb with h | ⟨status, h⟩ <;> simp [h, hids]
  · have hid : b'.id ≠ b.id := fun h =>
      hne ((List.inj_on_of_nodup_map hids hb' hbdb h) ▸ hbenv)
    rcases hdb with h | ⟨status, h⟩ <;> simp only [h]
    · exact hb'
    · exact Db.mem_setStatus_of_ne hb' hid
  · rcases List.mem_append.1 h with h | h
    · exact absurd h (hdeletes t u')
    · exact hcreate t u' h

/-- Template `t` with two waiting builds on node `n`. -/
def stuckDb : Db :=
  ⟨[⟨"t", "team"⟩], [⟨"b1", "t", .waiting, some "n"⟩, ⟨"b2", "t", .waiting, some "n"⟩]⟩

/-- A member of team `team` in cluster `c` asks to start build `b1` of template `t`. -/
def clusterRequest : Request := ⟨"t", "b1", some "b1", none, [⟨"team", some "c"⟩], none, none⟩

end E2bInfra.Api
