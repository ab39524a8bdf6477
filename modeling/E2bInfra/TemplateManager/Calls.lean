import E2bInfra.TemplateManager.LocalClient

/-!
# The calls of the template manager

`DeleteBuild`, `CreateTemplate`, `GetStatus` and `GetLogs` take a builder client from
`getBuilderClient` and send one request through it. A call that names both a cluster and a node
goes to the node's service instance, which it finds in the edge pool. Any other call goes to the
local template manager. The local client serves a placement (`CreateTemplate`) only while it is
healthy, and the other calls while it is not unhealthy. Each caller wraps the error of
`getBuilderClient` and the builder's answer in its own text. `DeleteBuilds` wraps the error of
`DeleteBuild` once more, so a refusal by the builder names the build twice.
-/

namespace E2bInfra.TemplateManager

/-- A template builder of a cluster, by the field `getBuilderClient` reads. -/
structure Node where
  serviceInstanceID : String
  deriving DecidableEq, Repr

/-- A cluster of the edge pool, by `GetTemplateBuilderByID`: the builder of a node ID, or the
error. -/
structure Cluster where
  getTemplateBuilderByID : String → Except String Node

/-- The edge pool, by `GetClusterById`. -/
def EdgePool := String → Option Cluster

/-- Where a builder client sends its requests: the local template manager, or the gRPC client of
a service instance of a cluster. -/
inductive Target
  | localClient
  | cluster (clusterID serviceInstanceID : String)
  deriving DecidableEq, Repr

/-- Where `GetLogs` reads a build's logs: Loki, or the HTTP client of a cluster for a node. -/
inductive PlacementLogsProvider
  | loki
  | cluster (clusterID nodeID : String)
  deriving DecidableEq, Repr

/-- What `getBuilderClient` returns: the client's target and the logs provider. The gRPC
metadata is left out. -/
structure BuilderClient where
  target : Target
  logs : PlacementLogsProvider
  deriving DecidableEq, Repr

/-- `getBuilderClient` (lines 128-178), where `status` is the local client's status: every
`GetLocalClientStatus` of one call reads the same value when no health sync runs meanwhile. -/
def getBuilderClient (edgePool : EdgePool) (status : ServiceInfoStatus)
    (clusterID nodeID : Option String) (placement : Bool) : Except String BuilderClient :=
  match clusterID, nodeID with
  | some clusterID, some nodeID =>
    match edgePool clusterID with
    | none => .error "cluster not found"
    | some cluster =>
      match cluster.getTemplateBuilderByID nodeID with
      | .error e => .error ("failed to get builder by id '" ++ nodeID ++ "': " ++ e)
      | .ok node => .ok ⟨.cluster clusterID node.serviceInstanceID, .cluster clusterID nodeID⟩
  | _, _ =>
    match getBuilderClientLocal placement status with
    | some e => .error e
    | none => .ok ⟨.localClient, .loki⟩

/-- Go's conversion `int32(x)` of an `int64`: the low 32 bits, read as a signed number. -/
def toInt32 (x : ℤ) : ℤ := (x + 2 ^ 31) % 2 ^ 32 - 2 ^ 31

/-- The `TemplateConfig` of a `TemplateCreate` request. -/
structure TemplateConfig where
  templateID : String
  buildID : String
  vCpuCount : ℤ
  memoryMB : ℤ
  diskSizeMB : ℤ
  kernelVersion : String
  firecrackerVersion : String
  hugePages : Bool
  startCommand : String
  readyCommand : String
  deriving DecidableEq, Repr

/-- A request to a template builder. -/
inductive BuilderRequest
  | templateBuildDelete (buildID templateID : String)
  | templateCreate (template : TemplateConfig)
  | templateBuildStatus (buildID templateID : String)
  deriving DecidableEq, Repr

/-- A request sent: its target, and the builder's error after `UnwrapGRPCError`, `none` when
the request went through. -/
structure Sent where
  target : Target
  request : BuilderRequest
  err : Option String
  deriving DecidableEq, Repr

/-- The start every call shares: take a builder client, or fail with the error of
`getBuilderClient` wrapped as all four callers wrap it. -/
def withBuilderClient {β : Type} (edgePool : EdgePool) (status : ServiceInfoStatus)
    (clusterID clusterNodeID : Option String) (placement : Bool) (fail : String → β)
    (k : BuilderClient → β) : β :=
  match getBuilderClient edgePool status clusterID clusterNodeID placement with
  | .error e => fail ("failed to get builder edgeHttpClient: " ++ e)
  | .ok client => k client

/-- `DeleteBuild` (lines 180-207), with `rpcErr` the builder's answer to `TemplateBuildDelete`:
the error it returns, and the request it sent. -/
def deleteBuild (edgePool : EdgePool) (status : ServiceInfoStatus) (buildID templateID : String)
    (clusterID clusterNodeID : Option String) (rpcErr : Option String) :
    Option String × Option Sent :=
  withBuilderClient edgePool status clusterID clusterNodeID false (fun e => (some e, none))
    fun client => (rpcErr.map fun e => "failed to delete env build '" ++ buildID ++ "': " ++ e,
      some ⟨client.target, .templateBuildDelete buildID templateID, rpcErr⟩)

/-- A `DeleteBuild` request of `DeleteBuilds`. -/
structure DeleteBuild where
  buildID : String
  templateID : String
  clusterID : Option String
  clusterNodeID : Option String
  deriving DecidableEq, Repr

/-- `DeleteBuilds` (lines 209-218): `DeleteBuild` on each build in order, with `rpcErr` the
builder's answer by build ID. It stops at the first error and wraps it with the build ID. -/
def deleteBuilds (edgePool : EdgePool) (status : ServiceInfoStatus)
    (rpcErr : String → Option String) : List DeleteBuild → Option String × List Sent
  | [] => (none, [])
  | b :: rest =>
    match deleteBuild edgePool status b.buildID b.templateID b.clusterID b.clusterNodeID
        (rpcErr b.buildID) with
    | (some e, sent) => (some ("failed to delete env build '" ++ b.buildID ++ "': " ++ e), sent.toList)
    | (none, sent) =>
      let (err, sentRest) := deleteBuilds edgePool status rpcErr rest
      (err, sent.toList ++ sentRest)

/-- `CreateTemplate` (lines 220-293). `newVersionInfo` is `sandbox.NewVersionInfo` followed by
`HasHugePages`, and `rpcErr` is the builder's answer to `TemplateCreate`. -/
def createTemplate (edgePool : EdgePool) (status : ServiceInfoStatus)
    (newVersionInfo : String → Except String Bool)
    (templateID buildID kernelVersion firecrackerVersion startCommand : String)
    (vCpuCount diskSizeMB memoryMB : ℤ) (readyCommand : String)
    (clusterID clusterNodeID : Option String) (rpcErr : Option String) :
    Option String × Option Sent :=
  match newVersionInfo firecrackerVersion with
  | .error e =>
    (some ("failed to get features for firecracker version '" ++ firecrackerVersion ++ "': " ++
      e), none)
  | .ok hugePages =>
    withBuilderClient edgePool status clusterID clusterNodeID true (fun e => (some e, none))
      fun client => (rpcErr.map fun e => "failed to create template '" ++ templateID ++ "': " ++ e,
        some ⟨client.target, .templateCreate ⟨templateID, buildID, toInt32 vCpuCount,
          toInt32 memoryMB, toInt32 diskSizeMB, kernelVersion, firecrackerVersion, hugePages,
          startCommand, readyCommand⟩, rpcErr⟩)

/-- `GetStatus` (lines 295-310), with `answer` the builder's answer to `TemplateBuildStatus`. It
returns that answer as it is: the caller unwraps its error. -/
def getStatus {α : Type} (edgePool : EdgePool) (status : ServiceInfoStatus)
    (buildID templateID : String) (clusterID clusterNodeID : Option String)
    (answer : Except String α) : Except String α × Option Sent :=
  withBuilderClient edgePool status clusterID clusterNodeID false (fun e => (.error e, none))
    fun client => (answer, some ⟨client.target, .templateBuildStatus buildID templateID,
      match answer with
      | .error e => some e
      | .ok _ => none⟩)

/-- `GetLogs` (lines 312-327), with `getLogsOf` what a logs provider answers for a build, its
template and an offset. -/
def getLogs (edgePool : EdgePool) (status : ServiceInfoStatus) (buildID templateID : String)
    (clusterID clusterNodeID : Option String) (offset : Option ℤ)
    (getLogsOf : PlacementLogsProvider → String → String → Option ℤ → Except String (List String)) :
    Except String (List String) :=
  withBuilderClient edgePool status clusterID clusterNodeID false .error
    fun client => getLogsOf client.logs buildID templateID offset

/-! ## Which client a call gets -/

section Client

variable {edgePool : EdgePool} {status : ServiceInfoStatus} {placement : Bool}

/-- Without a cluster or a node, the call takes the local path. -/
theorem getBuilderClient_of_local {clusterID nodeID : Option String}
    (h : clusterID = none ∨ nodeID = none) :
    getBuilderClient edgePool status clusterID nodeID placement =
      match getBuilderClientLocal placement status with
      | some e => .error e
      | none => .ok ⟨.localClient, .loki⟩ := by
  rcases h with rfl | rfl
  · rfl
  · cases clusterID <;> rfl

/-- With a cluster and a node, the call takes the cluster path, and the local status plays no
part. -/
theorem getBuilderClient_of_cluster (status' : ServiceInfoStatus) (placement' : Bool)
    (clusterID nodeID : String) :
    getBuilderClient edgePool status (some clusterID) (some nodeID) placement =
      getBuilderClient edgePool status' (some clusterID) (some nodeID) placement' := rfl

/-- The local path: a placement needs a healthy client, any other call a client that is not
unhealthy. Every refusal is `ErrLocalTemplateManagerNotAvailable`. -/
theorem getBuilderClientLocal_eq_none :
    getBuilderClientLocal placement status = none ↔
      (placement = true → status = .orchestratorHealthy) ∧ status ≠ .orchestratorUnhealthy := by
  unfold getBuilderClientLocal
  cases placement <;> by_cases hh : status = .orchestratorHealthy <;> simp [hh]

theorem getBuilderClientLocal_eq_some {e : String}
    (h : getBuilderClientLocal placement status = some e) :
    e = errLocalTemplateManagerNotAvailable := by
  unfold getBuilderClientLocal at h
  split_ifs at h <;> cases h <;> rfl

/-- While the local client is unhealthy, every call on the local path fails with
`ErrLocalTemplateManagerNotAvailable`. -/
@[simp] theorem getBuilderClientLocal_unhealthy :
    getBuilderClientLocal placement .orchestratorUnhealthy =
      some errLocalTemplateManagerNotAvailable := by
  cases placement <;> rfl

/-- A client good for a placement is good for any call, and is the same client. -/
theorem getBuilderClient_of_placement {clusterID nodeID : Option String} {client : BuilderClient}
    (h : getBuilderClient edgePool status clusterID nodeID true = .ok client) :
    getBuilderClient edgePool status clusterID nodeID placement = .ok client := by
  by_cases hl : clusterID = none ∨ nodeID = none
  · rw [getBuilderClient_of_local hl] at h ⊢
    cases hloc : getBuilderClientLocal true status with
    | some e => simp [hloc] at h
    | none =>
      obtain ⟨hhealthy, hnot⟩ := getBuilderClientLocal_eq_none.1 hloc
      rw [hloc] at h
      rw [getBuilderClientLocal_eq_none.2 ⟨fun _ => hhealthy rfl, hnot⟩]
      exact h
  · obtain ⟨c, rfl⟩ := Option.ne_none_iff_exists'.1 fun h => hl (.inl h)
    obtain ⟨n, rfl⟩ := Option.ne_none_iff_exists'.1 fun h => hl (.inr h)
    exact h

/-- On the local path the client is the local one, with Loki for the logs. -/
theorem getBuilderClient_local_eq_ok {clusterID nodeID : Option String} {client : BuilderClient}
    (hl : clusterID = none ∨ nodeID = none)
    (h : getBuilderClient edgePool status clusterID nodeID placement = .ok client) :
    getBuilderClientLocal placement status = none ∧ client = ⟨.localClient, .loki⟩ := by
  rw [getBuilderClient_of_local hl] at h
  cases hloc : getBuilderClientLocal placement status with
  | some e => simp [hloc] at h
  | none => simp only [hloc, Except.ok.injEq] at h; exact ⟨rfl, h.symm⟩

end Client

/-! ## What the calls send and return -/

section Calls

variable {edgePool : EdgePool} {status : ServiceInfoStatus}

/-- The one lemma of the shared start. -/
theorem withBuilderClient_eq {β : Type} {clusterID clusterNodeID : Option String}
    {placement : Bool} (fail : String → β) (k : BuilderClient → β) :
    withBuilderClient edgePool status clusterID clusterNodeID placement fail k =
      match getBuilderClient edgePool status clusterID clusterNodeID placement with
      | .error e => fail ("failed to get builder edgeHttpClient: " ++ e)
      | .ok client => k client := rfl

/-- `DeleteBuild` sends its request exactly when it gets a client, and then returns the builder's
error with the build's ID in front. -/
theorem deleteBuild_spec (buildID templateID : String) (clusterID clusterNodeID rpcErr : Option String) :
    (∃ e, getBuilderClient edgePool status clusterID clusterNodeID false = .error e ∧
      deleteBuild edgePool status buildID templateID clusterID clusterNodeID rpcErr =
        (some ("failed to get builder edgeHttpClient: " ++ e), none)) ∨
    (∃ client, getBuilderClient edgePool status clusterID clusterNodeID false = .ok client ∧
      deleteBuild edgePool status buildID templateID clusterID clusterNodeID rpcErr =
        (rpcErr.map fun e => "failed to delete env build '" ++ buildID ++ "': " ++ e,
          some ⟨client.target, .templateBuildDelete buildID templateID, rpcErr⟩)) := by
  unfold deleteBuild
  rw [withBuilderClient_eq]
  cases getBuilderClient edgePool status clusterID clusterNodeID false with
  | error e => exact .inl ⟨e, rfl, rfl⟩
  | ok client => exact .inr ⟨client, rfl, rfl⟩

/-- An error of `DeleteBuild` is that of `getBuilderClient` or the builder's, each with its
prefix. -/
theorem deleteBuild_eq_some {buildID templateID : String}
    {clusterID clusterNodeID rpcErr : Option String} {e : String}
    (h : (deleteBuild edgePool status buildID templateID clusterID clusterNodeID rpcErr).1 = some e) :
    (∃ e', getBuilderClient edgePool status clusterID clusterNodeID false = .error e' ∧
      e = "failed to get builder edgeHttpClient: " ++ e') ∨
    (∃ e', rpcErr = some e' ∧ e = "failed to delete env build '" ++ buildID ++ "': " ++ e') := by
  rcases @deleteBuild_spec edgePool status buildID templateID clusterID clusterNodeID rpcErr with
    ⟨e', hc, hd⟩ | ⟨client, -, hd⟩ <;> rw [hd] at h
  · exact .inl ⟨e', hc, (Option.some.inj h).symm⟩
  · obtain ⟨e', he', rfl⟩ := Option.map_eq_some'.1 h
    exact .inr ⟨e', he', rfl⟩

/-- `DeleteBuilds` returns no error exactly when every `DeleteBuild` does; its error is that of
the first `DeleteBuild` that failed, with the build's ID in front once more. -/
theorem deleteBuilds_eq_some (rpcErr : String → Option String) {builds : List DeleteBuild}
    {e : String} (h : (deleteBuilds edgePool status rpcErr builds).1 = some e) :
    ∃ b ∈ builds, ∃ e', (deleteBuild edgePool status b.buildID b.templateID b.clusterID
      b.clusterNodeID (rpcErr b.buildID)).1 = some e' ∧
      e = "failed to delete env build '" ++ b.buildID ++ "': " ++ e' := by
  induction builds with
  | nil => cases h
  | cons b rest ih =>
    simp only [deleteBuilds] at h
    rcases hd : deleteBuild edgePool status b.buildID b.templateID b.clusterID b.clusterNodeID
      (rpcErr b.buildID) with ⟨_ | e', sent⟩ <;> rw [hd] at h
    · obtain ⟨b', hb', he⟩ := ih h
      exact ⟨b', List.mem_cons_of_mem _ hb', he⟩
    · exact ⟨b, List.mem_cons_self _ _, e', by rw [hd], (Option.some.inj h).symm⟩

variable (newVersionInfo : String → Except String Bool)
  (templateID buildID kernelVersion firecrackerVersion startCommand : String)
  (vCpuCount diskSizeMB memoryMB : ℤ) (readyCommand : String)
  (clusterID clusterNodeID rpcErr : Option String)

/-- `CreateTemplate` sends nothing when the Firecracker version has no features or no client is
found, and says which in its error; otherwise it sends `TemplateCreate` with the build's fields
and returns the builder's error with the template's ID in front. -/
theorem createTemplate_spec :
    (∃ e, newVersionInfo firecrackerVersion = .error e ∧
      createTemplate edgePool status newVersionInfo templateID buildID kernelVersion
        firecrackerVersion startCommand vCpuCount diskSizeMB memoryMB readyCommand clusterID
        clusterNodeID rpcErr =
      (some ("failed to get features for firecracker version '" ++ firecrackerVersion ++ "': " ++
        e), none)) ∨
    (∃ hugePages e, newVersionInfo firecrackerVersion = .ok hugePages ∧
      getBuilderClient edgePool status clusterID clusterNodeID true = .error e ∧
      createTemplate edgePool status newVersionInfo templateID buildID kernelVersion
        firecrackerVersion startCommand vCpuCount diskSizeMB memoryMB readyCommand clusterID
        clusterNodeID rpcErr = (some ("failed to get builder edgeHttpClient: " ++ e), none)) ∨
    (∃ hugePages client, newVersionInfo firecrackerVersion = .ok hugePages ∧
      getBuilderClient edgePool status clusterID clusterNodeID true = .ok client ∧
      createTemplate edgePool status newVersionInfo templateID buildID kernelVersion
        firecrackerVersion startCommand vCpuCount diskSizeMB memoryMB readyCommand clusterID
        clusterNodeID rpcErr =
      (rpcErr.map fun e => "failed to create template '" ++ templateID ++ "': " ++ e,
        some ⟨client.target, .templateCreate ⟨templateID, buildID, toInt32 vCpuCount,
          toInt32 memoryMB, toInt32 diskSizeMB, kernelVersion, firecrackerVersion, hugePages,
          startCommand, readyCommand⟩, rpcErr⟩)) := by
  unfold createTemplate
  cases hv : newVersionInfo firecrackerVersion with
  | error e => exact .inl ⟨e, rfl, rfl⟩
  | ok hugePages =>
    dsimp only
    rw [withBuilderClient_eq]
    cases getBuilderClient edgePool status clusterID clusterNodeID true with
    | error e => exact .inr (.inl ⟨hugePages, e, rfl, rfl, rfl⟩)
    | ok client => exact .inr (.inr ⟨hugePages, client, rfl, rfl, rfl⟩)

end Calls

end E2bInfra.TemplateManager
