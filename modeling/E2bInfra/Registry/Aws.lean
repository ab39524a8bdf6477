import E2bInfra.Registry.Route

/-!
# The AWS side of the registry proxy

`InitAWSConfig` runs its body once, under a `sync.Once`. The body picks the region: the
environment's `AWS_REGION`, else the EC2 metadata's, else the one the SDK's session finds, else
`us-east-1`. It creates the session and takes the account ID from `AWS_ACCOUNT_ID`, else from STS.
Every getter calls `InitAWSConfig` and answers from what the first call settled.

`HandleAWSECRToken` makes sure that the repository of the scope's template exists before it asks
ECR for a token. Through every run of token requests ECR's repositories only grow, and a token
for a scope that names a template comes with the repository `AWS_ECR_REPOSITORY_NAME/<templateID>`.
-/

namespace E2bInfra.Registry

/-- The variables of the environment the proxy's AWS code reads, as `os.Getenv` returns them. -/
structure AwsEnv where
  /-- `AWS_REGION`. -/
  awsRegion : String
  /-- `AWS_ECR_REPOSITORY_NAME`. -/
  awsECRRepository : String
  /-- `AWS_ACCESS_KEY_ID`. -/
  awsAccessKeyID : String
  /-- `AWS_SECRET_ACCESS_KEY`. -/
  awsSecretAccessKey : String
  /-- `AWS_ACCOUNT_ID`. -/
  awsAccountID : String
  deriving DecidableEq, Repr

/-- What the services the body of `InitAWSConfig` asks answer at the moment it runs. -/
structure AwsAnswers where
  /-- `getRegionFromEC2Metadata`: the region, or its error. -/
  ec2MetadataRegion : Except String String
  /-- The error of `session.NewSession`. -/
  newSessionErr : Option String
  /-- The region the SDK's session finds by itself when the config names none. -/
  sdkRegion : Option String
  /-- `GetCallerIdentity`: the account, or its error. -/
  callerIdentity : Except String String

/-- What the body of `InitAWSConfig` settles: the session's region and whether it has static
credentials, the account ID, the region, and the registry host. -/
structure AwsConfig where
  sessionRegion : Option String
  staticCredentials : Bool
  accountID : String
  region : String
  registryHost : String
  deriving DecidableEq, Repr

/-- Lines 72-86: the region of the session's config, from the environment or the EC2
metadata. -/
def configRegion (env : AwsEnv) (ans : AwsAnswers) : Option String :=
  if env.awsRegion ≠ "" then some env.awsRegion
  else
    match ans.ec2MetadataRegion with
    | .ok r => if r ≠ "" then some r else none
    | .error _ => none

/-- Lines 120-130: the region the proxy uses. -/
def finalRegion (env : AwsEnv) (sessionRegion : Option String) : String :=
  if env.awsRegion ≠ "" then env.awsRegion
  else
    match sessionRegion with
    | some r => if r ≠ "" then r else "us-east-1"
    | none => "us-east-1"

/-- The body of `InitAWSConfig` (lines 68-134): what it settles, or the error it keeps. -/
def initAWSConfigBody (env : AwsEnv) (ans : AwsAnswers) : Except String AwsConfig :=
  match ans.newSessionErr with
  | some e => .error ("failed to create AWS session: " ++ e)
  | none =>
    let sessionRegion := (configRegion env ans).orElse fun _ => ans.sdkRegion
    let account : Except String String :=
      if env.awsAccountID ≠ "" then .ok env.awsAccountID
      else
        match ans.callerIdentity with
        | .error e => .error ("failed to get AWS account ID: " ++ e)
        | .ok a => .ok a
    match account with
    | .error e => .error e
    | .ok accountID =>
      .ok ⟨sessionRegion, env.awsAccessKeyID ≠ "" && env.awsSecretAccessKey ≠ "", accountID,
        finalRegion env sessionRegion,
        accountID ++ ".dkr.ecr." ++ finalRegion env sessionRegion ++ ".amazonaws.com"⟩

/-- `InitAWSConfig` on the state of `awsConfigOnce`: `none` before the first call, then the
outcome of the body, which every call returns. -/
def initAWSConfig (once : Option (Except String AwsConfig)) (env : AwsEnv) (ans : AwsAnswers) :
    Except String AwsConfig × Option (Except String AwsConfig) :=
  match once with
  | some r => (r, some r)
  | none => (initAWSConfigBody env ans, some (initAWSConfigBody env ans))

/-- The getters of lines 139-183, each `InitAWSConfig` and then one value of the settled
configuration. -/
def withAWSConfig {α : Type} (once : Option (Except String AwsConfig)) (env : AwsEnv)
    (ans : AwsAnswers) (f : AwsConfig → α) : Except String α × Option (Except String AwsConfig) :=
  ((initAWSConfig once env ans).1.map f, (initAWSConfig once env ans).2)

/-- `GetAWSSession`, by the session's region and credentials. -/
def getAWSSession (once : Option (Except String AwsConfig)) (env : AwsEnv) (ans : AwsAnswers) :=
  withAWSConfig once env ans fun c => (c.sessionRegion, c.staticCredentials)

/-- `GetAWSAccountID`. -/
def getAWSAccountID (once : Option (Except String AwsConfig)) (env : AwsEnv) (ans : AwsAnswers) :=
  withAWSConfig once env ans AwsConfig.accountID

/-- `GetAWSRegion`. -/
def getAWSRegion (once : Option (Except String AwsConfig)) (env : AwsEnv) (ans : AwsAnswers) :=
  withAWSConfig once env ans AwsConfig.region

/-- `GetAWSRegistryHost`. -/
def getAWSRegistryHost (once : Option (Except String AwsConfig)) (env : AwsEnv)
    (ans : AwsAnswers) :=
  withAWSConfig once env ans AwsConfig.registryHost

/-- `GetAWSUploadPrefix(templateID)`. -/
def getAWSUploadPrefix (once : Option (Except String AwsConfig)) (env : AwsEnv)
    (ans : AwsAnswers) (templateID : String) :=
  withAWSConfig once env ans fun _ =>
    "/v2/" ++ (env.awsECRRepository ++ "/" ++ templateID) ++ "/blobs/uploads/"

theorem finalRegion_ne_empty (env : AwsEnv) (sessionRegion : Option String) :
    finalRegion env sessionRegion ≠ "" := by
  unfold finalRegion
  split_ifs with h
  · exact h
  · split
    · split_ifs with hr
      · exact hr
      · decide
    · decide

/-- The region is the environment's when it is set, else the session's when that is not empty,
else `us-east-1`; the registry host is built from the account and that region. -/
theorem initAWSConfigBody_eq_ok {env : AwsEnv} {ans : AwsAnswers} {c : AwsConfig}
    (h : initAWSConfigBody env ans = .ok c) :
    c.sessionRegion = (configRegion env ans).orElse (fun _ => ans.sdkRegion) ∧
      c.region = finalRegion env c.sessionRegion ∧ c.region ≠ "" ∧
      c.registryHost = c.accountID ++ ".dkr.ecr." ++ c.region ++ ".amazonaws.com" := by
  unfold initAWSConfigBody at h
  split at h
  · cases h
  · dsimp only at h
    split at h
    · cases h
    · cases h
      exact ⟨rfl, rfl, finalRegion_ne_empty _ _, rfl⟩

/-! ## Token requests and the repositories of ECR -/

/-- ECR, by the names of its repositories. -/
structure Ecr where
  repositories : List String
  deriving DecidableEq, Repr

/-- What ECR answers to one token request, besides what its repositories decide. -/
structure EcrAnswers where
  /-- An error of `DescribeRepositories` other than `RepositoryNotFoundException`. -/
  describeErr : Option String
  /-- The error of `CreateRepository`. -/
  createErr : Option String
  /-- The error of `session.NewSession` when the session is made again with a region. -/
  newSessionErr : Option String
  /-- `GetAuthorizationToken`: the tokens of its authorization data, or its error. -/
  authorizationTokens : Except String (List String)

/-- The repository of a template: `base_repo_name/template_id`. -/
def templateRepo (env : AwsEnv) (templateID : String) : String :=
  env.awsECRRepository ++ "/" ++ templateID

/-- `EnsureECRRepositoryExists(templateID)` (lines 28-68), once `GetAWSSession` has answered
`session`. `DescribeRepositories` finds the repository, or answers `RepositoryNotFoundException`,
on which the repository is created, or fails with `describeErr`. -/
def ensureECRRepositoryExists {σ : Type} (session : Except String σ) (env : AwsEnv)
    (templateID : String) (ecr : Ecr) (describeErr createErr : Option String) :
    Option String × Ecr :=
  match session with
  | .error e => (some ("failed to get AWS session: " ++ e), ecr)
  | .ok _ =>
    match describeErr with
    | some e => (some ("failed to check ECR repository: " ++ e), ecr)
    | none =>
      if templateRepo env templateID ∈ ecr.repositories then (none, ecr)
      else
        match createErr with
        | some e => (some ("failed to create ECR repository: " ++ e), ecr)
        | none => (none, ⟨ecr.repositories ++ [templateRepo env templateID]⟩)

/-- `GetAWSECRAuthToken` (lines 71-160), once `GetAWSSession` and `GetAWSRegion` have answered:
the token, or the error. `decode` is `base64.StdEncoding.DecodeString`; the test request of lines
121-138 only logs. -/
def getAWSECRAuthToken (session : Except String (Option String × Bool))
    (region : Except String String) (ans : EcrAnswers) (decode : String → Except String String) :
    Except String String :=
  match session with
  | .error e => .error ("failed to get AWS session: " ++ e)
  | .ok (sessionRegion, _) =>
    let fresh : Except String Unit :=
      if sessionRegion.getD "" = "" then
        match region with
        | .error e => .error ("failed to get AWS region: " ++ e)
        | .ok _ =>
          match ans.newSessionErr with
          | some e => .error ("failed to create AWS session with region: " ++ e)
          | none => .ok ()
      else .ok ()
    match fresh with
    | .error e => .error e
    | .ok () =>
      match ans.authorizationTokens with
      | .error e => .error ("failed to get ECR authorization token: " ++ e)
      | .ok [] => .error "no authorization data returned from ECR"
      | .ok (token :: _) =>
        match decode token with
        | .error e => .error ("failed to decode ECR authorization token: " ++ e)
        | .ok s => if ':' ∈ s.toList then .ok token else .error "invalid ECR token format"

/-- The answer of `HandleAWSECRToken`: the token, sent with status 200, or an error status with
its message. -/
inductive TokenResponse
  | token (token : String)
  | httpError (code : ℕ) (message : String)
  deriving DecidableEq, Repr

/-- The state the token requests share: `awsConfigOnce` with what it settled, and ECR. -/
structure ProxyState where
  awsConfig : Option (Except String AwsConfig)
  ecr : Ecr

/-- `HandleAWSECRToken` (lines 163-226) on a request with the `scope` parameter `scope`, with
the answers of the services at that moment. -/
def handleAWSECRToken (env : AwsEnv) (s : ProxyState) (scope : List Char) (ans : AwsAnswers)
    (ecrAns : EcrAnswers) (decode : String → Except String String) :
    TokenResponse × ProxyState :=
  let (ensured, s) : Option String × ProxyState :=
    match scopeTemplateID scope with
    | none => (none, s)
    | some templateID =>
      let (session, once) := getAWSSession s.awsConfig env ans
      let (err, ecr) := ensureECRRepositoryExists session env (String.mk templateID) s.ecr
        ecrAns.describeErr ecrAns.createErr
      (err, ⟨once, ecr⟩)
  match ensured with
  | some _ => (.httpError 500 "Failed to ensure ECR repository exists", s)
  | none =>
    let (session, once) := getAWSSession s.awsConfig env ans
    let (region, once) := getAWSRegion once env ans
    match getAWSECRAuthToken session region ecrAns decode with
    | .error _ => (.httpError 500 "Failed to get ECR authorization token", ⟨once, s.ecr⟩)
    | .ok token => (.token token, ⟨once, s.ecr⟩)

/-- Token requests one after another, each with its scope and the services' answers: the
responses, and the state after them. -/
def tokenRun (env : AwsEnv) (decode : String → Except String String) :
    ProxyState → List (List Char × AwsAnswers × EcrAnswers) → List TokenResponse × ProxyState
  | s, [] => ([], s)
  | s, (scope, ans, ecrAns) :: rest =>
    ((handleAWSECRToken env s scope ans ecrAns decode).1 ::
        (tokenRun env decode (handleAWSECRToken env s scope ans ecrAns decode).2 rest).1,
      (tokenRun env decode (handleAWSECRToken env s scope ans ecrAns decode).2 rest).2)

/-- `EnsureECRRepositoryExists` only adds the template's repository, and when it returns no error
the repository exists. -/
theorem ensureECRRepositoryExists_spec {σ : Type} (session : Except String σ) (env : AwsEnv)
    (templateID : String) (ecr : Ecr) (describeErr createErr : Option String) :
    ((ensureECRRepositoryExists session env templateID ecr describeErr createErr).2.repositories =
        ecr.repositories ∨
      (ensureECRRepositoryExists session env templateID ecr describeErr createErr).2.repositories =
        ecr.repositories ++ [templateRepo env templateID]) ∧
    ((ensureECRRepositoryExists session env templateID ecr describeErr createErr).1 = none →
      templateRepo env templateID ∈
        (ensureECRRepositoryExists session env templateID ecr describeErr createErr).2.repositories) := by
  unfold ensureECRRepositoryExists
  rcases session with e | _
  · simp
  rcases describeErr with _ | e
  · by_cases hin : templateRepo env templateID ∈ ecr.repositories
    · simp [hin]
    · rcases createErr with _ | e <;> simp [hin]
  · simp

theorem ensureECRRepositoryExists_grows {σ : Type} (session : Except String σ) (env : AwsEnv)
    (templateID : String) (ecr : Ecr) (describeErr createErr : Option String) :
    ecr.repositories <+:
      (ensureECRRepositoryExists session env templateID ecr describeErr createErr).2.repositories := by
  rcases (ensureECRRepositoryExists_spec session env templateID ecr describeErr createErr).1
    with h | h
  · exact h ▸ List.prefix_refl _
  · exact h ▸ List.prefix_append _ _

/-- One token request keeps every repository and adds at most the template's; a token for a
scope that names a template comes with the template's repository. -/
theorem handleAWSECRToken_spec (env : AwsEnv) (s : ProxyState) (scope : List Char)
    (ans : AwsAnswers) (ecrAns : EcrAnswers) (decode : String → Except String String) :
    s.ecr.repositories <+: (handleAWSECRToken env s scope ans ecrAns decode).2.ecr.repositories ∧
    ∀ templateID token, scopeTemplateID scope = some templateID →
      (handleAWSECRToken env s scope ans ecrAns decode).1 = .token token →
      templateRepo env (String.mk templateID) ∈
        (handleAWSECRToken env s scope ans ecrAns decode).2.ecr.repositories := by
  unfold handleAWSECRToken
  rcases hscope : scopeTemplateID scope with _ | templateID
  · refine ⟨?_, fun _ _ h => by cases h⟩
    dsimp only
    split <;> exact List.prefix_refl _
  have hgrow := ensureECRRepositoryExists_grows (getAWSSession s.awsConfig env ans).1 env
    (String.mk templateID) s.ecr ecrAns.describeErr ecrAns.createErr
  have hmem := (ensureECRRepositoryExists_spec (getAWSSession s.awsConfig env ans).1 env
    (String.mk templateID) s.ecr ecrAns.describeErr ecrAns.createErr).2
  dsimp only
  rcases hens : (ensureECRRepositoryExists (getAWSSession s.awsConfig env ans).1 env
    (String.mk templateID) s.ecr ecrAns.describeErr ecrAns.createErr) with ⟨_ | e, ecr⟩ <;>
    rw [hens] at hgrow hmem <;> dsimp only at hgrow hmem ⊢
  · split <;> refine ⟨hgrow, fun t _ ht _ => ?_⟩ <;> cases ht <;> exact hmem rfl
  · exact ⟨hgrow, fun _ _ _ h => by cases h⟩

/-- Through every run of token requests, whatever the services answer, ECR keeps every
repository it had, and every request answered with a token for a scope that names a template
leaves that template's repository `AWS_ECR_REPOSITORY_NAME/<templateID>` in ECR for good. -/
theorem tokenRun_keeps_repositories (env : AwsEnv) (decode : String → Except String String)
    (s : ProxyState) (requests : List (List Char × AwsAnswers × EcrAnswers)) :
    s.ecr.repositories <+: (tokenRun env decode s requests).2.ecr.repositories ∧
    ∀ p ∈ requests.zip (tokenRun env decode s requests).1, ∀ templateID token,
      scopeTemplateID p.1.1 = some templateID → p.2 = .token token →
      templateRepo env (String.mk templateID) ∈ (tokenRun env decode s requests).2.ecr.repositories := by
  induction requests generalizing s with
  | nil => exact ⟨List.prefix_refl _, by simp [tokenRun]⟩
  | cons r rest ih =>
    obtain ⟨scope, ans, ecrAns⟩ := r
    obtain ⟨hgrow, hmem⟩ := handleAWSECRToken_spec env s scope ans ecrAns decode
    obtain ⟨hgrow', hmem'⟩ := ih (handleAWSECRToken env s scope ans ecrAns decode).2
    refine ⟨hgrow.trans hgrow', fun p hp templateID token hscope htoken => ?_⟩
    simp only [tokenRun, List.zip_cons_cons, List.mem_cons] at hp
    rcases hp with rfl | hp
    · exact hgrow'.subset (hmem templateID token hscope htoken)
    · exact hmem' p hp templateID token hscope htoken

end E2bInfra.Registry
