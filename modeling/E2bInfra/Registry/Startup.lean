import E2bInfra.Registry.Aws

/-!
# Starting the registry proxy

The proxy's `main` runs `CheckRequired` and stops on its error, then `NewStore` picks the registry
that the proxy forwards to: on GCP the regional registry, on AWS the host that
`GetAWSRegistryHost` returns, whose error stops the process too. `CheckRequired` names the empty
variables in its error and, on AWS, is the first caller of `InitAWSConfig`. So `NewStore` reads
the configuration that `CheckRequired` settled: once `CheckRequired` has passed, `NewStore` never
stops the proxy, whatever AWS answers by then, and it forwards to the registry of the account and
region settled at that first call.
-/

namespace E2bInfra.Registry

/-- The names of the variables that are empty, in order. -/
def missingVariables (vars : List (String × String)) : List String :=
  (vars.filter fun v => v.2 = "").map (·.1)

/-- The error of a `CheckRequired` on the missing variables: `nil` when none is missing, else
their names joined by commas. -/
def missingError (missing : List String) : Option String :=
  if missing = [] then none else some ("missing environment variables: " ++ ", ".intercalate missing)

/-- The variables of the proxy's `CheckRequired` that are not AWS's. -/
structure ProxyVars where
  /-- `DOMAIN_NAME`. -/
  domain : String
  /-- `GCP_PROJECT_ID`. -/
  gcpProject : String
  /-- `GCP_DOCKER_REPOSITORY_NAME`. -/
  dockerRegistry : String
  /-- `GOOGLE_SERVICE_ACCOUNT_BASE64`. -/
  googleServiceAccountSecret : String
  /-- `GCP_REGION`. -/
  gcpRegion : String
  deriving DecidableEq, Repr

/-- `CheckRequired` of the proxy (lines 30-74), on the state of `awsConfigOnce`, with AWS's
answers if it runs `InitAWSConfig`: its error, and the state after it. On AWS a failed
`InitAWSConfig` is reported alone, even when a variable is missing. -/
def checkRequired (provider : CloudProvider) (vars : ProxyVars) (env : AwsEnv)
    (once : Option (Except String AwsConfig)) (ans : AwsAnswers) :
    Option String × Option (Except String AwsConfig) :=
  match provider with
  | .gcp => (missingError (missingVariables [("DOMAIN_NAME", vars.domain),
      ("GCP_PROJECT_ID", vars.gcpProject), ("GCP_DOCKER_REPOSITORY_NAME", vars.dockerRegistry),
      ("GOOGLE_SERVICE_ACCOUNT_BASE64", vars.googleServiceAccountSecret),
      ("GCP_REGION", vars.gcpRegion)]), once)
  | .aws =>
    match initAWSConfig once env ans with
    | (.error e, once) => (some ("failed to initialize AWS config: " ++ e), once)
    | (.ok _, once) => (missingError (missingVariables [("DOMAIN_NAME", vars.domain),
        ("AWS_ECR_REPOSITORY_NAME", env.awsECRRepository)]), once)

/-- `NewStore` (lines 24-60) up to the proxy it builds: the host it forwards to, or the message
with which the process stops. `db.NewClient`'s error `dbErr` is fatal. On GCP the target is the
regional registry; on AWS it is the host `GetAWSRegistryHost` returns, and its error is fatal.
The getters of lines 54-55 only feed a log line. -/
def newStore (provider : CloudProvider) (gcpRegion : String) (dbErr : Option String)
    (once : Option (Except String AwsConfig)) (env : AwsEnv) (ans : AwsAnswers) :
    Except String String × Option (Except String AwsConfig) :=
  match dbErr with
  | some e => (.error e, once)
  | none =>
    match provider with
    | .gcp => (.ok (gcpRegion ++ "-docker.pkg.dev"), once)
    | .aws =>
      match getAWSRegistryHost once env ans with
      | (.error e, once) => (.error ("Failed to get AWS registry host: " ++ e), once)
      | (.ok host, once) => (.ok host, once)

/-- The start of the proxy's `main` (lines 18-29): `CheckRequired`, whose error is fatal, then
`NewStore`. `ans₁` and `ans₂` are AWS's answers when each runs; the result is the host the proxy
forwards to, or the message with which it stops. -/
def proxyStart (provider : CloudProvider) (vars : ProxyVars) (env : AwsEnv) (dbErr : Option String)
    (ans₁ ans₂ : AwsAnswers) : Except String String :=
  match checkRequired provider vars env none ans₁ with
  | (some e, _) => .error e
  | (none, once) => (newStore provider vars.gcpRegion dbErr once env ans₂).1

/-- When `CheckRequired` passes on AWS at the start of the process, `awsConfigOnce` holds the
configuration that its `InitAWSConfig` settled. -/
theorem checkRequired_aws_eq {vars : ProxyVars} {env : AwsEnv} {ans : AwsAnswers}
    (h : (checkRequired .aws vars env none ans).1 = none) :
    ∃ c, initAWSConfigBody env ans = .ok c ∧
      checkRequired .aws vars env none ans = (none, some (.ok c)) := by
  cases hc : initAWSConfigBody env ans with
  | error e => simp [checkRequired, initAWSConfig, hc] at h
  | ok c => exact ⟨c, rfl, Prod.ext h (by simp [checkRequired, initAWSConfig, hc])⟩

/-- Once `CheckRequired` has passed and the database client is made, `NewStore` never stops the
proxy. On GCP it forwards to `<GCP_REGION>-docker.pkg.dev`; on AWS to
`<account>.dkr.ecr.<region>.amazonaws.com` of the configuration that `CheckRequired`'s
`InitAWSConfig` settled, whatever AWS answers when `NewStore` asks again. -/
theorem proxyStart_target (provider : CloudProvider) (vars : ProxyVars) (env : AwsEnv)
    (ans₁ ans₂ : AwsAnswers) (h : (checkRequired provider vars env none ans₁).1 = none) :
    (provider = .gcp →
      proxyStart provider vars env none ans₁ ans₂ = .ok (vars.gcpRegion ++ "-docker.pkg.dev")) ∧
    (provider = .aws → ∃ c, initAWSConfigBody env ans₁ = .ok c ∧
      proxyStart provider vars env none ans₁ ans₂ =
        .ok (c.accountID ++ ".dkr.ecr." ++ c.region ++ ".amazonaws.com")) := by
  refine ⟨fun hp => ?_, fun hp => ?_⟩
  · subst hp
    rw [proxyStart, show checkRequired .gcp vars env none ans₁ = (none, none) from Prod.ext h rfl]
    rfl
  · subst hp
    obtain ⟨c, hc, hcr⟩ := checkRequired_aws_eq h
    refine ⟨c, hc, ?_⟩
    rw [proxyStart, hcr, ← (initAWSConfigBody_eq_ok hc).2.2.2]
    rfl

end E2bInfra.Registry
