import Mathlib.Data.List.Basic

/-!
# Seeding the database

`seed-db` makes the system records: a user, a team with the ID of the config, the link between
them, an access token, a team API key and the default template's environment. It reads the
values from `~/.e2b/config.json`, or, when the file is missing, uses defaults and writes them to
the file once the records are made. It refuses a database with more than one team.

A run on a database that holds the configured access token of one of its users always panics,
whatever the schema says about the uniqueness of emails and the deletion of teams, and whatever
user ID it draws: the token it creates has the ID of the one there, which its deletions never
touch. A database that the script seeded is one: it has one team, so the guard lets a second
run through, and the file the first run wrote gives it the same values. When a team's deletion
takes the rows that refer to it, a run that panics at the token has by then re-created the team
with no API key and no environment.
-/

namespace E2bInfra.Scripts

/-- The rows the script writes, by the columns it sets. User IDs are the values of `uuid.New()`;
the team's ID is the parsed `teamId` of the config, kept as its text. -/
structure SeedDb where
  /-- `users`: ID and email. -/
  users : List (ℕ × String)
  /-- `teams`: ID and email. -/
  teams : List (String × String)
  /-- `users_teams`: user and team. -/
  usersTeams : List (ℕ × String)
  /-- `access_tokens`: the token, which is the row's ID, and its user. -/
  accessTokens : List (String × ℕ)
  /-- `team_api_keys`: the key and its team. -/
  teamAPIKeys : List (String × String)
  /-- `envs`: ID and team. -/
  envs : List (String × String)
  deriving DecidableEq, Repr

/-- What the schema decides and the script does not say: whether `users.email` and
`team_api_keys.api_key` are unique, and whether deleting a team deletes the rows that refer to
it, or fails while one does. A row whose ID exists already is always refused. -/
structure Schema where
  uniqueEmail : Bool
  uniqueAPIKey : Bool
  teamCascade : Bool
  deriving DecidableEq, Repr

namespace SeedDb

variable (schema : Schema) (db : SeedDb)

/-- `User.Create().SetEmail(email).SetID(id).Save`: `none` when refused. -/
def userCreate (id : ℕ) (email : String) : Option SeedDb :=
  if id ∈ db.users.map (·.1) ∨ (schema.uniqueEmail ∧ email ∈ db.users.map (·.2)) then none
  else some { db with users := db.users ++ [(id, email)] }

/-- Whether a row refers to team `t`. -/
def refersTo (t : String) : Prop :=
  t ∈ db.usersTeams.map (·.2) ∨ t ∈ db.teamAPIKeys.map (·.2) ∨ t ∈ db.envs.map (·.2)

instance (t : String) : Decidable (db.refersTo t) := by unfold refersTo; infer_instance

/-- `Team.Delete().Where(team.Email(email)).Exec`: the teams with that email go, with the rows
that refer to them under a cascade; without one, a row that refers to one of them makes the
statement fail, and its error is only printed. -/
def teamDelete (email : String) : SeedDb :=
  let gone : String → Bool := fun t => (t, email) ∈ db.teams
  if ¬schema.teamCascade ∧ ∃ t ∈ db.teams, t.2 = email ∧ db.refersTo t.1 then db
  else
    { db with
      teams := db.teams.filter (·.2 ≠ email)
      usersTeams := db.usersTeams.filter fun r => !gone r.2
      teamAPIKeys := db.teamAPIKeys.filter fun r => !gone r.2
      envs := db.envs.filter fun r => !gone r.2 }

/-- `AccessToken.Delete().Where(accesstoken.UserID(id)).Exec`. -/
def accessTokenDelete (id : ℕ) : SeedDb :=
  { db with accessTokens := db.accessTokens.filter (·.2 ≠ id) }

/-- `Team.Create()...SetID(orgUUID)...Save`. -/
def teamCreate (id email : String) : Option SeedDb :=
  if id ∈ db.teams.map (·.1) then none else some { db with teams := db.teams ++ [(id, email)] }

/-- `UsersTeams.Create()...Save`, on a user and a team that exist. -/
def usersTeamsCreate (user : ℕ) (team : String) : SeedDb :=
  { db with usersTeams := db.usersTeams ++ [(user, team)] }

/-- `AccessToken.Create().SetUser(user).SetID(token).Save`. -/
def accessTokenCreate (token : String) (user : ℕ) : Option SeedDb :=
  if token ∈ db.accessTokens.map (·.1) then none
  else some { db with accessTokens := db.accessTokens ++ [(token, user)] }

/-- `TeamAPIKey.Create().SetTeam(team).SetAPIKey(key).Save`. -/
def teamAPIKeyCreate (key team : String) : Option SeedDb :=
  if schema.uniqueAPIKey ∧ key ∈ db.teamAPIKeys.map (·.1) then none
  else some { db with teamAPIKeys := db.teamAPIKeys ++ [(key, team)] }

/-- `Env.Create().SetTeam(team).SetID(id).SetPublic(true).Save`. -/
def envCreate (id team : String) : Option SeedDb :=
  if id ∈ db.envs.map (·.1) then none else some { db with envs := db.envs ++ [(id, team)] }

@[simp] theorem teamDelete_accessTokens (email : String) :
    (db.teamDelete schema email).accessTokens = db.accessTokens := by
  unfold teamDelete; split_ifs <;> rfl

@[simp] theorem usersTeamsCreate_accessTokens (user : ℕ) (team : String) :
    (db.usersTeamsCreate user team).accessTokens = db.accessTokens := rfl

theorem accessTokens_of_userCreate {id : ℕ} {email : String} {db' : SeedDb}
    (h : db.userCreate schema id email = some db') : db'.accessTokens = db.accessTokens := by
  unfold userCreate at h; split_ifs at h; cases h; rfl

theorem accessTokens_of_teamCreate {id email : String} {db' : SeedDb}
    (h : db.teamCreate id email = some db') : db'.accessTokens = db.accessTokens := by
  unfold teamCreate at h; split_ifs at h; cases h; rfl

theorem userCreate_eq {id : ℕ} {email : String} {db' : SeedDb}
    (h : db.userCreate schema id email = some db') :
    db' = { db with users := db.users ++ [(id, email)] } := by
  unfold userCreate at h; split_ifs at h; exact (Option.some.inj h).symm

theorem teamCreate_eq {id email : String} {db' : SeedDb} (h : db.teamCreate id email = some db') :
    id ∉ db.teams.map (·.1) ∧ db' = { db with teams := db.teams ++ [(id, email)] } := by
  unfold teamCreate at h; split_ifs at h with hid; exact ⟨hid, (Option.some.inj h).symm⟩

/-- Under a cascade, a team deletion keeps the API keys and environments of the other teams
only. -/
theorem teamDelete_of_cascade (hcascade : schema.teamCascade = true) (email : String) :
    db.teamDelete schema email = { db with
      teams := db.teams.filter (·.2 ≠ email)
      usersTeams := db.usersTeams.filter fun r => !decide ((r.2, email) ∈ db.teams)
      teamAPIKeys := db.teamAPIKeys.filter fun r => !decide ((r.2, email) ∈ db.teams)
      envs := db.envs.filter fun r => !decide ((r.2, email) ∈ db.teams) } := by
  simp [teamDelete, hcascade]

/-- A token that names a row of another user survives the deletion of `id`'s tokens. -/
theorem mem_accessTokenDelete {token : String} {id user : ℕ} (hmem : (token, user) ∈ db.accessTokens)
    (hne : user ≠ id) : token ∈ (db.accessTokenDelete id).accessTokens.map (·.1) :=
  List.mem_map.2 ⟨(token, user), List.mem_filter.2 ⟨hmem, by simpa using hne⟩, rfl⟩

end SeedDb

/-- The ID of the default template's environment. -/
def defaultEnvID : String := "rki5dems9wqfm4r03t7g"

/-- Where the script panics: on the error of a database call, of the config file or of
`uuid.MustParse`, on the guard, or on a field of the config that is not a string. -/
inductive Panic
  | newClient
  | teamCount
  | existingData
  | parseOrgID
  | userCreate
  | teamCreate
  | usersTeamsCreate
  | accessTokenCreate
  | teamAPIKeyCreate
  | envCreate
  | unmarshal
  | writeConfig
  | field (name : String)
  deriving DecidableEq, Repr

/-- `setupSystemRecords` (lines 17-68), with `validUUID` the test of `uuid.MustParse` and
`newUserID` the value of `uuid.New()`: the panic, if one comes, and the database at that
point. The errors of the two deletions are only printed. -/
def setupSystemRecords (schema : Schema) (validUUID : String → Bool) (newUserID : ℕ)
    (db : SeedDb) (userEmail orgID authToken apiKey : String) : Option Panic × SeedDb :=
  if !validUUID orgID then (some .parseOrgID, db)
  else
    match db.userCreate schema newUserID userEmail with
    | none => (some .userCreate, db)
    | some db =>
      let db := (db.teamDelete schema userEmail).accessTokenDelete newUserID
      match db.teamCreate orgID userEmail with
      | none => (some .teamCreate, db)
      | some db =>
        let db := db.usersTeamsCreate newUserID orgID
        match db.accessTokenCreate authToken newUserID with
        | none => (some .accessTokenCreate, db)
        | some db =>
          match db.teamAPIKeyCreate schema apiKey orgID with
          | none => (some .teamAPIKeyCreate, db)
          | some db =>
            match db.envCreate defaultEnvID orgID with
            | none => (some .envCreate, db)
            | some db => (none, db)

/-- The empty database. -/
def SeedDb.empty : SeedDb := ⟨[], [], [], [], [], []⟩

/-- The records a first run makes from the defaults, with user `id`. -/
def seededDb (id : ℕ) : SeedDb :=
  ⟨[(id, "admin@example.com")], [("00000000-0000-0000-0000-000000000000", "admin@example.com")],
    [(id, "00000000-0000-0000-0000-000000000000")], [("e2b_access_token", id)],
    [("e2b_team_api_key", "00000000-0000-0000-0000-000000000000")],
    [(defaultEnvID, "00000000-0000-0000-0000-000000000000")]⟩

/-- `setupSystemRecords` on a database that has the user ID it draws panics at once. -/
theorem setupSystemRecords_of_user {schema : Schema} {validUUID : String → Bool}
    {newUserID : ℕ} {db : SeedDb} {userEmail orgID authToken apiKey : String}
    (huser : newUserID ∈ db.users.map (·.1)) :
    (setupSystemRecords schema validUUID newUserID db userEmail orgID authToken apiKey).1 ∈
      [some .parseOrgID, some .userCreate] := by
  unfold setupSystemRecords
  split
  · simp
  simp [SeedDb.userCreate, huser]

/-- `setupSystemRecords` on a database that holds the token of another user panics at the latest
on the access token: its deletion of tokens touches only the user it created. -/
theorem setupSystemRecords_of_other_token {schema : Schema} {validUUID : String → Bool}
    {newUserID user : ℕ} {db : SeedDb} {userEmail orgID authToken apiKey : String}
    (htoken : (authToken, user) ∈ db.accessTokens) (hne : user ≠ newUserID) :
    (setupSystemRecords schema validUUID newUserID db userEmail orgID authToken apiKey).1 ∈
      [some .parseOrgID, some .userCreate, some .teamCreate, some .accessTokenCreate] := by
  unfold setupSystemRecords
  split
  · simp
  rcases hu : db.userCreate schema newUserID userEmail with _ | db₁
  · simp
  have htoken₁ : (authToken, user) ∈ (db₁.teamDelete schema userEmail).accessTokens := by
    rw [SeedDb.teamDelete_accessTokens, SeedDb.accessTokens_of_userCreate _ _ hu]
    exact htoken
  dsimp only
  rcases ht : ((db₁.teamDelete schema userEmail).accessTokenDelete newUserID).teamCreate orgID
    userEmail with _ | db₂
  · simp
  have hmem := SeedDb.mem_accessTokenDelete _ htoken₁ hne
  rw [← SeedDb.accessTokens_of_teamCreate _ ht] at hmem
  simp [SeedDb.accessTokenCreate, hmem]

/-- A database that already holds the token `authToken` of one of its users is never seeded to
the end: `setupSystemRecords` panics on the parse of the team ID, on the user, on the team, or at
the latest on the access token, whatever the schema and whatever user ID `uuid.New()` draws. The
deletion of line 34 removes only the tokens of the user just created, who has none. -/
theorem setupSystemRecords_panics_of_token {schema : Schema} {validUUID : String → Bool}
    {newUserID user : ℕ} {db : SeedDb} {userEmail orgID authToken apiKey : String}
    (htoken : (authToken, user) ∈ db.accessTokens) (huser : user ∈ db.users.map (·.1)) :
    (setupSystemRecords schema validUUID newUserID db userEmail orgID authToken apiKey).1 ∈
      [some .parseOrgID, some .userCreate, some .teamCreate, some .accessTokenCreate] := by
  by_cases hne : user = newUserID
  · have h := @setupSystemRecords_of_user schema validUUID newUserID db userEmail orgID authToken
      apiKey (hne ▸ huser)
    simp only [List.mem_cons, List.mem_singleton, List.not_mem_nil, or_false] at h ⊢
    tauto
  · exact setupSystemRecords_of_other_token htoken hne

/-- The records of a first run hold its token: a second `setupSystemRecords` with user ID 2 on
them. -/
theorem setupSystemRecords_panics_of_token_seeded :
    (setupSystemRecords ⟨true, true, false⟩ (fun _ => true) 2 (seededDb 1) "admin@example.com"
      "00000000-0000-0000-0000-000000000000" "e2b_access_token" "e2b_team_api_key").1 ∈
      [some .parseOrgID, some .userCreate, some .teamCreate, some .accessTokenCreate] :=
  @setupSystemRecords_panics_of_token _ _ _ 1 _ _ _ _ _ (by decide) (by decide)

/-- A `setupSystemRecords` that panics at the access token has made the user, deleted the teams
of its email and the user's tokens, made the team, and linked the user to it. -/
theorem setupSystemRecords_of_token_panic {schema : Schema} {validUUID : String → Bool}
    {newUserID : ℕ} {db : SeedDb} {userEmail orgID authToken apiKey : String}
    (h : (setupSystemRecords schema validUUID newUserID db userEmail orgID authToken apiKey).1 =
      some .accessTokenCreate) :
    ∃ db₁ db₃, db.userCreate schema newUserID userEmail = some db₁ ∧
      ((db₁.teamDelete schema userEmail).accessTokenDelete newUserID).teamCreate orgID userEmail =
        some db₃ ∧
      (setupSystemRecords schema validUUID newUserID db userEmail orgID authToken apiKey).2 =
        db₃.usersTeamsCreate newUserID orgID := by
  unfold setupSystemRecords at h ⊢
  split at h
  · cases h
  rename_i hv
  rw [if_neg hv]
  rcases hu : db.userCreate schema newUserID userEmail with _ | db₁
  · simp [hu] at h
  rcases ht : ((db₁.teamDelete schema userEmail).accessTokenDelete newUserID).teamCreate orgID
    userEmail with _ | db₃
  · simp [hu, ht] at h
  refine ⟨db₁, db₃, rfl, ht, ?_⟩
  rcases hat : (db₃.usersTeamsCreate newUserID orgID).accessTokenCreate authToken newUserID with
    _ | db₄
  · simp [hu, ht, hat]
  · simp only [hu, ht, hat] at h
    split at h <;> [skip; split at h] <;> simp at h

/-- Under a schema whose team deletion cascades, on a database where every API key and
environment belongs to a team, a `setupSystemRecords` that panics at the access token leaves the
team of `orgID` re-created with the user's link, and with no API key and no environment: the
deletion of the teams with the user's email took them, and the panic comes before they are made
again. -/
theorem setupSystemRecords_token_panic_strips_team {schema : Schema} {validUUID : String → Bool}
    {newUserID : ℕ} {db : SeedDb} {userEmail orgID authToken apiKey : String}
    (hcascade : schema.teamCascade = true)
    (hkeys : ∀ r ∈ db.teamAPIKeys, r.2 ∈ db.teams.map (·.1))
    (henvs : ∀ r ∈ db.envs, r.2 ∈ db.teams.map (·.1))
    (hpanic : (setupSystemRecords schema validUUID newUserID db userEmail orgID authToken
      apiKey).1 = some .accessTokenCreate) :
    (orgID, userEmail) ∈ (setupSystemRecords schema validUUID newUserID db userEmail orgID
        authToken apiKey).2.teams ∧
      (newUserID, orgID) ∈ (setupSystemRecords schema validUUID newUserID db userEmail orgID
        authToken apiKey).2.usersTeams ∧
      (∀ r ∈ (setupSystemRecords schema validUUID newUserID db userEmail orgID authToken
        apiKey).2.teamAPIKeys, r.2 ≠ orgID) ∧
      ∀ r ∈ (setupSystemRecords schema validUUID newUserID db userEmail orgID authToken
        apiKey).2.envs, r.2 ≠ orgID := by
  obtain ⟨db₁, db₃, hu, ht, heq⟩ := setupSystemRecords_of_token_panic hpanic
  obtain ⟨hfresh, rfl⟩ := SeedDb.teamCreate_eq _ ht
  obtain rfl := SeedDb.userCreate_eq _ _ hu
  rw [heq]
  simp only [SeedDb.teamDelete_of_cascade _ _ hcascade, SeedDb.accessTokenDelete,
    SeedDb.usersTeamsCreate, List.mem_filter, List.mem_append,
    List.mem_singleton, true_or, or_true, true_and] at hfresh ⊢
  /- A key or an environment left names a team that exists and does not have the user's email,
  so that team is kept, and `orgID`, which no kept team has, is not its team. -/
  have hkept : ∀ t ∈ db.teams.map (·.1), (t, userEmail) ∉ db.teams → t ≠ orgID := by
    rintro t hteam hgone rfl
    obtain ⟨⟨t', e'⟩, hmem, rfl⟩ := List.mem_map.1 hteam
    exact hfresh (List.mem_map.2 ⟨(t', e'), List.mem_filter.2 ⟨hmem, by
      simpa using fun h : e' = userEmail => hgone (h ▸ hmem)⟩, rfl⟩)
  exact ⟨fun r hr => hkept r.2 (hkeys r hr.1) (by simpa using hr.2),
    fun r hr => hkept r.2 (henvs r hr.1) (by simpa using hr.2)⟩

/-- A second run with user ID 2 on the records of a first, under a schema with no unique email
and a cascading team deletion. -/
theorem setupSystemRecords_token_panic_strips_seeded_team :
    ("00000000-0000-0000-0000-000000000000", "admin@example.com") ∈
        (setupSystemRecords ⟨false, false, true⟩ (fun _ => true) 2 (seededDb 1)
          "admin@example.com" "00000000-0000-0000-0000-000000000000" "e2b_access_token"
          "e2b_team_api_key").2.teams ∧
      (2, "00000000-0000-0000-0000-000000000000") ∈
        (setupSystemRecords ⟨false, false, true⟩ (fun _ => true) 2 (seededDb 1)
          "admin@example.com" "00000000-0000-0000-0000-000000000000" "e2b_access_token"
          "e2b_team_api_key").2.usersTeams ∧
      (∀ r ∈ (setupSystemRecords ⟨false, false, true⟩ (fun _ => true) 2 (seededDb 1)
          "admin@example.com" "00000000-0000-0000-0000-000000000000" "e2b_access_token"
          "e2b_team_api_key").2.teamAPIKeys, r.2 ≠ "00000000-0000-0000-0000-000000000000") ∧
      ∀ r ∈ (setupSystemRecords ⟨false, false, true⟩ (fun _ => true) 2 (seededDb 1)
          "admin@example.com" "00000000-0000-0000-0000-000000000000" "e2b_access_token"
          "e2b_team_api_key").2.envs, r.2 ≠ "00000000-0000-0000-0000-000000000000" :=
  setupSystemRecords_token_panic_strips_team rfl (by decide) (by decide) (by decide)

/-- The value of a field of the config file: a JSON string, or any other JSON value. -/
inductive ConfigValue
  | str (s : String)
  | other
  deriving DecidableEq, Repr

/-- A JSON object, as `json.Unmarshal` fills the map `configMap`. -/
def Config := String → Option ConfigValue

/-- The file `~/.e2b/config.json`: missing, not a JSON object, or the object it holds. A file
the script writes is kept as the map it encodes. -/
inductive ConfigFile
  | missing
  | malformed
  | object (m : Config)

/-- The map with `key` set to `v`. -/
def Config.set (m : Config) (key : String) (v : ConfigValue) : Config :=
  fun k => if k = key then some v else m k

/-- The empty object. -/
def Config.empty : Config := fun _ => none

/-- The configuration `main` writes when the file is missing (lines 104-121). -/
def defaultConfig : Config :=
  (((((Config.empty.set "email" (.str "admin@example.com")).set "teamId"
    (.str "00000000-0000-0000-0000-000000000000")).set "accessToken"
    (.str "e2b_access_token")).set "teamApiKey" (.str "e2b_team_api_key")).set "cloud"
    (.str "aws")).set "region" (.str "us-east-1")

/-- What the script meets besides the database and the file: the errors of `db.NewClient`,
of the count of teams, of `os.UserHomeDir` and of `os.WriteFile`, the test of `uuid.MustParse`
and the value of `uuid.New()`. -/
structure SeedIO where
  dbErr : Option String
  countErr : Option String
  homeErr : Option String
  writeErr : Option String
  validUUID : String → Bool
  newUserID : ℕ

/-- The string of a field, as the type assertion `configMap[name].(string)` reads it: a panic
when the field is missing or not a string. -/
def stringField (m : Config) (name : String) : Except Panic String :=
  match m name with
  | some (.str s) => .ok s
  | _ => .error (.field name)

/-- `main` (lines 70-174): the panic, if one comes, the database and the file after the run. -/
def seedMain (schema : Schema) (io : SeedIO) (db : SeedDb) (file : ConfigFile) :
    Option Panic × SeedDb × ConfigFile :=
  match io.dbErr, io.countErr with
  | some _, _ => (some .newClient, db, file)
  | none, some _ => (some .teamCount, db, file)
  | none, none =>
    if db.teams.length > 1 then (some .existingData, db, file)
    else if io.homeErr.isSome then (none, db, file)
    else
      match file with
      | .missing =>
        match setupSystemRecords schema io.validUUID io.newUserID db "admin@example.com"
            "00000000-0000-0000-0000-000000000000" "e2b_access_token" "e2b_team_api_key" with
        | (some p, db) => (some p, db, file)
        | (none, db) =>
          if io.writeErr.isSome then (some .writeConfig, db, file)
          else (none, db, .object defaultConfig)
      | .malformed => (some .unmarshal, db, file)
      | .object m =>
        let updated := ((m.set "cloud" (.str "aws")).set "region" (.str "us-east-1"))
        if m "cloud" = none ∧ io.writeErr.isSome then (some .writeConfig, db, file)
        else
          let (m, file) := if m "cloud" = none then (updated, .object updated) else (m, file)
          match stringField m "email", stringField m "teamId", stringField m "accessToken",
              stringField m "teamApiKey" with
          | .ok userEmail, .ok orgID, .ok authToken, .ok apiKey =>
            let (p, db) := setupSystemRecords schema io.validUUID io.newUserID db userEmail orgID
              authToken apiKey
            (p, db, file)
          | .error p, _, _, _ | .ok _, .error p, _, _ | .ok _, .ok _, .error p, _
          | .ok _, .ok _, .ok _, .error p => (some p, db, file)

/-- On the empty database with no config file, a run without I/O errors makes the records of
the defaults and writes the default configuration, whatever the schema. -/
theorem seedMain_first_run (schema : Schema) (io : SeedIO) (hdb : io.dbErr = none)
    (hcount : io.countErr = none) (hhome : io.homeErr = none) (hwrite : io.writeErr = none)
    (hvalid : io.validUUID "00000000-0000-0000-0000-000000000000" = true) :
    seedMain schema io .empty .missing = (none, seededDb io.newUserID, .object defaultConfig) := by
  simp [seedMain, hdb, hcount, hhome, hwrite, setupSystemRecords, hvalid, SeedDb.empty,
    SeedDb.userCreate, SeedDb.teamDelete, SeedDb.accessTokenDelete, SeedDb.teamCreate,
    SeedDb.usersTeamsCreate, SeedDb.accessTokenCreate, SeedDb.teamAPIKeyCreate,
    SeedDb.envCreate, seededDb]

/-- On the records and the file of a first run, a run that gets past the database client, the
count and the home directory reads the defaults back and runs `setupSystemRecords` on them. -/
theorem seedMain_after_first_run (schema : Schema) (io : SeedIO) (id : ℕ) (hdb : io.dbErr = none)
    (hcount : io.countErr = none) (hhome : io.homeErr = none) :
    seedMain schema io (seededDb id) (.object defaultConfig) =
      let r := setupSystemRecords schema io.validUUID io.newUserID (seededDb id)
        "admin@example.com" "00000000-0000-0000-0000-000000000000" "e2b_access_token"
        "e2b_team_api_key"
      (r.1, r.2, .object defaultConfig) := by
  simp [seedMain, hdb, hcount, hhome, seededDb, defaultConfig, Config.set, stringField]

/-- The script cannot be run twice. From the empty database with no config file, a first run
without errors completes and leaves one team. A second run on the records and the file of the
first passes the guard on the number of teams and panics, on the parse of the team ID, the
user, the team or the access token, whatever the schema and whatever user ID it draws. -/
theorem seedMain_twice_panics (schema : Schema) (io₁ io₂ : SeedIO)
    (h₁ : io₁.dbErr = none ∧ io₁.countErr = none ∧ io₁.homeErr = none ∧ io₁.writeErr = none)
    (hvalid : io₁.validUUID "00000000-0000-0000-0000-000000000000" = true)
    (h₂ : io₂.dbErr = none ∧ io₂.countErr = none ∧ io₂.homeErr = none) :
    (seedMain schema io₁ .empty .missing).1 = none ∧
    (seedMain schema io₁ .empty .missing).2.1.teams.length = 1 ∧
    (seedMain schema io₂ (seedMain schema io₁ .empty .missing).2.1
        (seedMain schema io₁ .empty .missing).2.2).1 ∈
      [some .parseOrgID, some .userCreate, some .teamCreate, some .accessTokenCreate] := by
  obtain ⟨hdb₁, hcount₁, hhome₁, hwrite₁⟩ := h₁
  obtain ⟨hdb₂, hcount₂, hhome₂⟩ := h₂
  rw [seedMain_first_run schema io₁ hdb₁ hcount₁ hhome₁ hwrite₁ hvalid]
  refine ⟨rfl, rfl, ?_⟩
  rw [seedMain_after_first_run schema io₂ _ hdb₂ hcount₂ hhome₂]
  by_cases hne : io₁.newUserID = io₂.newUserID
  · have h := @setupSystemRecords_of_user schema io₂.validUUID io₂.newUserID
      (seededDb io₁.newUserID) "admin@example.com" "00000000-0000-0000-0000-000000000000"
      "e2b_access_token" "e2b_team_api_key" (by simp [seededDb, hne])
    simp only [List.mem_cons, List.mem_singleton, List.not_mem_nil, or_false] at h ⊢
    tauto
  · exact setupSystemRecords_of_other_token (List.mem_singleton_self _) hne

end E2bInfra.Scripts
