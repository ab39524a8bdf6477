import E2bInfra.Go.Strings

/-!
# Routing in the Docker registry proxy

The handler of the Docker reverse proxy sends each request to a handler of the store by its path,
method and `Authorization` header. Uploads, `PATCH` requests under an upload path, are passed on
before the header is tested. On AWS the upload paths are characterised exactly: the split of the
path and the prefix test after it accept `/v2/e2b/custom-envs/<templateID>/blobs/uploads/<rest>`
for a template ID without a slash, and nothing else.

`HandleAWSECRToken` reads the template ID out of the token request's `scope` as the third segment
of the repository path between the first two colons, whatever the first two segments say.
-/

namespace E2bInfra.Registry

/-- `constants.CloudProvider`. -/
inductive CloudProvider
  | gcp
  | aws
  deriving DecidableEq, Repr

/-- A request, by what the handler reads: its method, `req.URL.String()`, `req.URL.Path`, and its
`Authorization` header, empty when there is none. Paths are read as lists of characters; they
are split and tested on ASCII characters only, where bytes and runes agree. -/
structure ProxyRequest where
  method : String
  url : List Char
  path : List Char
  authorization : List Char
  deriving DecidableEq, Repr

/-- The handler of the store a request goes to. -/
inductive Route
  | healthCheck
  | serveHTTP
  | notFound
  | unauthorized
  | getToken
  | loginWithToken
  | proxy
  deriving DecidableEq, Repr

/-- The repository prefix of the AWS upload paths. -/
def repoPrefix : List Char := "/v2/e2b/custom-envs/".toList

/-- The end of an upload path after the template ID. -/
def blobsUploads : List Char := "/blobs/uploads/".toList

/-- Lines 48-63: whether an AWS `PATCH` request's URL is an upload of a template: it starts with
the repository prefix, the pieces after it are a template ID, `blobs` and `uploads`, and the URL
starts with the upload prefix of that template. -/
def awsUploadPath (path : List Char) : Bool :=
  if repoPrefix.isPrefixOf path then
    match (path.drop repoPrefix.length).splitOn '/' with
    | templateID :: p₁ :: p₂ :: _ =>
      p₁ == "blobs".toList && p₂ == "uploads".toList &&
        (repoPrefix ++ templateID ++ blobsUploads).isPrefixOf path
    | _ => false
  else false

/-- Lines 43-65: a `PATCH` request that is passed on as it is, with no `Authorization` test: on
GCP under the artifact upload prefix, on AWS on an upload path of a template. -/
def uploadBypass (provider : CloudProvider) (gcpArtifactUploadPrefix : List Char)
    (req : ProxyRequest) : Bool :=
  req.method == "PATCH" &&
    match provider with
    | .gcp => gcpArtifactUploadPrefix.isPrefixOf req.url
    | .aws => awsUploadPath req.url

/-- The handler of lines 32-104, with `gcpArtifactUploadPrefix` the value built from the GCP
project and registry. -/
def route (provider : CloudProvider) (gcpArtifactUploadPrefix : List Char)
    (req : ProxyRequest) : Route :=
  if req.path = "/health".toList then .healthCheck
  else if uploadBypass provider gcpArtifactUploadPrefix req then .serveHTTP
  else if req.path = "/v2/token".toList ∧ req.method = "POST" then .notFound
  else if req.authorization = [] then .unauthorized
  else if req.path = "/v2/token".toList then .getToken
  else if req.path = "/v2/".toList then .loginWithToken
  else .proxy

theorem isPrefixOf_append (l₁ l₂ : List Char) : l₁.isPrefixOf (l₁ ++ l₂) = true :=
  List.isPrefixOf_iff_prefix.2 (List.prefix_append l₁ l₂)

/-- The pieces of an upload path after the repository prefix. -/
theorem splitOn_uploadPath {templateID : List Char} (hid : '/' ∉ templateID) (rest : List Char) :
    (templateID ++ blobsUploads ++ rest).splitOn '/' =
      templateID :: "blobs".toList :: "uploads".toList :: rest.splitOn '/' := by
  have hsplit : templateID ++ blobsUploads ++ rest =
      templateID ++ '/' :: ("blobs".toList ++ '/' :: ("uploads".toList ++ '/' :: rest)) := by
    simp [blobsUploads]
  rw [hsplit, splitOn_append_cons hid, splitOn_append_cons (by decide),
    splitOn_append_cons (by decide)]

/-- The AWS upload paths are exactly the repository prefix, a template ID without a slash, the
segments `blobs/uploads/`, and any rest. -/
theorem awsUploadPath_iff (path : List Char) :
    awsUploadPath path = true ↔
      ∃ templateID rest, '/' ∉ templateID ∧
        path = repoPrefix ++ templateID ++ blobsUploads ++ rest := by
  constructor
  · intro h
    unfold awsUploadPath at h
    split_ifs at h with hpre
    obtain ⟨s, rfl⟩ := List.isPrefixOf_iff_prefix.1 hpre
    rw [List.drop_left] at h
    split at h
    · rename_i templateID p₁ p₂ tl hs
      simp only [Bool.and_eq_true, beq_iff_eq] at h
      obtain ⟨-, hprefix⟩ := h
      obtain ⟨rest, hrest⟩ := List.isPrefixOf_iff_prefix.1 hprefix
      exact ⟨templateID, rest, not_mem_of_splitOn_eq_cons hs, by simpa using hrest.symm⟩
    · cases h
  · rintro ⟨templateID, rest, hid, rfl⟩
    have hdrop : (repoPrefix ++ templateID ++ blobsUploads ++ rest).drop repoPrefix.length =
        templateID ++ blobsUploads ++ rest := by
      simp only [List.append_assoc, List.drop_left]
    have hpre : repoPrefix.isPrefixOf (repoPrefix ++ templateID ++ blobsUploads ++ rest) := by
      simp only [List.append_assoc, isPrefixOf_append]
    rw [awsUploadPath, if_pos hpre, hdrop, splitOn_uploadPath hid]
    simp only [beq_self_eq_true, isPrefixOf_append, Bool.and_self]

example : awsUploadPath "/v2/e2b/custom-envs/abc/blobs/uploads/u".toList = true := by decide

/-- Without the slash after `uploads` the path is refused: the split sees the three pieces, but
the prefix test after it asks for the slash. -/
example : awsUploadPath "/v2/e2b/custom-envs/abc/blobs/uploads".toList = false := by decide

/-! ## The scope of a token request -/

/-- Lines 167-189 of `HandleAWSECRToken`: the template ID read out of a non-empty `scope`, the
third `/`-segment of the piece after the first `:`. `EnsureECRRepositoryExists` is called on it. -/
def scopeTemplateID (scope : List Char) : Option (List Char) :=
  if scope = [] then none
  else
    match scope.splitOn ':' with
    | _ :: repoPath :: _ =>
      match repoPath.splitOn '/' with
      | _ :: _ :: templateID :: _ => some templateID
      | _ => none
    | _ => none

/-- For a scope `<type>:<a>/<b>/<templateID>:<actions>`, with no colon in the type or the
repository path and no slash in its three segments, `HandleAWSECRToken` reads the template ID,
whatever `a` and `b` are. -/
theorem scopeTemplateID_eq {type a b templateID actions : List Char} (htype : ':' ∉ type)
    (ha : ':' ∉ a ∧ '/' ∉ a) (hb : ':' ∉ b ∧ '/' ∉ b) (hid : ':' ∉ templateID ∧ '/' ∉ templateID) :
    scopeTemplateID (type ++ ':' :: (a ++ '/' :: (b ++ '/' :: templateID)) ++ ':' :: actions) =
      some templateID := by
  have hrepo : ':' ∉ a ++ '/' :: (b ++ '/' :: templateID) := by
    simp [ha.1, hb.1, hid.1]
  have hne : type ++ ':' :: (a ++ '/' :: (b ++ '/' :: templateID)) ++ ':' :: actions ≠ [] := by
    simp
  rw [scopeTemplateID, if_neg hne, List.append_assoc, List.cons_append,
    splitOn_append_cons htype, splitOn_append_cons hrepo]
  simp only
  rw [splitOn_append_cons ha.2, splitOn_append_cons hb.2, splitOn_of_not_mem hid.2]

/-- The scope of a push to template `abc`, in the format the handler's comment gives. -/
theorem scopeTemplateID_eq_push :
    scopeTemplateID ("repository".toList ++ ':' :: ("e2b".toList ++ '/' ::
      ("custom-envs".toList ++ '/' :: "abc".toList)) ++ ':' :: "push,pull".toList) =
      some "abc".toList :=
  scopeTemplateID_eq (by decide) ⟨by decide, by decide⟩ ⟨by decide, by decide⟩
    ⟨by decide, by decide⟩

end E2bInfra.Registry
