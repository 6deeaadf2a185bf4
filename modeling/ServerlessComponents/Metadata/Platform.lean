import ServerlessComponents.AgentConfig.Value
import ServerlessComponents.Library.Utf8

/-!
# Who the workload is

`platform/azure.rs` and `platform/gcp.rs`: the identity of an Azure Function comes from the site's
variables, that of a Cloud Function from variables too, and from the metadata server for what they
do not tell. The server is asked over HTTP; its answer comes in chunks and may be anything.

`AzureMetadata` and the HTTP client are other packages'; what they give is a parameter.

## Main results

* `fetchMetadataValue_eq_some_iff` — which answers are believed, however they are cut.
* `collectFrom_eq_some_iff` — when a Cloud Function has an identity, and which.
-/
namespace ServerlessComponents.Metadata

open AgentConfig (Value HashMap trim trimEndMatches)

/-- The variables of the process, as far as they are Unicode. -/
abbrev Environ := String → Option String

/-- `ProcessEnv::get_var`: a blank variable is none. -/
def getVar (environ : Environ) (name : String) : Option String :=
  ((environ name).map trim).filter (· ≠ "")

structure PlatformData where
  workloadType : String
  resourceId : String
  resourceName : String
  metadata : HashMap Value

/-! ## Azure -/

/-- The getters of the package's `AzureMetadata`. -/
structure AzureMetadata where
  siteName : String
  resourceId : String
  region : String
  subscriptionId : String
  resourceGroup : String
  operatingSystem : String
  runtime : String
  runtimeVersion : String

namespace Azure

variable (UNKNOWN_VALUE : String)

def knownValue (value : String) : Option String :=
  if value ≠ UNKNOWN_VALUE ∧ value ≠ "" then some value else none

def runtimeVersion (value : String) : Option String :=
  ((knownValue UNKNOWN_VALUE value).map fun value =>
    String.ofList (value.toList.dropWhile (· = '~'))).filter (· ≠ "")

def runtimeWithVersion (runtime version : String) : Option String :=
  (knownValue UNKNOWN_VALUE runtime).map fun runtime =>
    match runtimeVersion UNKNOWN_VALUE version with
    | some version => runtime ++ version
    | none => runtime

/-- The fields that are known, in the order they are inserted. -/
def fields (azure : AzureMetadata) : List (String × String) :=
  ([("region", azure.region), ("azure_subscription_id", azure.subscriptionId),
    ("azure_resource_group", azure.resourceGroup), ("os", azure.operatingSystem)].filterMap
      fun (field, value) => (knownValue UNKNOWN_VALUE value).map (field, ·)) ++
    ((runtimeWithVersion UNKNOWN_VALUE azure.runtime azure.runtimeVersion).map
      ("runtime", ·)).toList

def collectFrom (azure : Option AzureMetadata) : Option PlatformData := do
  let azure ← azure
  let resourceName ← knownValue UNKNOWN_VALUE azure.siteName
  let resourceId ← knownValue UNKNOWN_VALUE azure.resourceId
  let metadata := (fields UNKNOWN_VALUE azure).foldl
    (fun metadata (field, value) => metadata.insert field (Value.string value)) ∅
  some { workloadType := "azure_function", resourceId, resourceName, metadata }

end Azure

/-! ## Google Cloud -/

namespace Gcp

def MAX_METADATA_RESPONSE_BYTES : Nat := 1024

structure Identity where
  name : String
  region : Option String
  project : Option String

def firstEnv (environ : Environ) (names : List String) : Option String :=
  names.findSome? fun name => (getVar environ name).filter (· ≠ "")

def NAME_VARIABLES : List String := ["FUNCTION_NAME", "K_SERVICE"]

def REGION_VARIABLES : List String := ["FUNCTION_REGION", "GOOGLE_CLOUD_REGION", "REGION_NAME"]

def PROJECT_VARIABLES : List String := ["GCP_PROJECT", "GCLOUD_PROJECT", "GOOGLE_CLOUD_PROJECT"]

def identityFromEnv (environ : Environ) : Option Identity := do
  let name ← firstEnv environ NAME_VARIABLES
  some {
    name
    region := firstEnv environ REGION_VARIABLES
    project := firstEnv environ PROJECT_VARIABLES }

def detectRuntime (environ : Environ) : Option String :=
  [("node", "NODE_VERSION"), ("python", "PYTHON_VERSION"), ("java", "JAVA_VERSION"),
    ("go", "GO_VERSION")].findSome? fun (runtime, variable_) =>
      (firstEnv environ [variable_]).map fun version => runtime ++ version

def buildPlatformData (identity : Identity) (environ : Environ) : Option PlatformData := do
  let region ← identity.region
  let project ← identity.project
  let metadata : HashMap Value :=
    ((∅ : HashMap Value).insert "region" (.string region)).insert "gcp_project_id" (.string project)
  some {
    workloadType := "cloud_function"
    resourceId :=
      "//cloudfunctions.googleapis.com/projects/" ++ project ++ "/locations/" ++ region ++
        "/functions/" ++ identity.name
    resourceName := identity.name
    metadata :=
      match detectRuntime environ with
      | some runtime => metadata.insert "runtime" (.string runtime)
      | none => metadata }

/-! ### The metadata server -/

/-- An answer of the server. The header is none when it is absent or not text; the chunks of the
body end with an error or without. -/
structure Response where
  status : Nat
  metadataFlavor : Option String
  contentLength : Option Nat
  chunks : List (List UInt8)
  error : Option String := none

def Response.isSuccess (response : Response) : Bool :=
  200 ≤ response.status && response.status < 300

/-- The loop over the chunks. -/
def readChunks (error : Option String) (body : List UInt8) :
    List (List UInt8) → Option (List UInt8)
  | [] =>
    match error with
    | none => some body
    | some _ => none
  | chunk :: later =>
    if body.length + chunk.length ≤ MAX_METADATA_RESPONSE_BYTES then
      readChunks error (body ++ chunk) later
    else none

def fetchMetadataValue (answer : Except String Response) (parse : String → Option String) :
    Option String :=
  match answer with
  | .error _ => none
  | .ok response =>
    if ! response.isSuccess then none
    else if response.metadataFlavor ≠ some "Google" then none
    else if response.contentLength.any (MAX_METADATA_RESPONSE_BYTES < ·) then none
    else
      match readChunks response.error [] response.chunks with
      | none => none
      | some body =>
        match Utf8.decode body with
        | none => none
        | some body => parse (trim body)

/-- The last segment of `projects/<project-number>/regions/<region-name>`. -/
def parseRegion (body : String) : Option String :=
  (AgentConfig.split (· = '/') body).getLast?.filter (· ≠ "")

def parseProject (body : String) : Option String := if body = "" then none else some body

/-- The server's answers, by path. -/
structure MetadataServer where
  region : Except String Response
  project : Except String Response

def fetchRegion (server : MetadataServer) : Option String :=
  fetchMetadataValue server.region parseRegion

def fetchProject (server : MetadataServer) : Option String :=
  fetchMetadataValue server.project parseProject

/-- What a Cloud Function asks the server for. -/
inductive Request where
  | region
  | project
  deriving DecidableEq, Repr

/-- The identity, with the requests on the way to it. -/
def collectFrom (environ : Environ) (clientBuilds : Bool) (server : MetadataServer) :
    List Request × Option PlatformData :=
  match identityFromEnv environ with
  | none => ([], none)
  | some identity =>
    match identity.region, identity.project with
    | some _, some _ => ([], buildPlatformData identity environ)
    | region, project =>
      if ! clientBuilds then ([], none)
      else
        match region, project with
        | none, none =>
          ([.region, .project],
            buildPlatformData
              { identity with region := fetchRegion server, project := fetchProject server }
              environ)
        | none, some _ =>
          ([.region], buildPlatformData { identity with region := fetchRegion server } environ)
        | some _, none =>
          ([.project], buildPlatformData { identity with project := fetchProject server } environ)
        | some _, some _ => ([], buildPlatformData identity environ)

/-! ### What is believed -/

theorem readChunks_eq_some_iff {error : Option String} {body : List UInt8}
    (short : body.length ≤ MAX_METADATA_RESPONSE_BYTES) {chunks : List (List UInt8)}
    {read : List UInt8} :
    readChunks error body chunks = some read ↔
      error = none ∧ body.length + chunks.flatten.length ≤ MAX_METADATA_RESPONSE_BYTES ∧
        read = body ++ chunks.flatten := by
  induction chunks generalizing body with
  | nil => cases error <;> simp [readChunks, short, eq_comm]
  | cons chunk later ih =>
    unfold readChunks
    split
    next fits =>
      rw [ih (by simpa using fits)]
      simp [Nat.add_assoc]
    next full =>
      refine iff_of_false (by simp) ?_
      rintro ⟨-, fits, -⟩
      simp only [List.flatten_cons, List.length_append] at fits
      omega

/-- The answer tells the value: a success of the server itself, not too long and whole, in UTF-8. -/
structure Tells (parse : String → Option String) (value : String) (response : Response) : Prop where
  success : response.isSuccess = true
  flavor : response.metadataFlavor = some "Google"
  announced : ∀ n ∈ response.contentLength, n ≤ MAX_METADATA_RESPONSE_BYTES
  whole : response.error = none
  fits : response.chunks.flatten.length ≤ MAX_METADATA_RESPONSE_BYTES
  parsed : ∃ text, Utf8.decode response.chunks.flatten = some text ∧ parse (trim text) = some value

/-- How the body is cut into chunks makes no difference. -/
theorem fetchMetadataValue_eq_some_iff {answer : Except String Response}
    {parse : String → Option String} {value : String} :
    fetchMetadataValue answer parse = some value ↔
      ∃ response, answer = .ok response ∧ Tells parse value response := by
  cases answer with
  | error e => simp [fetchMetadataValue]
  | ok response =>
    have body (read : List UInt8) : readChunks response.error [] response.chunks = some read ↔ _ :=
      readChunks_eq_some_iff (by simp)
    constructor
    · intro h
      simp only [fetchMetadataValue] at h
      split at h
      · cases h
      next success =>
        split at h
        · cases h
        next flavor =>
          split at h
          · cases h
          next announced =>
            split at h
            · cases h
            next read got =>
              split at h
              · cases h
              next text decoded =>
                obtain ⟨whole, fits, rfl⟩ := (body read).1 got
                refine ⟨response, rfl, by simpa using success, by simpa using flavor, ?_, whole,
                  by simpa using fits, text, by simpa using decoded, h⟩
                intro n length
                simpa [Option.mem_def.1 length] using announced
    · rintro ⟨_, ⟨⟩, tells⟩
      obtain ⟨text, decoded, parsed⟩ := tells.parsed
      have got := (body response.chunks.flatten).2 ⟨tells.whole, by simpa using tells.fits, rfl⟩
      have announced : response.contentLength.any (MAX_METADATA_RESPONSE_BYTES < ·) = false := by
        cases length : response.contentLength with
        | none => rfl
        | some n => simpa using tells.announced n length
      simp [fetchMetadataValue, tells.success, tells.flavor, announced, got, decoded, parsed]

/-! ### The identity -/

/-- Where a value of the identity comes from: the first variable that is not blank, else the
server. -/
def Known (environ : Environ) (clientBuilds : Bool) (names : List String)
    (answer : Except String Response) (parse : String → Option String) (value : String) : Prop :=
  firstEnv environ names = some value ∨
    firstEnv environ names = none ∧ clientBuilds = true ∧
      ∃ response, answer = .ok response ∧ Tells parse value response

/-- What is reported about a Cloud Function. -/
def platformData (environ : Environ) (name region project : String) : PlatformData where
  workloadType := "cloud_function"
  resourceId :=
    "//cloudfunctions.googleapis.com/projects/" ++ project ++ "/locations/" ++ region ++
      "/functions/" ++ name
  resourceName := name
  metadata :=
    let metadata : HashMap Value :=
      ((∅ : HashMap Value).insert "region" (.string region)).insert "gcp_project_id"
        (.string project)
    match detectRuntime environ with
    | some runtime => metadata.insert "runtime" (.string runtime)
    | none => metadata

theorem buildPlatformData_eq_some_iff {identity : Identity} {environ : Environ}
    {data : PlatformData} :
    buildPlatformData identity environ = some data ↔
      ∃ region project, identity.region = some region ∧ identity.project = some project ∧
        data = platformData environ identity.name region project := by
  unfold buildPlatformData
  cases identity.region with
  | none => simp
  | some region =>
    cases identity.project with
    | none => simp
    | some project => simp [platformData, eq_comm]

theorem known_of_env {environ : Environ} {clientBuilds : Bool} {names : List String}
    {answer : Except String Response} {parse : String → Option String} {found value : String}
    (told : firstEnv environ names = some found) :
    Known environ clientBuilds names answer parse value ↔ value = found := by
  simp [Known, told, eq_comm]

theorem known_of_server {environ : Environ} {names : List String}
    {answer : Except String Response} {parse : String → Option String} {value : String}
    (untold : firstEnv environ names = none) :
    Known environ true names answer parse value ↔
      fetchMetadataValue answer parse = some value := by
  simp [Known, untold, fetchMetadataValue_eq_some_iff]

theorem not_known_of_no_client {environ : Environ} {names : List String}
    {answer : Except String Response} {parse : String → Option String} {value : String}
    (untold : firstEnv environ names = none) : ¬ Known environ false names answer parse value := by
  simp [Known, untold]

/-- A Cloud Function has an identity exactly if its name is among the variables and its region and
its project are each told by a variable or else by the server, and the server is asked for just what
no variable tells. -/
theorem collectFrom_eq_some_iff (environ : Environ) (clientBuilds : Bool) (server : MetadataServer)
    (data : PlatformData) :
    ((collectFrom environ clientBuilds server).2 = some data ↔
      ∃ name region project, firstEnv environ NAME_VARIABLES = some name ∧
        Known environ clientBuilds REGION_VARIABLES server.region parseRegion region ∧
        Known environ clientBuilds PROJECT_VARIABLES server.project parseProject project ∧
        data = platformData environ name region project) ∧
    ∀ request, request ∈ (collectFrom environ clientBuilds server).1 ↔
      (firstEnv environ NAME_VARIABLES).isSome ∧ clientBuilds = true ∧
        firstEnv environ (match request with
          | .region => REGION_VARIABLES
          | .project => PROJECT_VARIABLES) = none := by
  unfold collectFrom identityFromEnv
  cases named : firstEnv environ NAME_VARIABLES with
  | none => simp
  | some name =>
    cases inRegion : firstEnv environ REGION_VARIABLES with
    | some region =>
      simp only [known_of_env inRegion]
      cases inProject : firstEnv environ PROJECT_VARIABLES with
      | some project =>
        simp only [known_of_env inProject]
        refine ⟨by simp [buildPlatformData_eq_some_iff], ?_⟩
        rintro (_ | _) <;> simp [inRegion, inProject]
      | none =>
        cases clientBuilds with
        | false =>
          refine ⟨by simp [not_known_of_no_client inProject], ?_⟩
          rintro (_ | _) <;> simp
        | true =>
          simp only [known_of_server inProject]
          refine ⟨by simp [buildPlatformData_eq_some_iff, fetchProject], ?_⟩
          rintro (_ | _) <;> simp [inRegion, inProject]
    | none =>
      cases clientBuilds with
      | false =>
        refine ⟨?_, ?_⟩
        · cases firstEnv environ PROJECT_VARIABLES <;>
            simp [not_known_of_no_client inRegion]
        · rintro (_ | _) <;> cases firstEnv environ PROJECT_VARIABLES <;> simp
      | true =>
        simp only [known_of_server inRegion]
        cases inProject : firstEnv environ PROJECT_VARIABLES with
        | some project =>
          simp only [known_of_env inProject]
          refine ⟨by simp [buildPlatformData_eq_some_iff, fetchRegion], ?_⟩
          rintro (_ | _) <;> simp [inRegion, inProject]
        | none =>
          simp only [known_of_server inProject]
          refine ⟨by simp [buildPlatformData_eq_some_iff, fetchRegion, fetchProject], ?_⟩
          rintro (_ | _) <;> simp [inRegion, inProject]

end Gcp

end ServerlessComponents.Metadata
