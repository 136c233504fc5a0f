import FunctionHost.Json.Reader
import FunctionHost.Text.Blank
/-!
# What an invocation brings

An invocation is a request body and headers. The body is the request object: a body of ASCII
blanks only (space, tab, line feed, form feed, carriage return), or the document `null`, is the
empty request; any other document must be an object, and anything else is refused.

Headers are looked up by name in any case; the first value of a name counts, and only when it
is visible ASCII text (tabs allowed), trimmed and not empty. They give the activity, environment
and environment name (empty when absent), and optionally the workflow token, the engine
endpoint, the activity file upload path, the state store's URL and token, and the organization
and project.

The request's metadata is rebuilt from the headers: the three identifiers always, the four
store fields when given. The activity log goes to the engine endpoint, joined with the upload
path by exactly one slash when there is one.
-/
namespace FunctionHost.Server

open Json

/-- Whether a byte is an ASCII blank of a request body. -/
def isBodyBlank (b : UInt8) : Bool := b == 32 || b == 9 || b == 10 || b == 12 || b == 13

/-- The request object a body holds, if it holds one. Mirrors `parse_request`. -/
def readRequest (body : List UInt8) : Option Members :=
  if body.all isBodyBlank then some []
  else match readBytes body with
    | .ok .null => some []
    | .ok (.object ms) => some ms
    | _ => none

-- a body of blanks is the empty request
example : readRequest [32, 10, 12] = some [] := rfl

def isVisible (b : UInt8) : Bool := (32 ≤ b && b < 127) || b == 9

/-- The value of a header as trimmed text, if it is present, visible and not empty. -/
def headerText (headers : List (String × List UInt8)) (name : String) : Option String :=
  match headers.find? (fun (n, _) => n.toLower == name.toLower) with
  | some (_, v) =>
    if v.all isVisible then
      let s := Text.trim (String.ofList (v.map fun b => Char.ofNat b.toNat))
      if s.isEmpty then none else some s
    else none
  | none => none

/-- What the headers of an invocation say. -/
structure InvocationHeaders where
  activityId : String
  environmentId : String
  environmentName : String
  workflowToken : Option String
  engineEndpoint : Option String
  uploadPath : Option String
  stateStoreUrl : Option String
  stateStoreToken : Option String
  organizationId : Option String
  projectId : Option String
  deriving DecidableEq, Repr

namespace InvocationHeaders

/-- Reads the headers of an invocation. Mirrors `from_headers`. -/
def ofHeaders (headers : List (String × List UInt8)) : InvocationHeaders :=
  let get := headerText headers
  { activityId := (get "X-Activity-ID").getD ""
    environmentId := (get "X-Environment-ID").getD ""
    environmentName := (get "X-Environment-Name").getD ""
    workflowToken := get "X-Workflow-Token"
    engineEndpoint := get "X-Engine-Endpoint"
    uploadPath := get "X-Activity-File-Upload"
    stateStoreUrl := get "X-State-Store-Url"
    stateStoreToken := get "X-State-Store-Token"
    organizationId := get "X-Organization-ID"
    projectId := get "X-Project-ID" }

/-- The metadata object of the request. Mirrors the headers' `metadata`. -/
def metadata (h : InvocationHeaders) : Members :=
  let optional := [("stateStoreUrl", h.stateStoreUrl), ("stateStoreToken", h.stateStoreToken),
    ("organizationID", h.organizationId), ("projectID", h.projectId)]
  membersOf ([("activityID", Value.string h.activityId), ("environmentID", .string h.environmentId),
    ("environmentName", .string h.environmentName)] ++
    optional.filterMap fun (k, v) => v.map fun s => (k, Value.string s))

def trimEndSlashes (s : String) : String := String.ofList ((s.toList.reverse.dropWhile (· = '/')).reverse)

def trimStartSlashes (s : String) : String := String.ofList (s.toList.dropWhile (· = '/'))

/-- Where the activity log goes, if anywhere. Mirrors `activity_log_url`. -/
def activityLogUrl (h : InvocationHeaders) : Option String :=
  h.engineEndpoint.map fun endpoint =>
    match h.uploadPath with
    | some path => trimEndSlashes endpoint ++ "/" ++ trimStartSlashes path
    | none => endpoint

end InvocationHeaders

-- endpoint and path are joined by one slash
example (h : InvocationHeaders) (hp : h.uploadPath = some "/a")
    (he : h.engineEndpoint = some "http://c/") :
    h.activityLogUrl = some "http://c/a" := by
  simp [InvocationHeaders.activityLogUrl, hp, he]
  decide

end FunctionHost.Server
