import FunctionHost.Fault.Basic
import FunctionHost.Json.Shape
import FunctionHost.Payload.Access
/-!
# Scopes of state and the binding to a store

State lives in a scope: an organization, a project inside it, or an environment inside that.
A scope is written as an object with `organization_id` and, when the scope is narrower,
`project_id` and `environment_id`; identifiers that a scope does not have are left out. Read
back, the two narrower identifiers may be missing or `null`, and the record may also be written
as the array of its three fields, the last two optional.

An invocation is bound to a store by its metadata: `stateStoreUrl` must be a non-empty string,
and the token and the three identifiers are read as strings, empty when missing or not strings.

Results:
* `toValue_organization`: an organization scope is written with its identifier alone.
* `ofDecoded_toValue`: a scope written and read back is the scope it was.
-/
namespace FunctionHost.State

open Json

/-- Where state lives. -/
structure Scope where
  organizationId : String
  projectId : Option String
  environmentId : Option String
  deriving DecidableEq, Repr

namespace Scope

def organization (o : String) : Scope := ⟨o, none, none⟩

def project (o p : String) : Scope := ⟨o, some p, none⟩

def environment (o p e : String) : Scope := ⟨o, some p, some e⟩

/-- The members of a scope's object, identifiers it does not have left out. -/
def members (s : Scope) : List (String × Value) :=
  [("organization_id", Value.string s.organizationId)] ++
    (s.projectId.map fun p => [("project_id", Value.string p)]).getD [] ++
    (s.environmentId.map fun e => [("environment_id", Value.string e)]).getD []

def toValue (s : Scope) : Value := Value.objectOf s.members

def shape : Shape :=
  .record "StateScope" [("organization_id", [], .text, false),
    ("project_id", [], .option .text, true), ("environment_id", [], .option .text, true)]

def ofDecoded (v : Value) : Scope :=
  ⟨((v.get? "organization_id").bind Value.asString?).getD "",
    (v.get? "project_id").bind Value.asString?, (v.get? "environment_id").bind Value.asString?⟩

def decodeValue (v : Value) : Except Json.Error Scope :=
  match Json.decodeValue 4 shape v with
  | .ok d => .ok (ofDecoded d)
  | .error p => .error (Json.Error.unplaced p)

end Scope

/-- What an invocation needs to reach its store. -/
structure Binding where
  baseUrl : String
  token : String
  organizationId : String
  projectId : String
  environmentId : String
  deriving DecidableEq, Repr

namespace Binding

/-- Binds a request to its store through the request's metadata. Mirrors the binding's
`from_request`. -/
def ofRequest (request : Members) : Except Fault Binding :=
  match Payload.metaStr request "stateStoreUrl" with
  | none => .error (Fault.failed "state store is not configured for this invocation")
  | some url =>
    let field (name : String) := (Payload.metaStr request name).getD ""
    .ok ⟨url, field "stateStoreToken", field "organizationID", field "projectID",
      field "environmentID"⟩

def organizationScope (b : Binding) : Scope := .organization b.organizationId

def projectScope (b : Binding) : Scope := .project b.organizationId b.projectId

def environmentScope (b : Binding) : Scope :=
  .environment b.organizationId b.projectId b.environmentId

def toValue (b : Binding) : Value :=
  Value.objectOf [("base_url", .string b.baseUrl), ("token", .string b.token),
    ("organization_id", .string b.organizationId), ("project_id", .string b.projectId),
    ("environment_id", .string b.environmentId)]

end Binding

theorem toValue_organization (o : String) :
    (Scope.organization o).toValue = Value.objectOf [("organization_id", .string o)] := rfl

theorem ofDecoded_toValue (s : Scope) : Scope.ofDecoded s.toValue = s := by
  obtain ⟨o, p, e⟩ := s
  cases p <;> cases e <;> rfl

end FunctionHost.State
