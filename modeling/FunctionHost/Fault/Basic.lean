import FunctionHost.Fault.Kind
import FunctionHost.Json.Value
/-!
# Function failures

What a function reports when it fails: a kind, a message, optionally the frames of the call
stack where it was raised, and optionally a data object for whoever handles it. The wire form
is an object with `error_code` and `message`, and `stack_trace` and `data` only when present.

A trace is captured only for failures nobody classified (panics and untagged errors); its frames
depend on the build, so the only thing relied on is that a captured trace is not empty.

Results:
* `context_kind`: adding context keeps the kind, the trace and the data.
* `context_message`: adding context prefixes the message with the context and `": "`.
-/
namespace FunctionHost

/-- One frame of a call stack. -/
structure Frame where
  file : String
  line : Nat
  function : String
  deriving DecidableEq, Repr

/-- A classified function failure. -/
structure Fault where
  kind : Fault.Kind
  message : String
  stackTrace : Option (List Frame)
  data : Option Json.Members
  deriving Inhabited

namespace Fault

def new (kind : Kind) (message : String) : Fault :=
  { kind, message, stackTrace := none, data := none }

/-- Asks for the function to be invoked again, with `data` as the previous context. -/
def executeAgain (message : String) (data : Option Json.Members) : Fault :=
  { new .executeAgain message with data }

def transient (message : String) : Fault := new .transient message

def notFound (message : String) : Fault := new .notFound message

def conflict (message : String) : Fault := new .conflict message

def failed (message : String) : Fault := new .failed message

/-- The frames recorded for a failure raised where no trace was classified: the trace is never
empty. -/
def capturedTrace : List Frame :=
  [{ file := "", line := 0, function := "<unknown>" }]

/-- A final failure carrying the call stack, kept for panics and unclassified errors. -/
def failedWithTrace (message : String) : Fault :=
  { failed message with stackTrace := some capturedTrace }

def context (f : Fault) (ctx : String) : Fault :=
  { f with message := ctx ++ ": " ++ f.message }

def withData (f : Fault) (data : Json.Members) : Fault :=
  { f with data := some data }

def Frame.toValue (fr : Frame) : Json.Value :=
  .objectOf [("file", .string fr.file), ("line", .number (.nat fr.line)),
    ("function", .string fr.function)]

def toValue (f : Fault) : Json.Value :=
  .objectOf ([("error_code", .number (.nat f.kind.code)), ("message", .string f.message)] ++
    (match f.stackTrace with
      | some frames => [("stack_trace", .array (frames.map Frame.toValue))]
      | none => []) ++
    (match f.data with
      | some d => [("data", .object d)]
      | none => []))

end Fault

theorem context_kind (f : Fault) (ctx : String) :
    (f.context ctx).kind = f.kind ∧ (f.context ctx).stackTrace = f.stackTrace ∧
      (f.context ctx).data = f.data := ⟨rfl, rfl, rfl⟩

theorem context_message (f : Fault) (ctx : String) :
    (f.context ctx).message = ctx ++ ": " ++ f.message := rfl

end FunctionHost
