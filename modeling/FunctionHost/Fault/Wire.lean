import FunctionHost.Fault.Basic
import FunctionHost.Json.Stream
/-!
# Reading failures from the wire

The wire form of a failure as a record: `error_code` (also accepted as `code`, but not both), an
8-bit code naming a kind, a string `message`, then an optional `stack_trace` of frames (`file`,
`line` as a 32-bit unsigned integer, `function`) and an optional `data` object. The first two
fields are required. The record can also be written as the array of its four fields.
-/
namespace FunctionHost.Fault

open Json

def frameShape : Shape :=
  .record "StackFrame" [("file", [], .text, false), ("line", [], .unsigned 32, false),
    ("function", [], .text, false)]

def faultShape : Shape :=
  .record "FunctionError" [("error_code", ["code"], .code 5, false), ("message", [], .text, false),
    ("stack_trace", [], .option (.seq frameShape), true), ("data", [], .option .map, true)]

def textField (v : Value) (k : String) : String :=
  ((v.get? k).bind Value.asString?).getD ""

def natField (v : Value) (k : String) : Nat :=
  match v.get? k with
  | some (.number (.nat n)) => n
  | _ => 0

def frameOfDecoded (v : Value) : Frame :=
  { file := textField v "file", line := natField v "line", function := textField v "function" }

def ofDecoded (v : Value) : Fault :=
  { kind := (Kind.ofCode? (natField v "error_code")).getD .unspecified
    message := textField v "message"
    stackTrace := match v.get? "stack_trace" with
      | some (.array frames) => some (frames.map frameOfDecoded)
      | _ => none
    data := match v.get? "data" with
      | some (.object ms) => some ms
      | _ => none }

/-- Reads a failure from a value; refusals have no place. -/
def decodeValue (v : Value) : Except Json.Error Fault :=
  match Json.decodeValue 8 faultShape v with
  | .ok d => .ok (ofDecoded d)
  | .error p => .error (Json.Error.unplaced p)

/-- Reads a failure from text; refusals are placed. -/
def decodeText (s : String) : Except Json.Error Fault :=
  (Json.decodeDocument faultShape s).map ofDecoded

-- the wire form of a failure without trace or data reads back
example :
    (decodeValue (Fault.transient "x").toValue).toOption.map (fun f => (f.kind, f.message)) =
      some (.transient, "x") := by
  decide

end FunctionHost.Fault
