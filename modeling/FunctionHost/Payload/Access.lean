import FunctionHost.Json.Reader
import FunctionHost.Json.Writer
import FunctionHost.Text.Blank
/-!
# Lenient access to request and response payloads

A payload is a JSON object. Its accessors follow a path of keys: every key but the last must
lead to an object, or to a string holding the text of one, and the value at the last key is
converted to the asked type as leniently as the type allows.

* Strings: scalars are written out (`null` as the empty text); arrays and objects refuse.
* Integers: numbers convert with truncation and saturation at the 64-bit bounds, strings as
  decimal integers or as floats without a fractional part, `true` as 1, `null` as 0.
* Floats: numbers convert (large integers rounded), strings through the full decimal grammar,
  booleans as 1 and 0, `null` as 0.
* Booleans: numbers are true when not zero, strings are one of twelve spellings, `null` is false.

Results:
* `resolve_nil`: an empty path refuses with `noKeys`.
* `getString_string`: a string at a one-key path reads as itself.
-/
namespace FunctionHost.Payload

open Json

/-- Why an accessor refused. -/
inductive AccessError where
  | noKeys
  | keyNotFound (key : String)
  | cast (key : String) (expected : String)
  deriving DecidableEq, Repr

namespace AccessError

def message : AccessError → String
  | noKeys => "no keys provided"
  | keyNotFound k => "key " ++ k ++ " not found"
  | cast k e => "unable to cast value of key " ++ k ++ " to " ++ e

def name : AccessError → String
  | noKeys => "NoKeys"
  | keyNotFound _ => "KeyNotFound"
  | cast _ _ => "Cast"

end AccessError

/-- The members of the object a value stands for: an object, or a string whose whole text is one.
Mirrors `to_object`. -/
def toObject (key : String) : Value → Except AccessError Members
  | .object ms => .ok ms
  | .string s =>
    match readText s with
    | .ok (.object ms) => .ok ms
    | _ => .error (.cast key "object")
  | _ => .error (.cast key "object")

/-- The last key of a path and the value found there. Mirrors the object's `resolve`. -/
def resolve (ms : Members) : List String → Except AccessError (String × Value)
  | [] => .error .noKeys
  | [k] =>
    match lookup k ms with
    | some v => .ok (k, v)
    | none => .error (.keyNotFound k)
  | k :: k2 :: rest =>
    match lookup k ms with
    | some v =>
      match toObject k v with
      | .ok inner => resolve inner (k2 :: rest)
      | .error e => .error e
    | none => .error (.keyNotFound k)

/-- A number as text: integers exactly, floats in the document layout. -/
def numberText : Number → String
  | .nat n => toString n
  | .negative i => toString i
  | .float x => Binary64.render Binary64.Layout.document x

def numberFloat (n : Number) : Binary64 := n.toBinary64

/-- The number as a signed 64-bit integer: exact when it fits, otherwise truncated and
saturated. -/
def numberInt : Number → Int
  | .nat n => if n < Nat.pow 2 63 then n else Nat.pow 2 63 - 1
  | .negative i => i
  | .float x => x.toIntSaturating 64

/-- A decimal integer text, trimmed: a signed 64-bit integer, or else a float with no fractional
part, truncated and saturated. -/
def parseInt (s : String) : Option Int :=
  let t := Text.trim s
  match Text.readSigned? 64 t with
  | some i => some i
  | none =>
    match Binary64.readDecimal? t with
    | some x => if x.isIntegral then some (x.toIntSaturating 64) else none
    | none => none

/-- The twelve spellings of a boolean, after trimming. -/
def parseBool (s : String) : Option Bool :=
  match Text.trim s with
  | "1" | "t" | "T" | "true" | "TRUE" | "True" => some true
  | "0" | "f" | "F" | "false" | "FALSE" | "False" => some false
  | _ => none

/-- The value at a path as text. -/
def getString (ms : Members) (keys : List String) : Except AccessError String := do
  let (key, v) ← resolve ms keys
  match v with
  | .string s => return s
  | .bool b => return (if b then "true" else "false")
  | .number n => return numberText n
  | .null => return ""
  | _ => throw (.cast key "string")

/-- The value at a path as a signed 64-bit integer. -/
def getInt (ms : Members) (keys : List String) : Except AccessError Int := do
  let (key, v) ← resolve ms keys
  match v with
  | .number n => return numberInt n
  | .string s =>
    match parseInt s with
    | some i => return i
    | none => throw (.cast key "integer")
  | .bool b => return (if b then 1 else 0)
  | .null => return 0
  | _ => throw (.cast key "integer")

/-- The value at a path as a float. -/
def getFloat (ms : Members) (keys : List String) : Except AccessError Binary64 := do
  let (key, v) ← resolve ms keys
  match v with
  | .number n => return numberFloat n
  | .string s =>
    match Binary64.readDecimal? (Text.trim s) with
    | some x => return x
    | none => throw (.cast key "float")
  | .bool b => return Binary64.ofNat (if b then 1 else 0)
  | .null => return Binary64.ofNat 0
  | _ => throw (.cast key "float")

/-- The value at a path as a boolean. -/
def getBool (ms : Members) (keys : List String) : Except AccessError Bool := do
  let (key, v) ← resolve ms keys
  match v with
  | .bool b => return b
  | .number n => return !(numberFloat n).isZero
  | .string s =>
    match parseBool s with
    | some b => return b
    | none => throw (.cast key "bool")
  | .null => return false
  | _ => throw (.cast key "bool")

/-- The value at a path as an array. -/
def getArray (ms : Members) (keys : List String) : Except AccessError (List Value) := do
  let (key, v) ← resolve ms keys
  match v with
  | .array items => return items
  | _ => throw (.cast key "array")

/-- The value at a path as an object; a string holding an object's text is read. Mirrors
`get_object`. -/
def getObject (ms : Members) (keys : List String) : Except AccessError Members := do
  let (key, v) ← resolve ms keys
  toObject key v

/-- The key of the metadata the server adds to a request. -/
def metadataKey : String := "metadata"

/-- The request's metadata object, if it has one. -/
def metadata (ms : Members) : Option Members :=
  (lookup metadataKey ms).bind Value.asObject?

/-- A string field of the metadata; an empty string counts as absent. Mirrors `meta_str`. -/
def metaStr (ms : Members) (name : String) : Option String :=
  match (metadata ms).bind (lookup name) with
  | some (.string s) => if s.isEmpty then none else some s
  | _ => none

theorem resolve_nil (ms : Members) : resolve ms [] = .error .noKeys := rfl

theorem getString_string (ms : Members) (k s : String) (h : lookup k ms = some (.string s)) :
    getString ms [k] = .ok s := by
  simp [getString, resolve, h, bind, Except.bind, pure, Except.pure]

end FunctionHost.Payload
