import FunctionHost.Json.Error
/-!
# Typed forms of documents

A `Shape` describes the typed form a decoder expects: bounded unsigned integers, an integer
that must be a known code, strings, free objects, any value, optional values, sequences and
records. A record has named fields, some with aliases, some that may be left out; it can be
written as an object (members in any order, unknown members ignored, each field at most once)
or as an array of its fields in order.

`decodeValue` checks a value against a shape and returns it in a normal form: a record becomes
an object holding every field under its own name (`null` for a field left out), an absent
optional is `null`. Refusals name what was found and what was expected, without a place.

Results:
* `decodeValue_text`: a string decodes as itself under the string shape.
* `decodeValue_option_null`: `null` decodes under every optional shape.
-/
namespace FunctionHost.Json

/-- The typed form a decoder expects. -/
inductive Shape where
  /-- An unsigned integer of `bits` bits. -/
  | unsigned (bits : Nat)
  /-- An 8-bit unsigned integer that must be one of the codes `0` to `top`. -/
  | code (top : Nat)
  /-- A string. -/
  | text
  /-- An object with any members. -/
  | map
  /-- Any value. -/
  | any
  /-- `null`, or a value of the inner shape. -/
  | option (inner : Shape)
  /-- An array of values of the inner shape. -/
  | seq (inner : Shape)
  /-- A record: its name, and per field its name, its aliases, its shape and whether it may be
  left out. -/
  | record (name : String) (fields : List (String × List String × Shape × Bool))

/-- One field of a record: name, aliases, shape, whether it may be left out. -/
abbrev FieldShape := String × List String × Shape × Bool

namespace Shape

def expected : Shape → String
  | unsigned bits => "u" ++ toString bits
  | code _ => "u8"
  | text => "a string"
  | map => "a map"
  | any => "any valid JSON value"
  | option _ => "option"
  | seq _ => "a sequence"
  | record name _ => "struct " ++ name

end Shape

def recordLength (name : String) (fields : List FieldShape) : String :=
  "struct " ++ name ++ " with " ++ toString fields.length ++ " elements"

/-- The field a key names, by name or alias, with its position. -/
def findField (key : String) : List FieldShape → Nat → Option (Nat × FieldShape)
  | [], _ => none
  | f :: rest, i => if f.1 = key ∨ key ∈ f.2.1 then some (i, f) else findField key rest (i + 1)

/-- Checks a number against an unsigned width: too large or negative integers are invalid
values, floats are of the wrong type. -/
def checkUnsigned (bits : Nat) (expected : String) : Number → Except Problem Nat
  | .nat n => if n < Nat.pow 2 bits then .ok n else .error (.invalidValue (.unsigned n) expected)
  | .negative i => .error (.invalidValue (.signed i) expected)
  | .float x => .error (.invalidType (.float x) expected)

def checkCode (top n : Nat) : Except Problem Nat :=
  if n ≤ top then .ok n else .error (.custom ("unknown error code " ++ toString n))

/-- The normal form of a record from the values found for its fields, in field order; fields
left out that may be are `null`, and the first missing one that may not be is refused. -/
def completeRecord (fields : List FieldShape) (found : List (Option Value)) :
    Except Problem Value := do
  let members ← (fields.zip found).mapM fun (f, v) =>
    match v with
    | some x => pure (f.1, x)
    | none => if f.2.2.2 then pure (f.1, Value.null) else throw (Problem.missingField f.1)
  return Value.objectOf members

def setSlot (slots : List (Option Value)) (i : Nat) (v : Value) : List (Option Value) :=
  slots.set i (some v)

def decodeValue : Nat → Shape → Value → Except Problem Value
  | 0, _, _ => .error (.custom "shape too deep")
  | fuel + 1, shape, v =>
    match shape, v with
    | .unsigned bits, .number n => (checkUnsigned bits shape.expected n).map (.number ∘ .nat)
    | .code top, .number n => do
      let c ← checkUnsigned 8 "u8" n
      let c ← checkCode top c
      return .number (.nat c)
    | .text, .string s => .ok (.string s)
    | .map, .object ms => .ok (.object ms)
    | .any, x => .ok x
    | .option _, .null => .ok .null
    | .option inner, x => decodeValue fuel inner x
    | .seq inner, .array items => (items.mapM (decodeValue fuel inner)).map .array
    | .record _ fields, .object ms => do
      let slots ← ms.foldlM (fun (slots : List (Option Value)) (k, x) =>
        match findField k fields 0 with
        | some (i, f) =>
          if (slots.getD i none).isSome then throw (Problem.duplicateField f.1)
          else do
            let d ← decodeValue fuel f.2.2.1 x
            pure (setSlot slots i d)
        | none => pure slots) (fields.map fun _ => none)
      completeRecord fields slots
    | .record _ fields, .array items => do
      let found ← (fields.zipIdx.mapM fun (f, i) =>
        match items[i]? with
        | some x => (decodeValue fuel f.2.2.1 x).map some
        | none => pure none : Except Problem (List (Option Value)))
      -- the first missing field that may not be left out ends the sequence
      let firstGap := (fields.zip found).findIdx? fun (f, v) => v.isNone && !f.2.2.2
      match firstGap with
      | some i => throw (.invalidLength i (recordLength (match shape with
          | .record name _ => name
          | _ => "") fields))
      | none =>
        if fields.length < items.length then
          throw (.invalidLength items.length "fewer elements in array")
        else completeRecord fields found
    | _, x => .error (.invalidType x.unexpected shape.expected)

theorem decodeValue_text (fuel : Nat) (s : String) :
    decodeValue (fuel + 1) .text (.string s) = .ok (.string s) := by
  simp [decodeValue]

theorem decodeValue_option_null (fuel : Nat) (inner : Shape) :
    decodeValue (fuel + 1) (.option inner) .null = .ok .null := by
  simp [decodeValue]

end FunctionHost.Json
