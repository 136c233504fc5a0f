import FunctionHost.Json.Reader
import FunctionHost.Json.Shape
/-!
# Decoding typed forms straight from text

`decodeText` reads a shape from text without building the document first, so its refusals are
those of a reader that knows what it expects: it names the value it found where another was
expected, and it places every refusal.

A refusal raised by a check after a value was read (a number out of range, an unknown code, a
field given twice or missing, a record too short) has no place of its own. The innermost
number, string, sequence, object or record being read gives it the place of the cursor when the
refusal reaches it; a sequence or object first finishes its closing step (which may consume the
closing bracket), so a field missing from an object is placed after the object.

Members of a record that no field names are skipped with a lighter check than reading: numbers
are not assembled and nesting is not limited.

Results:
* `finish_ok`: a container whose body succeeded ends with its closing step.
-/
namespace FunctionHost.Json

namespace Read

def attempt {α : Type} (x : Read α) : Read (Except Error α) :=
  tryCatch (do let v ← x; pure (.ok v)) fun e => pure (.error e)

/-- Finishes a container: the closing step runs whatever the body's outcome, and the body's
refusal, if any, wins over the closing step's. -/
def finish {α : Type} (r : Except Error α) (close : Read Unit) : Read α := do
  match r with
  | .ok v => close; return v
  | .error e => let _ ← attempt close; throw e

/-- Refuses without a place; an enclosing reader places the refusal. -/
def refuseLater {α : Type} (p : Problem) : Read α := throw ⟨p, none⟩

def check {α : Type} : Except Problem α → Read α
  | .ok v => return v
  | .error p => refuseLater p

/-! ## Skipping values -/

def skipDigitsAll : Read Unit := do
  let c ← get
  let n := (c.rest.takeWhile fun b => (digitOf b).isSome).length
  set { c with rest := c.rest.drop n, index := c.index + n }

def ignoreExponent : Read Unit := do
  eat
  match ← peek with
  | some 43 | some 45 => eat
  | _ => pure ()
  match ← next with
  | some b => if (digitOf b).isSome then skipDigitsAll else fail .invalidNumber
  | none => fail .invalidNumber

def ignoreDecimal : Read Unit := do
  eat
  let before := (← get).index
  skipDigitsAll
  if (← get).index == before then failAhead .invalidNumber
  else match ← peek with
    | some 101 | some 69 => ignoreExponent
    | _ => pure ()

def ignoreInteger : Read Unit := do
  match ← next with
  | some 48 =>
    match (← peek).bind digitOf with
    | some _ => failAhead .invalidNumber
    | none => pure ()
  | some b => if (digitOf b).isSome then skipDigitsAll else fail .invalidNumber
  | none => fail .invalidNumber
  match ← peek with
  | some 46 => ignoreDecimal
  | some 101 | some 69 => ignoreExponent
  | _ => pure ()

def ignoreEscape : Read Unit := do
  match ← next with
  | none => fail .eofWhileParsingString
  | some c =>
    if c == 34 || c == 92 || c == 47 || c == 98 || c == 102 || c == 110 || c == 114 || c == 116
    then pure ()
    else if c == 117 then do let _ ← decodeHex
    else fail .invalidEscape

/-- Skips the rest of a string; a raw control character is refused where it stands. -/
def ignoreStr : Nat → Read Unit
  | 0 => fail .eofWhileParsingString
  | fuel + 1 => do
    match ← peek with
    | none => fail .eofWhileParsingString
    | some b =>
      if b == 34 then eat
      else if b == 92 then do eat; ignoreEscape; ignoreStr fuel
      else if b < 0x20 then fail .controlCharacterWhileParsingString
      else do eat; ignoreStr fuel

mutual

def ignoreValue : Nat → Read Unit
  | 0 => fail .recursionLimitExceeded
  | fuel + 1 => do
    match ← skipBlank with
    | none => failAhead .eofWhileParsingValue
    | some b =>
      if b == 110 then do eat; parseIdent [117, 108, 108]
      else if b == 116 then do eat; parseIdent [114, 117, 101]
      else if b == 102 then do eat; parseIdent [97, 108, 115, 101]
      else if b == 45 then do eat; ignoreInteger
      else if (digitOf b).isSome then ignoreInteger
      else if b == 34 then do eat; ignoreStr (← budget)
      else if b == 91 then do
        eat
        match ← skipBlank with
        | none => failAhead .eofWhileParsingList
        | some 93 => eat
        | some _ => do ignoreValue fuel; ignoreSeqRest fuel
      else if b == 123 then do
        eat
        match ← skipBlank with
        | none => failAhead .eofWhileParsingObject
        | some 125 => eat
        | some _ => ignoreEntry fuel
      else failAhead .expectedSomeValue

def ignoreSeqRest : Nat → Read Unit
  | 0 => fail .recursionLimitExceeded
  | fuel + 1 => do
    match ← skipBlank with
    | some 44 => do eat; ignoreValue fuel; ignoreSeqRest fuel
    | some 93 => eat
    | some _ => failAhead .expectedListCommaOrEnd
    | none => failAhead .eofWhileParsingList

def ignoreEntry : Nat → Read Unit
  | 0 => fail .recursionLimitExceeded
  | fuel + 1 => do
    match ← skipBlank with
    | some 34 => eat
    | some _ => failAhead .keyMustBeAString
    | none => failAhead .eofWhileParsingObject
    ignoreStr (← budget)
    match ← skipBlank with
    | some 58 => eat
    | some _ => failAhead .expectedColon
    | none => failAhead .eofWhileParsingObject
    ignoreValue fuel
    match ← skipBlank with
    | some 44 => do eat; ignoreEntry fuel
    | some 125 => eat
    | some _ => failAhead .expectedObjectCommaOrEnd
    | none => failAhead .eofWhileParsingObject

end

/-! ## Typed reading -/

def readNumberAs (expected : String) (checkNumber : Number → Except Problem Nat) : Read Nat :=
  fixPlace do
    match ← skipBlank with
    | none => failAhead .eofWhileParsingValue
    | some 45 => do eat; check (checkNumber (← parseNumber false))
    | some b =>
      if (digitOf b).isSome then check (checkNumber (← parseNumber true))
      else invalidTypeAhead expected

def readText : Read String :=
  fixPlace do
    match ← skipBlank with
    | none => failAhead .eofWhileParsingValue
    | some 34 => do eat; parseString
    | some _ => invalidTypeAhead "a string"

def readMap : Read Members :=
  fixPlace do
    match ← skipBlank with
    | none => failAhead .eofWhileParsingValue
    | some 123 => do
      enter
      eat
      let r ← attempt (mapItems (← valueBudget) true [])
      leave
      finish r endMap
    | some _ => invalidTypeAhead "a map"

def seqWith (elem : Read Value) : Nat → Bool → List Value → Read (List Value)
  | 0, _, acc => return acc.reverse
  | steps + 1, first, acc => do
    if ← hasNextElement first then
      let v ← elem
      seqWith elem steps false (v :: acc)
    else return acc.reverse

/-- Reads a record's fields in order from a sequence, with `dec` for each field's shape. -/
def recordSeqWith (dec : Shape → Read Value) (name : String) (all : List FieldShape) :
    List FieldShape → Nat → Bool → List (String × Value) → Read Value
  | [], _, _, acc => return Value.objectOf acc
  | f :: rest, i, first, acc => do
    if ← hasNextElement first then
      let v ← dec f.2.2.1
      recordSeqWith dec name all rest (i + 1) false ((f.1, v) :: acc)
    else if f.2.2.2 then recordSeqWith dec name all rest (i + 1) first ((f.1, .null) :: acc)
    else refuseLater (.invalidLength i (recordLength name all))

/-- Reads a record's members from an object, with `dec` for each field's shape. -/
def recordMapWith (dec : Shape → Read Value) (fields : List FieldShape) :
    Nat → Bool → List (Option Value) → Read (List (Option Value))
  | 0, _, slots => return slots
  | steps + 1, first, slots => do
    if ← hasNextKey first then
      eat
      let key ← parseString
      match findField key fields 0 with
      | some (i, f) =>
        if (slots.getD i none).isSome then refuseLater (.duplicateField f.1)
        else do
          parseColon
          let v ← dec f.2.2.1
          recordMapWith dec fields steps false (setSlot slots i v)
      | none => do
        parseColon
        ignoreValue (← valueBudget)
        recordMapWith dec fields steps false slots
    else return slots

def decodeText : Nat → Shape → Read Value
  | 0, _ => fail .recursionLimitExceeded
  | fuel + 1, shape =>
    match shape with
    | .unsigned bits => do
      let n ← readNumberAs shape.expected (checkUnsigned bits shape.expected)
      return .number (.nat n)
    | .code top => do
      let n ← readNumberAs "u8" (checkUnsigned 8 "u8")
      let c ← check (checkCode top n)
      return .number (.nat c)
    | .text => do return .string (← readText)
    | .map => do return .object (← readMap)
    | .any => do parseValue (← valueBudget)
    | .option inner => do
      match ← skipBlank with
      | some 110 => do eat; parseIdent [117, 108, 108]; return .null
      | _ => decodeText fuel inner
    | .seq inner => fixPlace do
      match ← skipBlank with
      | none => failAhead .eofWhileParsingValue
      | some 91 => do
        enter
        eat
        let r ← attempt (seqWith (decodeText fuel inner) (← budget) true [])
        leave
        let items ← finish r endSeq
        return .array items
      | some _ => invalidTypeAhead "a sequence"
    | .record name fields => fixPlace do
      match ← skipBlank with
      | none => failAhead .eofWhileParsingValue
      | some 91 => do
        enter
        eat
        let r ← attempt (recordSeqWith (decodeText fuel) name fields fields 0 true [])
        leave
        finish r endSeq
      | some 123 => do
        enter
        eat
        let r ← attempt (do
          let slots ← recordMapWith (decodeText fuel) fields (← budget) true (fields.map fun _ => none)
          check (completeRecord fields slots))
        leave
        finish r endMap
      | some _ => invalidTypeAhead ("struct " ++ name)

end Read

/-- Decodes whole bytes against a shape; only blanks may follow the value. -/
def decodeBytes (shape : Shape) (bytes : List UInt8) : Except Error Value :=
  Read.run (do
    let v ← Read.decodeText 32 shape
    Read.endDocument
    return v) bytes

/-- Decodes a whole text against a shape; only blanks may follow the value. -/
def decodeDocument (shape : Shape) (s : String) : Except Error Value :=
  decodeBytes shape s.toUTF8.toList

theorem finish_ok {α : Type} (v : α) (close : Read Unit) :
    Read.finish (.ok v) close = (do close; return v) := rfl

end FunctionHost.Json
