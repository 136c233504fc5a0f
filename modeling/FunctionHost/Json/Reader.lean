import FunctionHost.Json.Error
/-!
# Reading documents from text

A reader over the UTF-8 bytes of a text. Between tokens it skips space, tab, line feed and
carriage return. A number without a point or exponent is an integer kind when it fits (below
2^64, or a negative not below -2^63; `-0` is the binary64 negative zero); any other number is
assembled from an integer significand of at most 64 bits and a decimal exponent by one
multiplication or division with a binary64 power of ten (beyond 1e308 the division is repeated),
so the result is not always the nearest binary64 value; a product that overflows is refused as
out of range. A string may not hold raw control characters or a lone surrogate escape. Nesting
is limited to 127 levels. Object members are kept sorted, and of two members with one key the
later wins.

A refusal carries the line and the column (in bytes) of the last byte read, or, for faults
found by looking one byte ahead, of that byte.
-/
namespace FunctionHost.Json

/-- Where reading stands: the whole text, what is left of it, how many bytes were read, and
how many more levels of nesting are allowed (plus one). -/
structure Cursor where
  input : List UInt8
  rest : List UInt8
  index : Nat
  depth : Nat

/-- A reading step. It may refuse; the cursor keeps the point reached when it did. -/
abbrev Read := ExceptT Error (StateM Cursor)

namespace Read

/-- Line and column of the byte index `i`: lines count from 1, columns are the bytes read on
the line. -/
def placeOf (input : List UInt8) (i : Nat) : Nat × Nat :=
  let before := input.take i
  (1 + before.count 10, (before.reverse.takeWhile (· != 10)).length)

def place : Read (Nat × Nat) := do
  let c ← get
  return placeOf c.input c.index

/-- Refuses with a syntax fault at the last byte read. -/
def fail {α : Type} (s : Syntax) : Read α := do
  throw ⟨.malformed s, some (← place)⟩

/-- Refuses with a syntax fault at the byte looked at next. -/
def failAhead {α : Type} (s : Syntax) : Read α := do
  let c ← get
  throw ⟨.malformed s, some (placeOf c.input (min c.input.length (c.index + 1)))⟩

def refuse {α : Type} (p : Problem) : Read α := do
  throw ⟨p, some (← place)⟩

/-- Gives a refusal without a place the place of the cursor when it is caught. -/
def fixPlace {α : Type} (x : Read α) : Read α :=
  tryCatch x fun e => match e.place with
    | some _ => throw e
    | none => do throw { e with place := some (← place) }

def peek : Read (Option UInt8) := do
  return (← get).rest.head?

def eat : Read Unit :=
  modify fun c => match c.rest with
    | [] => c
    | _ :: r => { c with rest := r, index := c.index + 1 }

def next : Read (Option UInt8) := do
  let b ← peek
  eat
  return b

def isTokenBlank (b : UInt8) : Bool := b == 0x20 || b == 0x09 || b == 0x0A || b == 0x0D

def skipBlank : Read (Option UInt8) := do
  let c ← get
  let n := (c.rest.takeWhile isTokenBlank).length
  set { c with rest := c.rest.drop n, index := c.index + n }
  return (c.rest.drop n).head?

/-- A bound on the steps left, for loops that consume a byte per step. -/
def budget : Read Nat := do
  return (← get).rest.length + 2

def digitOf (b : UInt8) : Option Nat :=
  if 48 ≤ b && b ≤ 57 then some (b.toNat - 48) else none

def parseIdent : List UInt8 → Read Unit
  | [] => return
  | e :: more => do
    match ← next with
    | none => fail .eofWhileParsingValue
    | some b => if b == e then parseIdent more else fail .expectedSomeIdent

/-- Enters one level of nesting, refusing beyond the limit. -/
def enter : Read Unit := do
  let c ← get
  if c.depth ≤ 1 then failAhead .recursionLimitExceeded
  else set { c with depth := c.depth - 1 }

def leave : Read Unit :=
  modify fun c => { c with depth := c.depth + 1 }

/-! ## Numbers -/

def pow10 (k : Nat) : Binary64 := Binary64.ofNat (Nat.pow 10 k)

/-- Scales `f` by `10 ^ exponent` with one table power; exponents beyond the table divide by
`1e308` first. `none` when the product overflows. -/
def scale (f : Binary64) (exponent : Int) : Nat → Option Binary64
  | 0 => some f
  | fuel + 1 =>
    if exponent.natAbs ≤ 308 then
      if 0 ≤ exponent then
        let g := f.mul (pow10 exponent.natAbs)
        if g.isInfinite then none else some g
      else some (f.div (pow10 exponent.natAbs))
    else if f.isZero then some f
    else if 0 ≤ exponent then none
    else scale (f.div (pow10 308)) (exponent + 308) fuel

/-- The binary64 value assembled from a significand and a decimal exponent, negated when not
`positive`; `none` when it overflows. -/
def assemble (positive : Bool) (significand : Nat) (exponent : Int) : Option Binary64 :=
  (scale (Binary64.ofNat significand) exponent (exponent.natAbs / 308 + 2)).map
    fun f => if positive then f else f.neg

def clamp32 (x : Int) : Int := max (-2147483648) (min 2147483647 x)

/-- The number assembled from its parts, refused when out of range. -/
def fromParts (positive : Bool) (significand : Nat) (exponent : Int) : Read Number :=
  match assemble positive significand exponent with
  | some f => return .float f
  | none => fail .numberOutOfRange

def skipDigits : Nat → Read Unit
  | 0 => return
  | fuel + 1 => do
    match ← peek with
    | some b => if (digitOf b).isSome then do eat; skipDigits fuel else return
    | none => return

/-- Reads exponent digits after the first; `none` when the exponent passes the 32-bit range,
the offending digit consumed. -/
def exponentDigits (exp : Nat) : Nat → Read (Option Nat)
  | 0 => return some exp
  | fuel + 1 => do
    match (← peek).bind digitOf with
    | some d =>
      eat
      if 2147483647 < exp * 10 + d then return none else exponentDigits (exp * 10 + d) fuel
    | none => return some exp

def parseExponent (positive : Bool) (significand : Nat) (start : Int) : Read Number := do
  eat
  let positiveExp ← match ← peek with
    | some 43 => do eat; pure true
    | some 45 => do eat; pure false
    | _ => pure true
  match ← next with
  | none => fail .eofWhileParsingValue
  | some b =>
    match digitOf b with
    | none => fail .invalidNumber
    | some d =>
      match ← exponentDigits d (← budget) with
      | some exp =>
        let final := clamp32 (if positiveExp then start + exp else start - exp)
        fromParts positive significand final
      | none =>
        if significand != 0 && positiveExp then fail .numberOutOfRange
        else do
          skipDigits (← budget)
          return .float (Binary64.zero (!positive))

/-- Continues after fraction digits that no longer fit the significand. -/
def afterLongFraction (positive : Bool) (significand : Nat) (exponent : Int) : Read Number := do
  skipDigits (← budget)
  match ← peek with
  | some 101 | some 69 => parseExponent positive significand exponent
  | _ => fromParts positive significand exponent

/-- Reads fraction digits into the significand; the result says whether one no longer fit. -/
def fractionDigits (significand count : Nat) : Nat → Read (Nat × Nat × Bool)
  | 0 => return (significand, count, false)
  | fuel + 1 => do
    match (← peek).bind digitOf with
    | some d =>
      if Nat.pow 2 64 ≤ significand * 10 + d then return (significand, count, true)
      else do
        eat
        fractionDigits (significand * 10 + d) (count + 1) fuel
    | none => return (significand, count, false)

def parseDecimal (positive : Bool) (significand : Nat) (before : Int) : Read Number := do
  eat
  let (sig, count, overflowed) ← fractionDigits significand 0 (← budget)
  if overflowed then afterLongFraction positive sig (before - count)
  else if count = 0 then
    match ← peek with
    | some _ => failAhead .invalidNumber
    | none => failAhead .eofWhileParsingValue
  else
    match ← peek with
    | some 101 | some 69 => parseExponent positive sig (before - count)
    | _ => fromParts positive sig (before - count)

/-- Continues after integer digits that no longer fit the significand: each one more is a
power of ten. -/
def afterLongInteger (positive : Bool) (significand : Nat) : Read Number := do
  let c ← get
  let extra := (c.rest.takeWhile fun b => (digitOf b).isSome).length
  set { c with rest := c.rest.drop extra, index := c.index + extra }
  match ← peek with
  | some 46 => parseDecimal positive significand extra
  | some 101 | some 69 => parseExponent positive significand extra
  | _ => fromParts positive significand extra

/-- What follows the integer digits: a fraction, an exponent, or the end of an integer. -/
def afterInteger (positive : Bool) (significand : Nat) : Read Number := do
  match ← peek with
  | some 46 => parseDecimal positive significand 0
  | some 101 | some 69 => parseExponent positive significand 0
  | _ =>
    if positive then return .nat significand
    else if 0 < significand ∧ significand ≤ Nat.pow 2 63 then return .negative (-(significand : Int))
    else return .float (Binary64.ofNat significand).neg

def integerDigits (positive : Bool) (significand : Nat) : Nat → Read Number
  | 0 => afterInteger positive significand
  | fuel + 1 => do
    match (← peek).bind digitOf with
    | some d =>
      if Nat.pow 2 64 ≤ significand * 10 + d then afterLongInteger positive significand
      else do
        eat
        integerDigits positive (significand * 10 + d) fuel
    | none => afterInteger positive significand

/-- Reads a number whose sign, if any, was consumed. -/
def parseNumber (positive : Bool) : Read Number := do
  match ← next with
  | none => fail .eofWhileParsingValue
  | some b =>
    if b == 48 then
      match (← peek).bind digitOf with
      | some _ => failAhead .invalidNumber
      | none => afterInteger positive 0
    else match digitOf b with
      | some d => integerDigits positive d (← budget)
      | none => fail .invalidNumber

/-! ## Strings -/

def utf8Of (cp : Nat) : List UInt8 :=
  (String.singleton (Char.ofNat cp)).toUTF8.toList

def hexValue (bs : List UInt8) : Option Nat :=
  bs.foldlM (fun acc b =>
    if 48 ≤ b && b ≤ 57 then some (acc * 16 + (b.toNat - 48))
    else if 97 ≤ b && b ≤ 102 then some (acc * 16 + (b.toNat - 87))
    else if 65 ≤ b && b ≤ 70 then some (acc * 16 + (b.toNat - 55))
    else none) 0

def decodeHex : Read Nat := do
  let c ← get
  if 4 ≤ c.rest.length then
    set { c with rest := c.rest.drop 4, index := c.index + 4 }
    match hexValue (c.rest.take 4) with
    | some v => return v
    | none => fail .invalidEscape
  else
    set { c with rest := [], index := c.index + c.rest.length }
    fail .eofWhileParsingString

/-- Reads a `\u` escape after its `u`, with the second half of a surrogate pair. -/
def unicodeEscape : Read (List UInt8) := do
  let n ← decodeHex
  if 0xDC00 ≤ n ∧ n ≤ 0xDFFF then fail .loneLeadingSurrogateInHexEscape
  else if n < 0xD800 ∨ 0xDBFF < n then return utf8Of n
  else
    match ← peek with
    | none => fail .eofWhileParsingString
    | some b =>
      eat
      if b != 92 then fail .unexpectedEndOfHexEscape
      else match ← peek with
        | none => fail .eofWhileParsingString
        | some u =>
          eat
          if u != 117 then fail .unexpectedEndOfHexEscape
          else
            let n2 ← decodeHex
            if n2 < 0xDC00 ∨ 0xDFFF < n2 then fail .loneLeadingSurrogateInHexEscape
            else return utf8Of ((n - 0xD800) * 0x400 + (n2 - 0xDC00) + 0x10000)

def escape : Read (List UInt8) := do
  match ← next with
  | none => fail .eofWhileParsingString
  | some c =>
    if c == 34 || c == 92 || c == 47 then return [c]
    else if c == 98 then return [8]
    else if c == 102 then return [12]
    else if c == 110 then return [10]
    else if c == 114 then return [13]
    else if c == 116 then return [9]
    else if c == 117 then unicodeEscape
    else fail .invalidEscape

/-- Reads the bytes of a string up to its closing quote, kept in reverse. -/
def stringBytes (acc : List UInt8) : Nat → Read (List UInt8)
  | 0 => fail .eofWhileParsingString
  | fuel + 1 => do
    match ← peek with
    | none => fail .eofWhileParsingString
    | some b =>
      eat
      if b == 34 then return acc
      else if b == 92 then do
        let bs ← escape
        stringBytes (bs.reverse ++ acc) fuel
      else if b < 0x20 then fail .controlCharacterWhileParsingString
      else stringBytes (b :: acc) fuel

/-- Reads a string whose opening quote was consumed. -/
def parseString : Read String := do
  let bytes ← stringBytes [] (← budget)
  match String.fromUTF8? (ByteArray.mk bytes.reverse.toArray) with
  | some s => return s
  | none => fail .invalidUnicodeCodePoint

/-! ## Values -/

/-- Before the next element of a sequence: `true` when there is one. -/
def hasNextElement (first : Bool) : Read Bool := do
  match ← skipBlank with
  | none => failAhead .eofWhileParsingList
  | some b =>
    if b == 93 then return false
    else if first then return true
    else if b == 44 then do
      eat
      match ← skipBlank with
      | some 93 => failAhead .trailingComma
      | some _ => return true
      | none => failAhead .eofWhileParsingValue
    else failAhead .expectedListCommaOrEnd

/-- Before the next key of an object: `true` when there is one, its quote next. -/
def hasNextKey (first : Bool) : Read Bool := do
  match ← skipBlank with
  | none => failAhead .eofWhileParsingObject
  | some b =>
    if b == 125 then return false
    else if first then
      if b == 34 then return true else failAhead .keyMustBeAString
    else if b == 44 then do
      eat
      match ← skipBlank with
      | some 34 => return true
      | some 125 => failAhead .trailingComma
      | some _ => failAhead .keyMustBeAString
      | none => failAhead .eofWhileParsingValue
    else failAhead .expectedObjectCommaOrEnd

def parseColon : Read Unit := do
  match ← skipBlank with
  | some 58 => eat
  | some _ => failAhead .expectedColon
  | none => failAhead .eofWhileParsingObject

def endSeq : Read Unit := do
  match ← skipBlank with
  | some 93 => eat
  | some 44 => do
    eat
    match ← skipBlank with
    | some 93 => failAhead .trailingComma
    | _ => failAhead .trailingCharacters
  | some _ => failAhead .trailingCharacters
  | none => failAhead .eofWhileParsingList

def endMap : Read Unit := do
  match ← skipBlank with
  | some 125 => eat
  | some 44 => failAhead .trailingComma
  | some _ => failAhead .trailingCharacters
  | none => failAhead .eofWhileParsingObject

/-- Nothing but blanks may follow a document. -/
def endDocument : Read Unit := do
  match ← skipBlank with
  | some _ => failAhead .trailingCharacters
  | none => return

mutual

def parseValue : Nat → Read Value
  | 0 => fail .recursionLimitExceeded
  | fuel + 1 => do
    match ← skipBlank with
    | none => failAhead .eofWhileParsingValue
    | some b =>
      if b == 110 then do eat; parseIdent [117, 108, 108]; return .null
      else if b == 116 then do eat; parseIdent [114, 117, 101]; return .bool true
      else if b == 102 then do eat; parseIdent [97, 108, 115, 101]; return .bool false
      else if b == 45 then do eat; return .number (← parseNumber false)
      else if (digitOf b).isSome then return .number (← parseNumber true)
      else if b == 34 then do eat; return .string (← parseString)
      else if b == 91 then do
        enter
        eat
        let items ← seqItems fuel true []
        leave
        endSeq
        return .array items
      else if b == 123 then do
        enter
        eat
        let members ← mapItems fuel true []
        leave
        endMap
        return .object members
      else failAhead .expectedSomeValue

def seqItems : Nat → Bool → List Value → Read (List Value)
  | 0, _, acc => return acc.reverse
  | fuel + 1, first, acc => do
    if ← hasNextElement first then
      let v ← parseValue fuel
      seqItems fuel false (v :: acc)
    else return acc.reverse

def mapItems : Nat → Bool → Members → Read Members
  | 0, _, acc => return acc
  | fuel + 1, first, acc => do
    if ← hasNextKey first then
      eat
      let k ← parseString
      parseColon
      let v ← parseValue fuel
      mapItems fuel false (insertMember k v acc)
    else return acc

end

def valueBudget : Read Nat := do
  return 2 * (← get).rest.length + 4

/-- What the next value turned out to be, for a decoder that expected something else; the
value is read to name it, except that the opening of a sequence or an object is not consumed. -/
def invalidTypeAhead {α : Type} (expected : String) : Read α := do
  match ← peek with
  | some 110 => do eat; parseIdent [117, 108, 108]; refuse (.invalidType .unit expected)
  | some 116 => do eat; parseIdent [114, 117, 101]; refuse (.invalidType (.bool true) expected)
  | some 102 => do
    eat; parseIdent [97, 108, 115, 101]; refuse (.invalidType (.bool false) expected)
  | some 45 => do eat; refuse (.invalidType (← parseNumber false).unexpected expected)
  | some 34 => do eat; refuse (.invalidType (.str (← parseString)) expected)
  | some 91 => refuse (.invalidType .seq expected)
  | some 123 => refuse (.invalidType .map expected)
  | some b =>
    if (digitOf b).isSome then refuse (.invalidType (← parseNumber true).unexpected expected)
    else failAhead .expectedSomeValue
  | none => failAhead .expectedSomeValue

def run {α : Type} (x : Read α) (bytes : List UInt8) : Except Error α :=
  (Id.run (StateT.run (ExceptT.run x) ⟨bytes, bytes, 0, 128⟩)).1

end Read

/-- Reads a whole document from bytes. -/
def readBytes (bytes : List UInt8) : Except Error Value :=
  Read.run (do
    let v ← Read.parseValue (← Read.valueBudget)
    Read.endDocument
    return v) bytes

def readText (s : String) : Except Error Value :=
  readBytes s.toUTF8.toList

-- the text ` null ` reads
example : (readBytes [32, 110, 117, 108, 108, 32]).toOption.isSome = true := by
  decide

end FunctionHost.Json
