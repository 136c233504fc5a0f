import FunctionHost.Json.Value
import FunctionHost.Binary64.Text
/-!
# Why a document was refused

A refusal is a `Problem` with the place where reading stopped. Syntax problems come from the
text; the others come from decoding a value into a typed form (a field missing or given twice,
a value of the wrong kind or out of range, a sequence of the wrong length). A refusal raised
while decoding from a value rather than from text has no place.

The message is the problem's text followed by ` at line L column C` when there is a place;
columns count bytes from the start of the line.

Results:
* `message_unplaced`: without a place the message is the problem's text alone.
-/
namespace FunctionHost.Json

/-- A fault in the text of a document. -/
inductive Syntax where
  | eofWhileParsingList
  | eofWhileParsingObject
  | eofWhileParsingString
  | eofWhileParsingValue
  | expectedColon
  | expectedListCommaOrEnd
  | expectedObjectCommaOrEnd
  | expectedSomeIdent
  | expectedSomeValue
  | invalidEscape
  | invalidNumber
  | numberOutOfRange
  | invalidUnicodeCodePoint
  | controlCharacterWhileParsingString
  | keyMustBeAString
  | loneLeadingSurrogateInHexEscape
  | trailingComma
  | trailingCharacters
  | unexpectedEndOfHexEscape
  | recursionLimitExceeded
  deriving DecidableEq, Repr

def Syntax.text : Syntax → String
  | .eofWhileParsingList => "EOF while parsing a list"
  | .eofWhileParsingObject => "EOF while parsing an object"
  | .eofWhileParsingString => "EOF while parsing a string"
  | .eofWhileParsingValue => "EOF while parsing a value"
  | .expectedColon => "expected `:`"
  | .expectedListCommaOrEnd => "expected `,` or `]`"
  | .expectedObjectCommaOrEnd => "expected `,` or `\x7d`"
  | .expectedSomeIdent => "expected ident"
  | .expectedSomeValue => "expected value"
  | .invalidEscape => "invalid escape"
  | .invalidNumber => "invalid number"
  | .numberOutOfRange => "number out of range"
  | .invalidUnicodeCodePoint => "invalid unicode code point"
  | .controlCharacterWhileParsingString =>
    "control character (\\u0000-\\u001F) found while parsing a string"
  | .keyMustBeAString => "key must be a string"
  | .loneLeadingSurrogateInHexEscape => "lone leading surrogate in hex escape"
  | .trailingComma => "trailing comma"
  | .trailingCharacters => "trailing characters"
  | .unexpectedEndOfHexEscape => "unexpected end of hex escape"
  | .recursionLimitExceeded => "recursion limit exceeded"

/-- What a value turned out to be, when it was not what a decoder expected. -/
inductive Unexpected where
  | bool (b : Bool)
  | unsigned (n : Nat)
  | signed (i : Int)
  | float (x : Binary64)
  | str (s : String)
  | unit
  | seq
  | map
  deriving Repr

/-- Hexadecimal digits, lower case, without leading zeros. -/
def hexText (n : Nat) : String := String.ofList (Nat.toDigits 16 n)

/-- A character inside a quoted debugging text: quotes, backslashes and the usual control
characters get a backslash, other control characters a `\u{…}` escape. -/
def debugChar (c : Char) : String :=
  match c with
  | '"' => "\\\""
  | '\\' => "\\\\"
  | '\n' => "\\n"
  | '\r' => "\\r"
  | '\t' => "\\t"
  | '\x00' => "\\0"
  | c =>
    if c.toNat < 0x20 ∨ (0x7F ≤ c.toNat ∧ c.toNat < 0xA0) then "\\u\x7b" ++ hexText c.toNat ++ "\x7d"
    else String.singleton c

def debugQuote (s : String) : String :=
  "\"" ++ String.join (s.toList.map debugChar) ++ "\""

def Unexpected.text : Unexpected → String
  | .bool b => "boolean `" ++ (if b then "true" else "false") ++ "`"
  | .unsigned n => "integer `" ++ toString n ++ "`"
  | .signed i => "integer `" ++ toString i ++ "`"
  | .float x => "floating point `" ++ Binary64.render Binary64.Layout.document x ++ "`"
  | .str s => "string " ++ debugQuote s
  | .unit => "null"
  | .seq => "sequence"
  | .map => "map"

def Number.unexpected : Number → Unexpected
  | .nat n => .unsigned n
  | .negative i => .signed i
  | .float x => .float x

def Value.unexpected : Value → Unexpected
  | .null => .unit
  | .bool b => .bool b
  | .number n => n.unexpected
  | .string s => .str s
  | .array _ => .seq
  | .object _ => .map

/-- A reason a document, or a value in it, was refused. -/
inductive Problem where
  | malformed (s : Syntax)
  | invalidType (u : Unexpected) (expected : String)
  | invalidValue (u : Unexpected) (expected : String)
  | invalidLength (n : Nat) (expected : String)
  | missingField (name : String)
  | duplicateField (name : String)
  | custom (text : String)
  deriving Repr

def Problem.text : Problem → String
  | .malformed s => s.text
  | .invalidType u e => "invalid type: " ++ u.text ++ ", expected " ++ e
  | .invalidValue u e => "invalid value: " ++ u.text ++ ", expected " ++ e
  | .invalidLength n e => "invalid length " ++ toString n ++ ", expected " ++ e
  | .missingField f => "missing field `" ++ f ++ "`"
  | .duplicateField f => "duplicate field `" ++ f ++ "`"
  | .custom t => t

/-- A refusal, with the line and column where reading stopped when it came from text. -/
structure Error where
  problem : Problem
  place : Option (Nat × Nat)
  deriving Repr

def Error.message (e : Error) : String :=
  match e.place with
  | some (line, column) => e.problem.text ++ " at line " ++ toString line ++ " column " ++
      toString column
  | none => e.problem.text

/-- A refusal from decoding a value, which has no place. -/
def Error.unplaced (p : Problem) : Error := ⟨p, none⟩

theorem message_unplaced (p : Problem) : (Error.unplaced p).message = p.text := rfl

end FunctionHost.Json
