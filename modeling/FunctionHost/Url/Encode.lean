import FunctionHost.Text.Utf8
/-!
# Percent-encoding

A character is written into a URL as its UTF-8 bytes; a byte in the set of the part being
written, and every byte outside ASCII, becomes `%XX` with upper-case hexadecimal digits.

The sets, each containing the previous one where listed together:

* `controls`: the C0 controls and DEL;
* `fragment`: controls, space, `"`, `<`, `>`, backtick;
* `path`: fragment, `#`, `?`, `{`, `}`;
* `userinfo`: path, `/`, `:`, `;`, `=`, `@`, `[`, `\`, `]`, `^`, `|`;
* `query`: controls, space, `"`, `#`, `<`, `>`; `specialQuery` adds the apostrophe.

Form encoding, used for query pairs, keeps ASCII letters, digits and `*-._`, writes a space as
`+`, and percent-encodes every other byte. Read back, a form is cut into pieces at each `&`
(empty pieces left out) and each piece at its first `=`; in a name or a value `+` is a space,
`%XX` a byte, and the bytes are read as UTF-8, what is not UTF-8 replaced.

Results:
* `encodeByte_plain`: an ASCII byte outside the set is written as itself.
-/
namespace FunctionHost.Url

/-- A set of ASCII bytes to escape. -/
abbrev ByteSet := UInt8 → Bool

def controls : ByteSet := fun b => b < 0x20 || b == 0x7F

def fragmentSet : ByteSet := fun b =>
  controls b || b == 0x20 || b == 0x22 || b == 0x3C || b == 0x3E || b == 0x60

def pathSet : ByteSet := fun b =>
  fragmentSet b || b == 0x23 || b == 0x3F || b == 0x7B || b == 0x7D

def userinfoSet : ByteSet := fun b =>
  pathSet b || b == 0x2F || b == 0x3A || b == 0x3B || b == 0x3D || b == 0x40 || b == 0x5B ||
    b == 0x5C || b == 0x5D || b == 0x5E || b == 0x7C

/-- Bytes escaped in the query of a URL whose scheme is not special. -/
def querySet : ByteSet := fun b =>
  controls b || b == 0x20 || b == 0x22 || b == 0x23 || b == 0x3C || b == 0x3E

def specialQuerySet : ByteSet := fun b => querySet b || b == 0x27

def hexUpper (n : Nat) : Char := if n < 10 then Char.ofNat (48 + n) else Char.ofNat (55 + n)

def escapeByte (b : UInt8) : List Char := ['%', hexUpper (b.toNat / 16), hexUpper (b.toNat % 16)]

/-- One byte, escaped when it is outside ASCII or in the set. -/
def encodeByte (set : ByteSet) (b : UInt8) : List Char :=
  if 0x80 ≤ b || set b then escapeByte b else [Char.ofNat b.toNat]

def encodeChar (set : ByteSet) (c : Char) : List Char :=
  (String.singleton c).toUTF8.toList.flatMap (encodeByte set)

/-- A text with each character escaped as `set` says. -/
def encode (set : ByteSet) (s : String) : String :=
  String.ofList (s.toList.flatMap (encodeChar set))

def formByte (b : UInt8) : List Char :=
  let c := Char.ofNat b.toNat
  if b < 0x80 && (c.isAlphanum || c == '*' || c == '-' || c == '.' || c == '_') then [c]
  else if b == 0x20 then ['+']
  else escapeByte b

def formEncode (s : String) : String :=
  String.ofList (s.toUTF8.toList.flatMap formByte)

def hexNibble? (c : Char) : Option Nat :=
  if c.isDigit then some (c.toNat - 48)
  else if 'a' ≤ c ∧ c ≤ 'f' then some (c.toNat - 87)
  else if 'A' ≤ c ∧ c ≤ 'F' then some (c.toNat - 55)
  else none

/-- Bytes with each `%XX` replaced by its byte; a `%` not followed by two hexadecimal digits is
kept as it is. -/
def percentDecode : List UInt8 → List UInt8
  | [] => []
  | b :: h1 :: h2 :: more =>
    if b == 0x25 then
      match hexNibble? (Char.ofNat h1.toNat), hexNibble? (Char.ofNat h2.toNat) with
      | some x, some y => UInt8.ofNat (x * 16 + y) :: percentDecode more
      | _, _ => b :: percentDecode (h1 :: h2 :: more)
    else b :: percentDecode (h1 :: h2 :: more)
  | b :: rest => b :: percentDecode rest

/-- The bytes of form-encoded characters before their escapes are read: each character's UTF-8
bytes, a `+` standing for a space. -/
def formBytes (cs : List Char) : List UInt8 :=
  cs.flatMap fun c => if c = '+' then [0x20] else String.utf8EncodeChar c

def formDecode (cs : List Char) : String :=
  Text.decodeLossy (percentDecode (formBytes cs))

/-- The name-value pairs of a form: the pieces between the `&`s, empty ones left out, each cut at
its first `=`; a piece without `=` is a name with an empty value. -/
def formPairs (q : String) : List (String × String) :=
  ((q.toList.splitOn '&').filter fun piece => !piece.isEmpty).map fun piece =>
    (formDecode (piece.takeWhile (· != '=')), formDecode ((piece.dropWhile (· != '=')).drop 1))

theorem encodeByte_plain (set : ByteSet) (b : UInt8) (h1 : b < 0x80) (h2 : set b = false) :
    encodeByte set b = [Char.ofNat b.toNat] := by
  have : (0x80 ≤ b) = False := by
    apply propext; constructor
    · intro h; exact absurd (UInt8.lt_of_lt_of_le h1 h) (UInt8.lt_irrefl _)
    · intro h; exact h.elim
  simp [encodeByte, h2, this]

end FunctionHost.Url
