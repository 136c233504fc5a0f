import FunctionHost.Json.Value
import FunctionHost.Binary64.Text
/-!
# Writing documents as text

Compact text: no blanks, object members in key order. Strings escape the quote, the backslash
and the control characters (the usual ones by letter, the rest as `\u00xx` in lower case);
every other character is written as it is. Integers are written exactly; binary64 numbers in
the document layout, and the non-finite ones, which a document cannot hold, as `null`.

Results:
* `escapeChar_plain`: a printable ASCII character other than the quote and the backslash is
  written as itself.
* `writeString_append`: escaping distributes over concatenation.
-/
namespace FunctionHost.Json

def hexByte (n : Nat) : String :=
  let digit (d : Nat) : Char := if d < 10 then Char.ofNat (48 + d) else Char.ofNat (87 + d)
  String.ofList [digit (n / 16 % 16), digit (n % 16)]

def escapeChar (c : Char) : String :=
  if c = '"' then "\\\""
  else if c = '\\' then "\\\\"
  else if c = '\n' then "\\n"
  else if c = '\r' then "\\r"
  else if c = '\t' then "\\t"
  else if c.toNat = 8 then "\\b"
  else if c.toNat = 12 then "\\f"
  else if c.toNat < 0x20 then "\\u00" ++ hexByte c.toNat
  else String.singleton c

def escapeChars : List Char → String
  | [] => ""
  | c :: cs => escapeChar c ++ escapeChars cs

/-- A string as written in a document, quotes included. -/
def writeString (s : String) : String :=
  "\"" ++ escapeChars s.toList ++ "\""

def Number.write : Number → String
  | .nat n => toString n
  | .negative i => toString i
  | .float x => if x.isFinite then Binary64.render Binary64.Layout.document x else "null"

mutual

def Value.write : Value → String
  | .null => "null"
  | .bool b => if b then "true" else "false"
  | .number n => n.write
  | .string s => writeString s
  | .array items => "[" ++ writeItems items ++ "]"
  | .object members => "\x7b" ++ writeMembers members ++ "\x7d"

def writeItems : List Value → String
  | [] => ""
  | [v] => v.write
  | v :: rest => v.write ++ "," ++ writeItems rest

def writeMembers : List (String × Value) → String
  | [] => ""
  | [(k, v)] => writeString k ++ ":" ++ v.write
  | (k, v) :: rest => writeString k ++ ":" ++ v.write ++ "," ++ writeMembers rest

end

theorem escapeChar_plain (c : Char) (lo : 0x20 ≤ c.toNat) (hq : c ≠ '"') (hb : c ≠ '\\') :
    escapeChar c = String.singleton c := by
  have hn : c ≠ '\n' := by rintro rfl; simp at lo
  have hr : c ≠ '\r' := by rintro rfl; simp at lo
  have ht : c ≠ '\t' := by rintro rfl; simp at lo
  have h8 : c.toNat ≠ 8 := by omega
  have h12 : c.toNat ≠ 12 := by omega
  have hlt : ¬ c.toNat < 0x20 := by omega
  simp only [escapeChar, hq, hb, hn, hr, ht, h8, h12, hlt, if_false]

theorem escapeChars_append (a b : List Char) :
    escapeChars (a ++ b) = escapeChars a ++ escapeChars b := by
  induction a with
  | nil => simp [escapeChars]
  | cons c cs ih => simp [escapeChars, ih, String.append_assoc]

theorem writeString_append (a b : String) :
    escapeChars (a ++ b).toList = escapeChars a.toList ++ escapeChars b.toList := by
  simp [escapeChars_append]

end FunctionHost.Json
