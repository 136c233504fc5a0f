/-!
# Blank characters

Two classes of blank: the characters with the Unicode `White_Space` property, used when text
is trimmed before a number, a flag or a duration is read from it, and the five ASCII blanks that
byte-level readers skip between tokens.

Results:
* `isBlank_of_isWhitespace`: every character core's `Char.isWhitespace` accepts is blank.
* `trim_toList`: trimming drops the blank characters at both ends and nothing else.
-/
namespace FunctionHost.Text

/-- The Unicode `White_Space` characters: tab to carriage return, space, next line, no-break
space, ogham space mark, the spaces U+2000 to U+200A, the line and paragraph separators, narrow
no-break space, medium mathematical space and ideographic space. -/
def isBlank (c : Char) : Bool :=
  let n := c.toNat
  (0x09 ≤ n && n ≤ 0x0D) || n == 0x20 || n == 0x85 || n == 0xA0 || n == 0x1680 ||
    (0x2000 ≤ n && n ≤ 0x200A) || n == 0x2028 || n == 0x2029 || n == 0x202F ||
    n == 0x205F || n == 0x3000

/-- The ASCII blanks of a byte-level reader: space, tab, line feed, form feed and carriage
return. Vertical tab is not among them. -/
def isAsciiBlank (b : UInt8) : Bool :=
  b == 0x20 || b == 0x09 || b == 0x0A || b == 0x0C || b == 0x0D

/-- Drops the blank characters at both ends of a list of characters. -/
def trimList (cs : List Char) : List Char :=
  ((cs.dropWhile isBlank).reverse.dropWhile isBlank).reverse

/-- Drops the blank characters at both ends of a text. -/
def trim (s : String) : String :=
  String.ofList (trimList s.toList)

theorem isBlank_of_isWhitespace (c : Char) (h : c.isWhitespace = true) : isBlank c = true := by
  simp only [Char.isWhitespace, Bool.or_eq_true, decide_eq_true_eq] at h
  rcases h with ((h | h) | h) | h <;> subst h <;> decide

theorem trim_toList (s : String) : (trim s).toList = trimList s.toList := by
  simp [trim]

end FunctionHost.Text
