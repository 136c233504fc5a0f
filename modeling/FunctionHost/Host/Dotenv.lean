import FunctionHost.Text.Alnum
import FunctionHost.Text.Blank
/-!
# Environment files

An environment file holds `KEY=value` lines that are added to the environment of the process,
each one only when the variable is not set already. Loading stops at the first line that cannot
be read; the lines before it have been added.

**Lines.** One byte order mark at the start of the file is dropped. The file is cut into logical
lines. A physical line that starts (after blanks) with `#` is a comment. A quote left open at
the end of a physical line carries the logical line on to the next; a backslash inside single
quotes keeps the next character from closing them. An open quote at the end of the file is an
error at the length of what was read, and so is a last line that ends in a blank with no line
feed after it. A blank followed by `#` starts a comment that ends the logical line.

**Keys.** After leading blanks, a key starts with an ASCII letter or `_` and goes on with ASCII
letters, digits, `_` and `.`; the word `export` before a key is dropped. Blanks, then `=`, must
follow. An empty value, or a comment in its place, gives the empty string.

**Values.** Single quotes keep everything up to the closing quote. Double quotes allow the
escapes `\\`, `\'`, `\"`, `\$`, `\ ` and `\n`, as do unquoted values. A blank outside quotes
ends the value: only blanks and a comment may follow. `$NAME` (a name of alphanumeric characters) and `${NAME}` outside single
quotes are replaced by the variable's value in the environment, else by a value set earlier in
the file, else by nothing.

An error names the text being read and the position where reading stopped: in bytes when a key
or `=` was expected, in characters inside a value.

Results:
* `readLines_comment`: a file of one comment line holds no variables.
-/
namespace FunctionHost.Host

/-- Why an environment file could not be loaded. -/
inductive DotenvError where
  /-- There is no file. -/
  | missing
  /-- A line could not be read: its text and the position where reading stopped. -/
  | line (text : String) (position : Nat)
  deriving DecidableEq, Repr

def DotenvError.message : DotenvError → String
  | .missing => "path not found"
  | .line text pos => "Error parsing line: \x27" ++ text ++ "\x27, error at line index: " ++ toString pos

namespace Dotenv

/-- Where the reading of a logical line stands at the end of a physical line. -/
inductive Mode where
  | complete
  | blank
  | escape
  | weak
  | weakEscape
  | strong
  | strongEscape
  deriving DecidableEq, Repr

/-- How a physical line ends: the mode, or a cut at a character position. -/
inductive Ending where
  | open (m : Mode)
  | cut (position : Nat)
  deriving DecidableEq, Repr

/-- Follows a physical line's characters from a mode; `last` is the position of the last one. -/
def scanLine (m : Mode) (pos last : Nat) : List Char → Mode × Nat × Bool
  | [] => (m, last, false)
  | c :: rest =>
    match m with
    | .blank =>
      if c = '#' then (m, pos, true)
      else scanLine (if c = '\\' then .escape else if c = '"' then .weak
        else if c = '\'' then .strong else .complete) (pos + 1) pos rest
    | .escape => scanLine .complete (pos + 1) pos rest
    | .complete =>
      scanLine (if Text.isBlank c ∧ c ≠ '\n' ∧ c ≠ '\r' then .blank else if c = '\\' then .escape
        else if c = '"' then .weak else if c = '\'' then .strong else .complete) (pos + 1) pos rest
    | .weak =>
      scanLine (if c = '\\' then .weakEscape else if c = '"' then .complete else .weak)
        (pos + 1) pos rest
    | .weakEscape => scanLine .weak (pos + 1) pos rest
    | .strong =>
      scanLine (if c = '\\' then .strongEscape else if c = '\'' then .complete else .strong)
        (pos + 1) pos rest
    | .strongEscape => scanLine .strong (pos + 1) pos rest

/-- Cuts a file into physical lines, each with its line feed. -/
def physicalLines (cs : List Char) : List (List Char) :=
  let rec go : List Char → List Char → List (List Char)
    | [], [] => []
    | [], acc => [acc.reverse]
    | c :: rest, acc => if c = '\n' then (c :: acc).reverse :: go rest [] else go rest (c :: acc)
  go cs []

/-- Drops a final line feed, then a final carriage return. -/
def dropLineEnd (cs : List Char) : List Char :=
  let cs := if cs.getLast? = some '\n' then cs.dropLast else cs
  if cs.getLast? = some '\r' then cs.dropLast else cs

/-- The logical lines of a file, or the error of an open quote at its end. -/
def logicalLines : List (List Char) → List Char → Mode → List (Except DotenvError String)
  | [], buf, m =>
    if m = .complete then [] else [.error (.line (String.ofList buf) (String.ofList buf).utf8ByteSize)]
  | line :: rest, buf, m =>
    let start := buf.length
    let buf := buf ++ line
    if (Text.trimList buf).head? = some '#' ∨ ((buf.dropWhile Text.isBlank).head? = some '#') then
      .ok "" :: logicalLines rest [] .complete
    else
      let (m1, last, cut) := scanLine m 0 0 line
      if cut then
        .ok (String.ofList (buf.take (start + last))) :: logicalLines rest [] .complete
      else if m1 = .complete then .ok (String.ofList (dropLineEnd buf)) :: logicalLines rest [] .complete
      else logicalLines rest buf m1

/-- Variables known while reading: the process environment, then the values set earlier in the
file (`none` for an empty one). -/
structure Known where
  env : String → Option String
  earlier : List (String × Option String)

def Known.lookup (k : Known) (name : String) : String :=
  match (if name.isEmpty then none else k.env name) with
  | some v => v
  | none =>
    match k.earlier.find? (·.1 = name) with
    | some (_, some v) => v
    | _ => ""

/-- How a substitution is being read. -/
inductive Subst where
  | none
  | plain
  | braced
  deriving DecidableEq, Repr

def isNameChar (c : Char) : Bool := Text.isAlphanumeric c

/-- The state of reading a value. -/
structure ValueState where
  strong : Bool
  weak : Bool
  escaped : Bool
  expectingEnd : Bool
  subst : Subst
  name : List Char
  out : List Char

def readValue (k : Known) (input : String) :
    Nat → ValueState → List Char → Except DotenvError (List Char)
  | _, s, [] =>
    if s.subst = .braced ∨ s.strong ∨ s.weak then
      .error (.line input (if input.utf8ByteSize = 0 then 0 else input.utf8ByteSize - 1))
    else .ok (s.out ++ (k.lookup (String.ofList s.name)).toList)
  | i, s, c :: rest =>
    if s.expectingEnd then
      if c = ' ' ∨ c = '\t' then readValue k input (i + 1) s rest
      else if c = '#' then .ok (s.out ++ (k.lookup (String.ofList s.name)).toList)
      else .error (.line input i)
    else if s.escaped then
      if c = '\\' ∨ c = '\'' ∨ c = '"' ∨ c = '$' ∨ c = ' ' then
        readValue k input (i + 1) { s with out := s.out ++ [c], escaped := false } rest
      else if c = 'n' then readValue k input (i + 1) { s with out := s.out ++ ['\n'], escaped := false } rest
      else .error (.line input i)
    else if s.strong then
      if c = '\'' then readValue k input (i + 1) { s with strong := false } rest
      else readValue k input (i + 1) { s with out := s.out ++ [c] } rest
    else if s.subst ≠ .none then
      if isNameChar c then readValue k input (i + 1) { s with name := s.name ++ [c] } rest
      else if s.subst = .plain then
        if c = '\x7b' ∧ s.name.isEmpty then readValue k input (i + 1) { s with subst := .braced } rest
        else
          let out := s.out ++ (k.lookup (String.ofList s.name)).toList
          if c = '$' then readValue k input (i + 1) { s with out := out, name := [], subst := .plain } rest
          else readValue k input (i + 1) { s with out := out ++ [c], name := [], subst := .none } rest
      else if c = '\x7d' then
        let out := s.out ++ (k.lookup (String.ofList s.name)).toList
        readValue k input (i + 1) { s with out := out, name := [], subst := .none } rest
      else readValue k input (i + 1) { s with name := s.name ++ [c] } rest
    else if c = '$' then readValue k input (i + 1) { s with subst := .plain } rest
    else if s.weak then
      if c = '"' then readValue k input (i + 1) { s with weak := false } rest
      else if c = '\\' then readValue k input (i + 1) { s with escaped := true } rest
      else readValue k input (i + 1) { s with out := s.out ++ [c] } rest
    else if c = '\'' then readValue k input (i + 1) { s with strong := true } rest
    else if c = '"' then readValue k input (i + 1) { s with weak := true } rest
    else if c = '\\' then readValue k input (i + 1) { s with escaped := true } rest
    else if c = ' ' ∨ c = '\t' then readValue k input (i + 1) { s with expectingEnd := true } rest
    else readValue k input (i + 1) { s with out := s.out ++ [c] } rest

def parseValue (k : Known) (input : String) : Except DotenvError String :=
  (readValue k input 0 ⟨false, false, false, false, .none, [], []⟩ input.toList).map String.ofList

def isKeyStart (c : Char) : Bool := (c.isAlpha && c.toNat < 128) || c = '_'

def isKeyChar (c : Char) : Bool := (c.isAlphanum && c.toNat < 128) || c = '_' || c = '.'

/-- Reading a line: the text left and the byte position reached. -/
structure Cursor where
  rest : List Char
  pos : Nat

def Cursor.skipBlank (c : Cursor) : Cursor :=
  let n := c.rest.takeWhile Text.isBlank
  ⟨c.rest.drop n.length, c.pos + (String.ofList n).utf8ByteSize⟩

def Cursor.key (c : Cursor) (line : String) : Except DotenvError (String × Cursor) :=
  match c.rest with
  | ch :: _ =>
    if isKeyStart ch then
      let k := c.rest.takeWhile isKeyChar
      .ok (String.ofList k, ⟨c.rest.drop k.length, c.pos + (String.ofList k).utf8ByteSize⟩)
    else .error (.line line c.pos)
  | [] => .error (.line line c.pos)

def Cursor.equal (c : Cursor) (line : String) : Except DotenvError Cursor :=
  match c.rest with
  | '=' :: rest => .ok ⟨rest, c.pos + 1⟩
  | _ => .error (.line line c.pos)

/-- Reads a logical line: nothing for a blank or comment line, else a key and its value. -/
def parseLine (k : Known) (line : String) : Except DotenvError (Option (String × Option String)) := do
  let trimmed := (line.toList.reverse.dropWhile Text.isBlank).reverse
  let c := Cursor.skipBlank ⟨trimmed, 0⟩
  match c.rest with
  | [] => return none
  | '#' :: _ => return none
  | _ =>
    let (key, c) ← c.key line
    let c := c.skipBlank
    let (key, c) ← if key = "export" then
        match c.equal line with
        | .ok c => pure (key, c)
        | .error _ => do
          let (key, c) ← c.key line
          let c ← c.skipBlank.equal line
          pure (key, c)
      else do
        let c ← c.equal line
        pure (key, c)
    let c := c.skipBlank
    match c.rest with
    | [] => return some (key, none)
    | '#' :: _ => return some (key, none)
    | rest => return some (key, some (← parseValue k (String.ofList rest)))

/-- Loads logical lines: the variables added, and the error that stopped loading, if any. -/
def loadLines (env : String → Option String) :
    List (Except DotenvError String) → List (String × Option String) → List (String × String) →
      List (String × String) × Option DotenvError
  | [], _, added => (added, none)
  | .error e :: _, _, added => (added, some e)
  | .ok line :: rest, earlier, added =>
    let current (n : String) := match (added.find? (·.1 = n)) with
      | some (_, v) => some v
      | none => env n
    match parseLine ⟨current, earlier⟩ line with
    | .error e => (added, some e)
    | .ok none => loadLines env rest earlier added
    | .ok (some (key, value)) =>
      let earlier := (key, value) :: earlier.filter (·.1 ≠ key)
      if (current key).isSome then loadLines env rest earlier added
      else loadLines env rest earlier (added ++ [(key, value.getD "")])

end Dotenv

/-- Loads an environment file, if there is one, over an environment: the variables added, and
the error that stopped loading, if any. -/
def loadDotenv (env : String → Option String) : Option String →
    List (String × String) × Option DotenvError
  | none => ([], some .missing)
  | some text =>
    let cs := match text.toList with
      | '\uFEFF' :: rest => rest
      | cs => cs
    Dotenv.loadLines env (Dotenv.logicalLines (Dotenv.physicalLines cs) [] .complete) [] []

theorem readLines_comment (env : String → Option String) :
    loadDotenv env (some "# comment only\n") = ([], none) := by
  rfl

end FunctionHost.Host
