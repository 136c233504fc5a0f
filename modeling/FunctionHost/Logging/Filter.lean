import FunctionHost.Logging.Pattern
/-!
# Log levels and filter directives

Five levels, from the most severe: `ERROR`, `WARN`, `INFO`, `DEBUG`, `TRACE`. A level filter is a
number from 0 (off) to 5 (trace), written with an optional `+` and any leading zeros, or a level
name or `off` in any case.

A filter is a list of directives separated by commas; empty ones are skipped. A directive is read
after trimming the blanks at both ends, character by character:

* it starts with a letter, a digit, `-`, `:`, `_` or `[`;
* a word runs up to `=` or `[` and is the target; a word that ends the directive is a level
  filter when it reads as one, and a target for every level otherwise;
* `[name{fields}]` names the span the directive applies inside (an empty name before a brace is
  none) and the fields it asks for; each field is `name` or `name=value`, and a value that is no
  boolean or number must compile as a pattern;
* after a span only `=` may follow; after `=` the rest is the level filter, every level when it
  is empty.

The pieces are cut from the untrimmed text at the offsets counted in the trimmed one, so a blank
at the start shifts every piece one byte to the left: ` warn` is a target, not a level. When
such a cut falls inside a character (` é=x`), reading stops altogether, and so does the process
that reads; `SplitChar.message` is what it says.

Reading strictly refuses a filter with one refused directive. Reading leniently keeps the good
directives and gives, for each refused one, the line that says it is ignored and why.
-/
namespace FunctionHost.Logging

/-- A log level, the most severe first. -/
inductive Level where
  | error
  | warn
  | info
  | debug
  | trace
  deriving DecidableEq, Repr

namespace Level

/-- The severity rank, 1 for the most severe. -/
def rank : Level → Nat
  | error => 1
  | warn => 2
  | info => 3
  | debug => 4
  | trace => 5

def name : Level → String
  | error => "ERROR"
  | warn => "WARN"
  | info => "INFO"
  | debug => "DEBUG"
  | trace => "TRACE"

end Level

/-- The most verbose level a directive allows: 0 lets nothing through, 5 everything. -/
abbrev Ceiling := Nat

/-- The value of a run of decimal digits, after an optional `+`, if that is what a text is. -/
def digitsValue (cs : List Char) : Option Nat :=
  let ds := match cs with
    | '+' :: rest => rest
    | _ => cs
  if !ds.isEmpty && ds.all Char.isDigit then
    some (ds.foldl (fun n c => 10 * n + (c.toNat - 48)) 0)
  else none

/-- A level name or `off`, in any case; the empty text means `error`. -/
def namedCeiling (s : String) : Option Ceiling :=
  match String.ofList (s.toList.map Char.toLower) with
  | "" => some 1
  | "off" => some 0
  | "error" => some 1
  | "warn" => some 2
  | "info" => some 3
  | "debug" => some 4
  | "trace" => some 5
  | _ => none

/-- Reads a level filter: a number from 0 to 5, or a name as `namedCeiling` reads it. -/
def parseCeiling (s : String) : Option Ceiling :=
  match digitsValue s.toList with
  | some n => if n ≤ 5 then some n else none
  | none => namedCeiling s

/-- A field a directive asks for, with the value it asks for, if any. -/
structure FieldMatch where
  name : String
  value : Option String
  deriving DecidableEq, Repr

/-- One directive: the target it covers (none for all), the span it applies inside (none for
anywhere), the fields it asks for, and its ceiling. -/
structure Directive where
  target : Option String
  span : Option String
  fields : List FieldMatch
  ceiling : Ceiling
  deriving DecidableEq, Repr

/-- A cut of a directive's text at byte `index`, which falls inside the character `char` that
starts at byte `start`. -/
structure SplitChar where
  text : String
  index : Nat
  start : Nat
  char : Char
  deriving DecidableEq, Repr

/-- A character as a quoted literal: a quote and a backslash are escaped, and so are the control
characters, the no-break space and the soft hyphen of the first 256 code points, the ones
without a short escape by their code point in hexadecimal. -/
def quoteChar (c : Char) : String :=
  let body := match c with
    | '\t' => "\\t"
    | '\r' => "\\r"
    | '\n' => "\\n"
    | '\x00' => "\\0"
    | '\\' => "\\\\"
    | '\x27' => "\\\x27"
    | _ =>
      if c.toNat < 0x20 || (0x7F ≤ c.toNat && c.toNat ≤ 0xA0) || c.toNat = 0xAD then
        "\\u\x7b" ++ String.ofList (Nat.toDigits 16 c.toNat) ++ "\x7d"
      else c.toString
  "\x27" ++ body ++ "\x27"

/-- The longest start of a text that fits in `room` bytes without cutting a character. -/
def fitBytes (room : Nat) : List Char → List Char
  | [] => []
  | c :: rest => if c.utf8Size ≤ room then c :: fitBytes (room - c.utf8Size) rest else []

/-- What the process says when it stops at a cut inside a character. The text is shown up to its
first 256 bytes, with `[...]` after it when it is longer. -/
def SplitChar.message (p : SplitChar) : String :=
  let shown := fitBytes 256 p.text.toList
  "byte index " ++ toString p.index ++ " is not a char boundary; it is inside " ++
    quoteChar p.char ++ " (bytes " ++ toString p.start ++ ".." ++
    toString (p.start + p.char.utf8Size) ++ ") of \x60" ++ String.ofList shown ++ "\x60" ++
    (if shown.length < p.text.length then "[...]" else "")

/-- Why a directive is refused. -/
inductive DirectiveError where
  /-- It does not follow the grammar. -/
  | invalid
  /-- Its level is no level. -/
  | level
  /-- A field value it asks for does not compile, for the reason given. -/
  | field (reason : String)
  /-- The reader cut the text inside a character. This is no refusal: reading stops there, and
  so does the process that reads. -/
  | split (at_ : SplitChar)
  deriving DecidableEq, Repr

def DirectiveError.message : DirectiveError → String
  | .invalid => "invalid filter directive"
  | .level =>
    "error parsing level filter: expected one of \"off\", \"error\", \"warn\", \"info\", " ++
      "\"debug\", \"trace\", or a number 0-5"
  | .field reason => "invalid field filter: " ++ reason
  | .split p => p.message

/-- Reads the level after `=`: every level when nothing follows. -/
def levelAfterEquals (s : String) : Except DirectiveError Ceiling :=
  if s.isEmpty then .ok 5
  else match parseCeiling s with
    | some c => .ok c
    | none => .error .level

/-- Reads a field a span asks for: its name before the first `=`, and its value between the first
and the second. A value that is no boolean or number must compile as a pattern. -/
def fieldOf (text : String) : Except DirectiveError FieldMatch :=
  match text.toList.splitOn '=' with
  | name :: value :: _ =>
    let v := String.ofList value
    if Pattern.isPlainValue v then .ok ⟨String.ofList name, some v⟩
    else match Pattern.check v with
      | .ok () => .ok ⟨String.ofList name, some v⟩
      | .error e => .error (.field e.message)
  | name :: [] => .ok ⟨String.ofList name, none⟩
  | [] => .ok ⟨"", none⟩

/-- The characters of a text, each with the byte offset it starts at. -/
def offsets : List Char → Nat → List (Nat × Char)
  | [], _ => []
  | c :: rest, pos => (pos, c) :: offsets rest (pos + c.utf8Size)

/-- A directive's text as the reader cuts pieces from it: the text, its characters with their
byte offsets, and its size in bytes. -/
structure Source where
  text : String
  chars : List (Nat × Char)
  size : Nat
  deriving DecidableEq, Repr

def Source.ofString (s : String) : Source := ⟨s, offsets s.toList 0, s.utf8ByteSize⟩

/-- The piece of the text from byte `a` up to byte `b`. An end that falls inside a character
stops the reading, at `a` when both do. -/
def Source.cut (src : Source) (a b : Nat) : Except DirectiveError String :=
  let boundary (n : Nat) : Bool := n == src.size || src.chars.any (·.1 == n)
  if boundary a && boundary b then
    .ok (String.ofList ((src.chars.filter fun (o, _) => a ≤ o && o < b).map Prod.snd))
  else
    let index := if boundary a then b else a
    match (src.chars.filter (·.1 ≤ index)).getLast? with
    | some (start, c) => .error (.split ⟨src.text, index, start, c⟩)
    | none => .error .invalid

/-- Where the reader of a directive stands. Offsets are byte offsets where a piece starts. -/
inductive Stage where
  /-- Before the first character. -/
  | start
  /-- Reading a level or a target. -/
  | levelOrTarget (start : Nat)
  /-- Reading a span name, after `[`. -/
  | span (start : Nat)
  /-- Reading a field, after the brace or comma before it. -/
  | field (start : Nat)
  /-- After the closing brace of the fields. -/
  | fields
  /-- After a span: only `=` may follow. -/
  | target
  /-- Reading a level, after `=`. -/
  | level (start : Nat)
  deriving DecidableEq, Repr

/-- Reads one character of a directive, at byte offset `i` of the trimmed text. Pieces are cut
from the whole text at offsets counted in the trimmed one. -/
def advance (src : Source) (d : Directive) : Stage → Nat × Char →
    Except DirectiveError (Directive × Stage)
  | .start, (i, c) =>
    if c == '[' then .ok (d, .span (i + 1))
    else if c == '-' || c == ':' || c == '_' || Text.isAlphanumeric c then
      .ok (d, .levelOrTarget i)
    else .error .invalid
  | .levelOrTarget s, (i, c) =>
    if c == '=' then (src.cut s i).map fun t => ({ d with target := some t }, .level (i + 1))
    else if c == '[' then (src.cut s i).map fun t => ({ d with target := some t }, .span (i + 1))
    else .ok (d, .levelOrTarget s)
  | .span s, (i, c) =>
    if c == ']' then (src.cut s i).map fun t => ({ d with span := some t }, .target)
    else if c == '\x7b' then
      (src.cut s i).map fun t => ({ d with span := if t.isEmpty then none else some t }, .field (i + 1))
    else .ok (d, .span s)
  | .field s, (i, c) =>
    if c == '\x7d' then do
      let t ← src.cut s i
      if t.isEmpty then .error .invalid
      else (fieldOf t).map fun m => ({ d with fields := d.fields ++ [m] }, .fields)
    else .ok (d, .field s)
  | .fields, (_, c) => if c == ']' then .ok (d, .target) else .error .invalid
  | .target, (i, c) => if c == '=' then .ok (d, .level (i + 1)) else .error .invalid
  | .level s, _ => .ok (d, .level s)

/-- Ends a directive: what was read last decides its target or level. A lone word is a level when
it reads as one, else a target for every level. -/
def finish (src : Source) (d : Directive) : Stage → Except DirectiveError Directive
  | .levelOrTarget s =>
    (src.cut s src.size).map fun t =>
      match parseCeiling t with
      | some c => { d with ceiling := c, target := none }
      | none => { d with ceiling := 5, target := some t }
  | .level s => do
    let c ← levelAfterEquals (← src.cut s src.size)
    .ok { d with ceiling := c }
  | .target => .ok d
  | _ => .error .invalid

/-- Reads one directive: its characters after trimming the blanks at both ends, each piece cut
from the untrimmed text at the offset the trimmed one gives. -/
def parseDirective (s : String) : Except DirectiveError Directive :=
  let src := Source.ofString s
  let read := (offsets (Text.trimList s.toList) 0).foldlM
    (fun (d, st) p => advance src d st p) ((⟨none, none, [], 5⟩ : Directive), Stage.start)
  read.bind fun (d, st) => finish src d st

/-- A filter: its directives, in the order given. -/
abbrev Filter := List Directive

/-- The directives of a filter text: its pieces between commas, the empty ones left out. -/
def directiveTexts (s : String) : List String :=
  ((s.toList.splitOn ',').filter (fun d => !d.isEmpty)).map String.ofList

/-- Reads a filter strictly: one refused directive refuses the whole. -/
def parseStrict (s : String) : Except DirectiveError Filter :=
  (directiveTexts s).mapM parseDirective

/-- What reading a filter gives: the directives kept, a line for each one ignored, and the cut
inside a character that stopped the reading, if one did. -/
structure Reading where
  kept : Filter
  notes : List String
  stopped : Option SplitChar
  deriving DecidableEq, Repr

/-- Reads a filter leniently: each refused directive is left out with a line that says so; a cut
inside a character stops the reading. -/
def parseLenient (s : String) : Reading :=
  (directiveTexts s).foldl (fun r d =>
    if r.stopped.isSome then r
    else match parseDirective d with
      | .ok dir => { r with kept := r.kept ++ [dir] }
      | .error (.split p) => { r with stopped := some p }
      | .error e => { r with notes := r.notes ++ ["ignoring \x60" ++ d ++ "\x60: " ++ e.message] })
    ⟨[], [], none⟩

/-- The filter a process logs with: the specification from the environment when there is one
and it reads strictly, else the configured level read leniently, with a line for each directive
that reading ignored. A cut inside a character stops either reading. -/
def choose (spec : Option String) (level : String) : Reading :=
  match spec.map parseStrict with
  | some (.ok f) => ⟨f, [], none⟩
  | some (.error (.split p)) => ⟨[], [], some p⟩
  | _ => parseLenient level

-- a level name alone is a directive for every target
example : parseDirective "Info" = .ok ⟨none, none, [], 3⟩ := by
  rfl

-- a directive whose word is followed by blanks and more words is a target
example :
    parseDirective "not a level" = .ok ⟨some "not a level", none, [], 5⟩ := by
  rfl

-- a level that is no level filter refuses the directive
example : parseDirective "sdk=verbose" = .error .level := by
  rfl

end FunctionHost.Logging
