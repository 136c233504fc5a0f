import FunctionHost.Text.Alnum
import FunctionHost.Text.Blank
/-!
# Field value patterns

A directive that asks for a field value gives the value as text. A value that reads as a boolean
or a number is compared as one; any other value is a regular expression, and a directive whose
expression does not compile is refused. This module decides whether an expression compiles and,
when it does not, what the compiler reports:

* an expression that is not well formed is reported as an error building the automaton: an
  unclosed or unopened group, an unclosed class, a repetition with nothing to repeat, a count
  that is not a number or whose bounds are out of order, an escape that means nothing, a range
  of a class whose ends are not characters or are out of order, a look-around, a backreference,
  a bad group name or a bad flag;
* so is an expression that could match text that is not UTF-8, which only Unicode mode off
  (`(?-u)`) allows: there `.` matches any byte, `\D`, `\S` and `\W` match the bytes from `0x80`
  up, a negated class matches them too, `\xNN` with two digits is the byte `NN` (from `0x80` up
  it is no character), and a class may hold no Unicode class and no character past ASCII;
* so is an expression nested more than 250 deep. Its tree counts one level for each group, each
  repetition, each alternation and each sequence of two or more pieces; and in a class, one for
  the brackets, one for a union of two or more items and one for each operator (`&&`, `--`,
  `~~`). A sequence of one piece is that piece, and an empty one adds nothing;
* a well-formed expression with a word boundary (`\b`, `\B`, `\<`, `\>` or `\b{...}`) read while
  Unicode mode is on cannot be compiled to a deterministic automaton, and says so.

Reading goes piece by piece, each step taking at least one character, so it runs for at most as
many steps as the expression has characters. Each open group keeps the shape of the sequence
around it, and closing the group hands its depth to that sequence.

Results:
* `Level.sequence_push`: adding a piece to a sequence never makes it shallower, nor shallower
  than the piece.
-/
namespace FunctionHost.Logging.Pattern

/-- Why an expression does not compile. -/
inductive PatternError where
  /-- The text is not a well-formed expression. -/
  | malformed
  /-- The expression has a Unicode word boundary. -/
  | unicodeBoundary
  deriving DecidableEq, Repr

def PatternError.message : PatternError → String
  | .malformed => "error building NFA"
  | .unicodeBoundary =>
    "unsupported regex feature for DFAs: cannot build DFAs for regexes with Unicode word " ++
      "boundaries; switch to ASCII word boundaries, or heuristically enable Unicode word " ++
      "boundaries or use a different regex engine"

/-- The flags that change how the rest of an expression reads. -/
structure Flags where
  /-- `x`: blanks are skipped and `#` starts a comment up to the end of the line. -/
  spaced : Bool
  /-- `u`: word boundaries are Unicode-aware. -/
  unicode : Bool
  deriving DecidableEq, Repr

/-- Skips blanks and comments when the `x` flag is on; `inComment` says a comment is open. -/
def skipSpace (fl : Flags) (inComment : Bool) : List Char → List Char
  | [] => []
  | c :: rest =>
    if inComment then skipSpace fl (c != '\n') rest
    else if fl.spaced && Text.isBlank c then skipSpace fl false rest
    else if fl.spaced && c == '#' then skipSpace fl true rest
    else c :: rest

/-- The meta characters, which an escape makes literal. -/
def isMeta (c : Char) : Bool := "\\.+*?()|[]\x7b\x7d^$#&-~".toList.contains c

/-- Whether an escape of the character stands for the character itself: a meta character, or
an ASCII character other than a letter, a digit, `<` and `>`. -/
def isEscapable (c : Char) : Bool :=
  isMeta c || (c.toNat < 0x80 && !c.isAlphanum && c != '<' && c != '>')

def hexDigit? (c : Char) : Option Nat :=
  if '0' ≤ c ∧ c ≤ '9' then some (c.toNat - 48)
  else if 'a' ≤ c ∧ c ≤ 'f' then some (c.toNat - 87)
  else if 'A' ≤ c ∧ c ≤ 'F' then some (c.toNat - 55)
  else none

def hexOf (cs : List Char) : Option Nat :=
  cs.foldl (fun acc c => acc.bind fun n => (hexDigit? c).map (16 * n + ·)) (some 0)

def isScalar (n : Nat) : Bool := n ≤ 0x10FFFF && !(0xD800 ≤ n && n ≤ 0xDFFF)

/-- Reads the digits of `\x`, `\u` or `\U`, after the letter: `count` digits, or one or more in
braces. The value must be a Unicode scalar value. -/
def hexEscape (count : Nat) : List Char → Option (Nat × List Char)
  | '\x7b' :: rest =>
    let digits := rest.takeWhile (· ≠ '\x7d')
    match rest.dropWhile (· ≠ '\x7d') with
    | _ :: after =>
      if digits.isEmpty then none
      else (hexOf digits).bind fun n => if isScalar n then some (n, after) else none
    | [] => none
  | cs =>
    let digits := cs.take count
    if digits.length < count then none
    else (hexOf digits).bind fun n => if isScalar n then some (n, cs.drop count) else none

/-- Reads the name of a Unicode class after `\p` or `\P`: a general category of one letter, or
a name in braces. -/
def unicodeClass : List Char → Option (List Char)
  | '\x7b' :: rest =>
    match rest.dropWhile (· ≠ '\x7d') with
    | _ :: after => if (rest.takeWhile (· ≠ '\x7d')).isEmpty then none else some after
    | [] => none
  | c :: rest => if "CLMNPSZ".toList.contains c then some rest else none
  | [] => none

/-- After `\b`, reads `{start}`, `{end}`, `{start-half}` or `{end-half}` when a brace and a
letter or `-` follow; a brace followed by anything else is left for a counted repetition. -/
def specialBoundary : List Char → Option (List Char)
  | '\x7b' :: rest =>
    let isNameChar (c : Char) : Bool := (c.toNat < 0x80 && c.isAlpha) || c == '-'
    match rest with
    | c :: _ =>
      if isNameChar c then
        match rest.dropWhile isNameChar with
        | '\x7d' :: after =>
          if ["start", "end", "start-half", "end-half"].contains
            (String.ofList (rest.takeWhile isNameChar)) then some after else none
        | _ => none
      else some ('\x7b' :: rest)
    | [] => none
  | cs => some cs

/-- What an escape stands for. -/
inductive Escaped where
  /-- One character, by its code point. -/
  | literal (cp : Nat)
  /-- Two hexadecimal digits after `\x`: a character, or a byte when Unicode mode is off. -/
  | hexByte (n : Nat)
  /-- `\d`, `\s`, `\w`, or when `negated` `\D`, `\S`, `\W`. -/
  | perl (negated : Bool)
  /-- A Unicode class, `\p` or `\P`. -/
  | unicodeClass
  /-- An assertion; `word` says whether it is a word boundary. -/
  | assertion (word : Bool)
  deriving DecidableEq, Repr

/-- Whether an escape may stand outside a class with Unicode mode off: it must match UTF-8 text
only, so no byte from `0x80` up, no negated class of ASCII and no Unicode class. -/
def Escaped.bytesSafe : Escaped → Bool
  | .hexByte n => n < 0x80
  | .perl negated => !negated
  | .unicodeClass => false
  | _ => true

/-- Reads an escape after its backslash. Digits would be backreferences, which are refused. -/
def escape : List Char → Option (Escaped × List Char)
  | [] => none
  | c :: rest =>
    if c.isDigit then none
    else if c == 'x' then
      (hexEscape 2 rest).map fun (n, r) =>
        (if rest.head? == some '\x7b' then .literal n else .hexByte n, r)
    else if c == 'u' then (hexEscape 4 rest).map fun (n, r) => (.literal n, r)
    else if c == 'U' then (hexEscape 8 rest).map fun (n, r) => (.literal n, r)
    else if c == 'p' || c == 'P' then (unicodeClass rest).map fun r => (.unicodeClass, r)
    else if "dswDSW".toList.contains c then some (.perl c.isUpper, rest)
    else if isEscapable c then some (.literal c.toNat, rest)
    else match c with
      | 'a' => some (.literal 7, rest)
      | 'f' => some (.literal 12, rest)
      | 't' => some (.literal 9, rest)
      | 'n' => some (.literal 10, rest)
      | 'r' => some (.literal 13, rest)
      | 'v' => some (.literal 11, rest)
      | 'A' => some (.assertion false, rest)
      | 'z' => some (.assertion false, rest)
      | 'b' => (specialBoundary rest).map fun r => (.assertion true, r)
      | 'B' => some (.assertion true, rest)
      | '<' => some (.assertion true, rest)
      | '>' => some (.assertion true, rest)
      | _ => none

/-- The names of the ASCII classes written `[:name:]` inside a class. -/
def asciiClassNames : List String :=
  ["alnum", "alpha", "ascii", "blank", "cntrl", "digit", "graph", "lower", "print", "punct",
    "space", "upper", "word", "xdigit"]

/-- After a `[` inside a class, reads `:name:]` or `:^name:]` for a known name, and says whether
it is negated. -/
def asciiClass : List Char → Option (Bool × List Char)
  | ':' :: rest =>
    let (negated, body) := match rest with
      | '^' :: r => (true, r)
      | r => (false, r)
    match body.dropWhile (· ≠ ':') with
    | ':' :: ']' :: after =>
      if asciiClassNames.contains (String.ofList (body.takeWhile (· ≠ ':'))) then
        some (negated, after)
      else none
    | _ => none
  | _ => none

/-- Reads the `-` at the start of a class, each a literal, with blanks between them when the `x`
flag is on; gives how many there were. At most `fuel` are read. -/
def leadingDashes (fl : Flags) : Nat → List Char → Nat × List Char
  | fuel + 1, '-' :: rest =>
    let (n, after) := leadingDashes fl fuel (skipSpace fl false rest)
    (n + 1, after)
  | _, cs => (0, cs)

/-- Reads the opening of a class after its `[`: an optional `^`, then any `-` as literals, then
a `]` as a literal when no `-` came. Gives whether the class is negated and how many literals
the opening holds. -/
def classOpen (fl : Flags) (cs : List Char) : Bool × Nat × List Char :=
  let (negated, afterCaret) := match skipSpace fl false cs with
    | '^' :: r => (true, skipSpace fl false r)
    | r => (false, r)
  match leadingDashes fl afterCaret.length afterCaret with
  | (0, ']' :: r) => (negated, 1, r)
  | (n, r) => (negated, n, r)

/-- Whether a literal may stand in a class: with Unicode mode off a class holds bytes, and only
the ASCII ones are characters. -/
def classLiteralOk (fl : Flags) (cp : Nat) : Bool := fl.unicode || cp < 0x80

/-- Reads one item of a class: an escape or a character. The item is a literal with its code
point or a class (`none`); an assertion is refused, and so is what Unicode mode off forbids. -/
def classItem (fl : Flags) : List Char → Option (Option Nat × List Char)
  | '\\' :: rest =>
    match escape rest with
    | some (.literal n, r) => if classLiteralOk fl n then some (some n, r) else none
    | some (.hexByte n, r) => if classLiteralOk fl n then some (some n, r) else none
    | some (.perl negated, r) => if fl.unicode || !negated then some (none, r) else none
    | some (.unicodeClass, r) => if fl.unicode then some (none, r) else none
    | _ => none
  | c :: rest => if classLiteralOk fl c.toNat then some (some c.toNat, rest) else none
  | [] => none

/-- Reads an item of a class, or a range of two literals in order. A `-` before `]` or `-` is no
range. -/
def classRange (fl : Flags) (cs : List Char) : Option (List Char) := do
  let (first, rest) ← classItem fl cs
  match skipSpace fl false rest with
  | [] => none
  | '-' :: more =>
    match skipSpace fl false more with
    | ']' :: _ => some (skipSpace fl false rest)
    | '-' :: _ => some (skipSpace fl false rest)
    | [] => none
    | more' =>
      let (last, after) ← classItem fl more'
      match first, last with
      | some a, some b => if a ≤ b then some after else none
      | _, _ => none
  | rest' => some rest'

/-- One open bracket of a class, as far as its depth goes: the depth of the set before a pending
operator, if one came, and the items of the union read since. -/
structure ClassLevel where
  lhs : Option Nat
  count : Nat
  deepest : Nat
  deriving DecidableEq, Repr

namespace ClassLevel

/-- A bracket just opened, with `count` literals read by its opening. -/
def fresh (count : Nat) : ClassLevel := ⟨none, count, 0⟩

def add (l : ClassLevel) (d : Nat) : ClassLevel :=
  { l with count := l.count + 1, deepest := max l.deepest d }

/-- The depth of the union: none for no item, the item's for one, one more than the deepest for
more. -/
def union (l : ClassLevel) : Nat :=
  if l.count = 0 then 0 else if l.count = 1 then l.deepest else l.deepest + 1

/-- The depth of the set: each operator takes the set before it and the union after it. -/
def set (l : ClassLevel) : Nat :=
  match l.lhs with
  | none => l.union
  | some d => max d l.union + 1

def operator (l : ClassLevel) : ClassLevel := ⟨some l.set, 0, 0⟩

end ClassLevel

/-- Reads the body of a class up to the `]` that closes it, with a level for each bracket open,
the innermost first. Gives what follows and the class's depth. With Unicode mode off a negated
class or ASCII class is refused. -/
def classBody (fl : Flags) : Nat → List ClassLevel → List Char → Option (List Char × Nat)
  | 0, _, _ => none
  | _, [], _ => none
  | fuel + 1, top :: outer, cs =>
    match skipSpace fl false cs with
    | [] => none
    | '[' :: rest =>
      match asciiClass rest with
      | some (negated, after) =>
        if negated && !fl.unicode then none else classBody fl fuel (top.add 0 :: outer) after
      | none =>
        let (negated, count, after) := classOpen fl rest
        if negated && !fl.unicode then none
        else classBody fl fuel (ClassLevel.fresh count :: top :: outer) after
    | ']' :: rest =>
      match outer with
      | [] => some (rest, top.set + 1)
      | parent :: more => classBody fl fuel (parent.add (top.set + 1) :: more) rest
    | '&' :: '&' :: rest => classBody fl fuel (top.operator :: outer) rest
    | '-' :: '-' :: rest => classBody fl fuel (top.operator :: outer) rest
    | '~' :: '~' :: rest => classBody fl fuel (top.operator :: outer) rest
    | cs' =>
      match classRange fl cs' with
      | some rest => classBody fl fuel (top.add 0 :: outer) rest
      | none => none

/-- Drops the `?` that makes a repetition lazy. -/
def lazy : List Char → List Char
  | '?' :: rest => rest
  | cs => cs

/-- Reads a decimal count that fits in 32 bits, with blanks around it. -/
def decimal (cs : List Char) : Option (Nat × List Char) :=
  let cs := cs.dropWhile Text.isBlank
  let digits := cs.takeWhile Char.isDigit
  let n := digits.foldl (fun n c => 10 * n + (c.toNat - 48)) 0
  if digits.isEmpty || Nat.pow 2 32 ≤ n then none
  else some (n, (cs.dropWhile Char.isDigit).dropWhile Text.isBlank)

/-- Reads a counted repetition after its brace: `n}`, `n,}` or `n,m}` with `n ≤ m`, then an
optional `?`. -/
def counted (fl : Flags) (cs : List Char) : Option (List Char) := do
  let (low, rest) ← decimal (skipSpace fl false cs)
  match rest with
  | ',' :: more =>
    match skipSpace fl false more with
    | '\x7d' :: after => some (lazy after)
    | more' =>
      let (high, rest') ← decimal more'
      match rest' with
      | '\x7d' :: after => if low ≤ high then some (lazy after) else none
      | _ => none
  | '\x7d' :: after => some (lazy after)
  | _ => none

/-- Whether a character may stand in a group name: a letter or `_`, and after the first also
digits, `.`, `[` and `]`. -/
def isNameChar (first : Bool) (c : Char) : Bool :=
  c == '_' || (Text.isAlphanumeric c && !c.isDigit) ||
    (!first && (Text.isAlphanumeric c || c == '.' || c == '[' || c == ']'))

def groupName (cs : List Char) : Option (String × List Char) :=
  let name := cs.takeWhile (· ≠ '>')
  match cs.dropWhile (· ≠ '>'), name with
  | _ :: after, c :: more =>
    if isNameChar true c && more.all (isNameChar false) then some (String.ofList name, after)
    else none
  | _, _ => none

/-- Reads flag letters up to `:` or `)`, with the letters seen and whether `-` came (and came
last): the flags then in force, whether `)` ended them, and what follows. A repeated letter, a
second `-`, a `-` at the end, an unknown letter, or no letter before `)` is refused. -/
def flagItems (fl : Flags) (seen : List Char) (negated lastNeg : Bool) :
    List Char → Option (Flags × Bool × List Char)
  | [] => none
  | ':' :: rest => if lastNeg then none else some (fl, false, rest)
  | ')' :: rest => if lastNeg || seen.isEmpty then none else some (fl, true, rest)
  | '-' :: rest => if negated then none else flagItems fl seen true true rest
  | c :: rest =>
    if !"imsUuxR".toList.contains c || seen.contains c then none
    else
      let fl' := if c == 'x' then { fl with spaced := !negated }
        else if c == 'u' then { fl with unicode := !negated } else fl
      flagItems fl' (c :: seen) negated false rest

/-- What the sequence being read ends with, which decides whether a repetition may follow. -/
inductive Tail where
  /-- Nothing: the start of the expression, a group or an alternative. -/
  | empty
  /-- Something a repetition may follow. -/
  | item
  /-- A flag setting, which a repetition may not follow. -/
  | flags
  deriving DecidableEq, Repr

/-- The alternatives being read at one level of nesting, as far as their depth goes: the deepest
of those finished, once a `|` came, and of the current one how many pieces it has, the deepest
of them before the last, and the depth of the last. -/
structure Level where
  done : Option Nat
  count : Nat
  before : Nat
  last : Nat
  deriving DecidableEq, Repr

namespace Level

def empty : Level := ⟨none, 0, 0, 0⟩

/-- The depth of the current alternative: none when it is empty, its piece's for one piece, one
more than the deepest piece for a sequence. -/
def sequence (l : Level) : Nat :=
  if l.count = 0 then 0 else if l.count = 1 then l.last else max l.before l.last + 1

/-- The depth of what the level holds: an alternation is one more than its deepest
alternative. -/
def depth (l : Level) : Nat :=
  match l.done with
  | none => l.sequence
  | some d => max d l.sequence + 1

def push (l : Level) (d : Nat) : Level :=
  { l with count := l.count + 1, before := max l.before l.last, last := d }

/-- A repetition of the last piece, one level deeper than the piece. -/
def repeated (l : Level) : Level := { l with last := l.last + 1 }

def bar (l : Level) : Level :=
  ⟨some (match l.done with | none => l.sequence | some d => max d l.sequence), 0, 0, 0⟩

end Level

def nestLimit : Nat := 250

/-- The reader's state between steps. -/
structure Scan where
  flags : Flags
  tail : Tail
  /-- The level being read. -/
  level : Level
  /-- For each open group, the flags in force outside it and the level it is a piece of. -/
  outer : List (Flags × Level)
  /-- The names given to groups so far. -/
  names : List String
  /-- Whether a Unicode word boundary was read. -/
  unicodeWord : Bool
  deriving DecidableEq, Repr

def Scan.piece (st : Scan) (d : Nat) : Scan :=
  { st with tail := .item, level := st.level.push d }

/-- Repeats the last piece, when there is one a repetition may follow. -/
def Scan.repeatLast (st : Scan) : Option Scan :=
  if st.tail == .item then some { st with level := st.level.repeated } else none

def openGroup (st : Scan) (cs : List Char) : Option (Scan × List Char) :=
  let enter (inner : Flags) (names : List String) (rest : List Char) : Scan × List Char :=
    ({ st with
        flags := inner, outer := (st.flags, st.level) :: st.outer, tail := .empty,
        level := Level.empty, names := names }, rest)
  match cs with
  | '?' :: '=' :: _ => none
  | '?' :: '!' :: _ => none
  | '?' :: '<' :: '=' :: _ => none
  | '?' :: '<' :: '!' :: _ => none
  | '?' :: 'P' :: '<' :: rest | '?' :: '<' :: rest =>
    match groupName rest with
    | some (name, after) =>
      if st.names.contains name then none else some (enter st.flags (name :: st.names) after)
    | none => none
  | '?' :: rest =>
    match flagItems st.flags [] false false rest with
    | some (fl, true, after) =>
      some ({ st with flags := fl, tail := .flags, level := st.level.push 0 }, after)
    | some (fl, false, after) => some (enter fl st.names after)
    | none => none
  | rest => some (enter st.flags st.names rest)

def step (st : Scan) (c : Char) (rest : List Char) : Option (Scan × List Char) :=
  match c with
  | '(' => openGroup st rest
  | ')' =>
    match st.outer with
    | [] => none
    | (fl, lv) :: outer =>
      some ({ st with
        flags := fl, outer := outer, tail := .item, level := lv.push (st.level.depth + 1) }, rest)
  | '|' => some ({ st with tail := .empty, level := st.level.bar }, rest)
  | '*' => (st.repeatLast).map (·, lazy rest)
  | '+' => (st.repeatLast).map (·, lazy rest)
  | '?' => (st.repeatLast).map (·, lazy rest)
  | '\x7b' => do
    let st' ← st.repeatLast
    (counted st.flags rest).map (st', ·)
  | '[' =>
    let (negated, count, after) := classOpen st.flags rest
    if negated && !st.flags.unicode then none
    else (classBody st.flags (rest.length + 1) [ClassLevel.fresh count] after).map
      fun (r, d) => (st.piece d, r)
  | '.' => if st.flags.unicode then some (st.piece 0, rest) else none
  | '\\' =>
    match escape rest with
    | some (e, r) =>
      if !st.flags.unicode && !e.bytesSafe then none
      else match e with
        | .assertion word =>
          some ({ st.piece 0 with unicodeWord := st.unicodeWord || (word && st.flags.unicode) }, r)
        | _ => some (st.piece 0, r)
    | none => none
  | _ => some (st.piece 0, rest)

/-- Reads an expression piece by piece, for at most `fuel` pieces. -/
def run : Nat → Scan → List Char → Option Scan
  | 0, _, _ => none
  | fuel + 1, st, cs =>
    match skipSpace st.flags false cs with
    | [] => some st
    | c :: rest =>
      match step st c rest with
      | some (st', rest') => run fuel st' rest'
      | none => none

def initial : Scan := ⟨⟨false, true⟩, .empty, Level.empty, [], [], false⟩

/-- Whether an expression compiles, and if not, why. -/
def check (s : String) : Except PatternError Unit :=
  match run (s.length + 1) initial s.toList with
  | none => .error .malformed
  | some st =>
    if !st.outer.isEmpty || nestLimit < st.level.depth then .error .malformed
    else if st.unicodeWord then .error .unicodeBoundary
    else .ok ()

/-- Whether a text reads as a number: an optional sign, then `inf`, `infinity` or `nan` in any
case, or decimal digits with an optional fraction and exponent. -/
def readsAsNumber (s : String) : Bool :=
  let cs := match s.toList with
    | '+' :: r => r
    | '-' :: r => r
    | r => r
  let lower := String.ofList (cs.map Char.toLower)
  if lower == "inf" || lower == "infinity" || lower == "nan" then true
  else
    let whole := cs.takeWhile Char.isDigit
    let afterWhole := cs.dropWhile Char.isDigit
    let (frac, afterFrac) := match afterWhole with
      | '.' :: more => (more.takeWhile Char.isDigit, more.dropWhile Char.isDigit)
      | r => ([], r)
    if whole.isEmpty && frac.isEmpty then false
    else match afterFrac with
      | [] => true
      | e :: more =>
        let digits := match more with
          | '+' :: r => r
          | '-' :: r => r
          | r => r
        (e == 'e' || e == 'E') && !digits.isEmpty && digits.all Char.isDigit

/-- Whether a field value is compared as a boolean or a number rather than as an expression. -/
def isPlainValue (s : String) : Bool := s == "true" || s == "false" || readsAsNumber s

-- an expression of letters, a class and a repetition compiles
example : check "ab[c-e]+x*" = .ok () := by
  rfl

-- an unclosed class does not
example : check "[" = .error .malformed := by
  rfl

-- a word boundary cannot be compiled
example : check "\\bword" = .error .unicodeBoundary := by
  rfl

-- neither can `.` with Unicode mode off
example : check "(?-u)." = .error .malformed := by
  rfl

theorem Level.sequence_push (l : Level) (d : Nat) : l.sequence ≤ (l.push d).sequence ∧
    d ≤ (l.push d).sequence := by
  unfold Level.sequence Level.push
  by_cases h0 : l.count = 0 <;> by_cases h1 : l.count = 1 <;> simp [h0, h1] <;> omega

end FunctionHost.Logging.Pattern
