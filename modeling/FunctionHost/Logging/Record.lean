import FunctionHost.Logging.Filter
/-!
# Log records, the spans they are made in, and their lines

A record has a level, a target (the module it comes from), a message and named fields. It may
be made inside spans, each with a name, a target, a level and fields of its own.

A filter decides in two ways.

* Its static directives, those that name no span and ask for no field value, decide by target:
  the most specific one that covers a target decides (a longer target, then more fields, is more
  specific; of two equal ones the later counts), and nothing passes where none covers. For a
  record a directive also needs every field it names to be one of the record's.
* Its dynamic directives open spans. A span that one of them covers (target, span name, and
  fields the span has) is opened at the most verbose level of those whose asked values the span
  holds, and a record inside an open span at that level or more severe passes. Of two dynamic
  directives that say the same but for the level, the later counts.

A span exists when either way lets it through; one made inside an opened span at its level
exists too. A record that passes is written as one line: the level, the spans that exist from
the outermost in, each as `name{fields}:`, then the target and a colon when targets are shown,
then the message and each field as ` key=value`. Lines carry no timestamp.

Results:
* `line_plain`: a record outside spans with no fields is its level, target and message.
* `passes_single`: one level alone lets through exactly the records at that level or more
  severe.
-/
namespace FunctionHost.Logging

/-- A span records are made in. -/
structure Span where
  name : String
  target : String
  level : Level
  fields : List (String × String)
  deriving DecidableEq, Repr

/-- A log record; field values are already rendered. -/
structure Record where
  level : Level
  target : String
  message : String
  fields : List (String × String)
  deriving DecidableEq, Repr

def Record.fieldNames (r : Record) : List String := "message" :: r.fields.map Prod.fst

namespace Directive

/-- Whether a directive is dynamic: it names a span or asks for a field value. -/
def dynamic (d : Directive) : Bool := d.span.isSome || d.fields.any (·.value.isSome)

/-- Whether a directive's target covers a target. -/
def covers (d : Directive) (target : String) : Bool :=
  match d.target with
  | none => true
  | some t => t.isPrefixOf target

def fieldNames (d : Directive) : List String := d.fields.map (·.name)

/-- Whether a static directive speaks about something with a target and, for a record, field
names. -/
def caresStatic (d : Directive) (target : String) (names : Option (List String)) : Bool :=
  d.covers target && match names with
    | none => true
    | some ns => d.fieldNames.all (ns.contains ·)

end Directive

def compareOptionText : Option String → Option String → Ordering
  | none, none => .eq
  | none, some _ => .lt
  | some _, none => .gt
  | some a, some b => compare a b

/-- Compares lists of texts, the one that first has a larger text, or is longer, larger. -/
def compareTexts : List String → List String → Ordering
  | [], [] => .eq
  | [], _ :: _ => .lt
  | _ :: _, [] => .gt
  | a :: as, b :: bs => (compare a b).then (compareTexts as bs)

/-- The specificity order of static directives: a longer target, then more fields, then the
larger target and the larger field names. -/
def specificity (a b : Directive) : Ordering :=
  (compare ((a.target.map String.length).map (· + 1) |>.getD 0)
    ((b.target.map String.length).map (· + 1) |>.getD 0)).then
  ((compare a.fields.length b.fields.length).then
  ((compareOptionText a.target b.target).then (compareTexts a.fieldNames b.fieldNames)))

/-- The static directive that decides for something: the most specific that speaks about it,
the later of two equally specific ones. -/
def deciding (f : Filter) (target : String) (names : Option (List String)) : Option Directive :=
  f.foldl (fun best d =>
    if d.dynamic || !d.caresStatic target names then best
    else match best with
      | none => some d
      | some b => if specificity b d = .gt then best else some d) none

/-- Whether the static directives let something at a level through. -/
def staticAllows (f : Filter) (target : String) (names : Option (List String)) (l : Level) :
    Bool :=
  match deciding f target names with
  | some d => l.rank ≤ d.ceiling
  | none => false

/-- The dynamic directives that count: of two that say the same but for the level, the later. -/
def dynamics (f : Filter) : List Directive :=
  let ds := f.filter Directive.dynamic
  let same (a b : Directive) : Bool :=
    a.target == b.target && a.span == b.span && a.fields == b.fields
  (ds.zipIdx.filter fun (d, i) => !(ds.drop (i + 1)).any (same d)).map Prod.fst

/-- The most verbose ceiling among all dynamic directives, if there are any. -/
def dynamicCeiling (f : Filter) : Option Ceiling :=
  (f.filter Directive.dynamic).foldl (fun acc d => some (max (acc.getD 0) d.ceiling)) none

def Directive.caresSpan (d : Directive) (s : Span) : Bool :=
  d.covers s.target && d.span.all (· == s.name) &&
    d.fieldNames.all fun n => s.fields.any (·.1 == n)

def Directive.holds (d : Directive) (s : Span) : Bool :=
  d.fields.all fun m => m.value.all fun v => s.fields.contains (m.name, v)

/-- The level a span is opened at, if a dynamic directive speaks about it. -/
def spanCeiling (f : Filter) (s : Span) : Option Ceiling :=
  let caring := (dynamics f).filter (·.caresSpan s)
  if caring.isEmpty then none
  else some ((caring.filter (·.holds s)).foldl (fun acc d => max acc d.ceiling) 0)

/-- Whether opened spans at these levels let something at a level through. -/
def scopeAllows (f : Filter) (scope : List Ceiling) (l : Level) : Bool :=
  match dynamicCeiling f with
  | some m => l.rank ≤ m && scope.any (l.rank ≤ ·)
  | none => false

/-- Whether a span made inside opened spans at the levels `scope` exists. -/
def spanExists (f : Filter) (scope : List Ceiling) (s : Span) : Bool :=
  (match dynamicCeiling f with
    | some m => s.level.rank ≤ m && ((spanCeiling f s).isSome || scope.any (s.level.rank ≤ ·))
    | none => false) ||
  staticAllows f s.target none s.level

/-- Walks spans from the outermost in: the spans that exist, and the levels of the opened ones. -/
def walk (f : Filter) : List Span → List Ceiling → List Span × List Ceiling
  | [], scope => ([], scope)
  | s :: rest, scope =>
    if spanExists f scope s then
      let inner := match spanCeiling f s with
        | some c => scope ++ [c]
        | none => scope
      let (shown, last) := walk f rest inner
      (s :: shown, last)
    else walk f rest scope

/-- Whether a record made inside spans passes. -/
def passes (f : Filter) (spans : List Span) (r : Record) : Bool :=
  scopeAllows f (walk f spans []).2 r.level || staticAllows f r.target (some r.fieldNames) r.level

def fieldsText (fields : List (String × String)) : String :=
  " ".intercalate (fields.map fun (k, v) => k ++ "=" ++ v)

def Span.text (s : Span) : String :=
  s.name ++ (if s.fields.isEmpty then "" else "\x7b" ++ fieldsText s.fields ++ "\x7d") ++ ":"

/-- The line of a record made inside `spans`. -/
def line (f : Filter) (spans : List Span) (showTarget : Bool) (r : Record) : String :=
  let shown := (walk f spans []).1
  let context := if shown.isEmpty then "" else String.join (shown.map Span.text) ++ " "
  let body := if r.fields.isEmpty then r.message
    else if r.message.isEmpty then fieldsText r.fields
    else r.message ++ " " ++ fieldsText r.fields
  r.level.name ++ " " ++ context ++ (if showTarget then r.target ++ ": " else "") ++ body

/-- The line of a record if it passes the filter. -/
def emit (f : Filter) (spans : List Span) (showTarget : Bool) (r : Record) : Option String :=
  if passes f spans r then some (line f spans showTarget r) else none

theorem line_plain (f : Filter) (l : Level) (target message : String) :
    line f [] true ⟨l, target, message, []⟩ = l.name ++ " " ++ target ++ ": " ++ message := by
  simp [line, walk, String.append_assoc]

theorem passes_single (c : Ceiling) (r : Record) :
    passes [⟨none, none, [], c⟩] [] r = decide (r.level.rank ≤ c) := by
  simp [passes, scopeAllows, dynamicCeiling, Directive.dynamic, staticAllows, deciding,
    Directive.caresStatic, Directive.covers, Directive.fieldNames]

end FunctionHost.Logging
