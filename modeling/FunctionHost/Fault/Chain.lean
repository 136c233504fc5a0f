import FunctionHost.Fault.Basic
/-!
# Chains of causes

An error as a handler returns it: a chain of causes, outermost first. Each cause has the text
it displays on its own, and may be a classified `Fault` that can be recovered from the chain.
Context added on the way out pushes a cause that displays the context; a wrapper that already
prints its source displays `text: source`. Neither is recoverable, also when the context is itself
a fault.

`Chain.toFault` turns any chain into the envelope sent back: the kind, trace and data of the
first recoverable fault, with a message made of the displayed texts down to it joined by `": "`,
skipping a text that the message already ends with. A chain with no recoverable fault is a final
failure with the whole chain as its message.

Results:
* `toFault_ofFault`: a bare fault comes back with its kind, trace and data.
* `toFault_kind`: the envelope's kind is the kind of the first recoverable fault, or `failed`.
* `toFaultFrom_of_find`: a chain holding a recoverable fault sends back its kind, trace and data.
-/
namespace FunctionHost.Fault

/-- One cause in a chain: what it displays, and the classified fault it is, if it is one. -/
structure Cause where
  text : String
  fault : Option Fault

/-- A chain of causes, outermost first. -/
abbrev Chain := List Cause

namespace Chain

def ofFault (f : Fault) : Chain := [⟨f.message, some f⟩]

def ofMessage (s : String) : Chain := [⟨s, none⟩]

/-- What the chain displays: its outermost cause. -/
def display (c : Chain) : String :=
  match c with
  | [] => ""
  | cause :: _ => cause.text

def context (c : Chain) (s : String) : Chain := ⟨s, none⟩ :: c

/-- Adds a wrapper that displays `s`, or `s: source` when it prints its source (just the source
when `s` is empty). -/
def wrap (c : Chain) (s : String) (echo : Bool) : Chain :=
  let text := if !echo then s else if s.isEmpty then c.display else s ++ ": " ++ c.display
  ⟨text, none⟩ :: c

/-- The first recoverable fault, outermost first. Mirrors `find_function_error`. -/
def find : Chain → Option Fault
  | [] => none
  | cause :: rest =>
    match cause.fault with
    | some f => some f
    | none => find rest

/-- The kind of the first recoverable fault. Mirrors `kind_of`. -/
def kind? (c : Chain) : Option Kind := c.find.map Fault.kind

/-- Whether the first recoverable fault is of kind `k`: the predicates `is_transient`,
`is_not_found`, `is_conflict`, `is_failed` and `is_execute_again` over a chain. -/
def isKind (k : Kind) (c : Chain) : Bool := c.kind? == some k

/-- A layer put over a chain on its way out. An anyhow context holding a fault displays the
fault's message but is not itself recoverable: anyhow's context wrapper does not show its
context to a search of the chain. -/
inductive Layer where
  | context (s : String)
  | contextFault (f : Fault)
  | wrap (s : String) (echo : Bool)

def push (c : Chain) : Layer → Chain
  | .context s => c.context s
  | .contextFault f => c.context f.message
  | .wrap s echo => c.wrap s echo

/-- Appends a displayed text to a message, unless the message already ends with it. -/
def joinText (message segment : String) : String :=
  if message.endsWith segment then message
  else if message.isEmpty then segment
  else message ++ ": " ++ segment

/-- The envelope for a chain, its message built so far being `message`. -/
def toFaultFrom (message : String) : Chain → Fault
  | [] => Fault.failed message
  | cause :: rest =>
    let m := joinText message cause.text
    match cause.fault with
    | some f => { f with message := m }
    | none => toFaultFrom m rest

/-- The envelope for a chain. Mirrors `as_function_error`. -/
def toFault (c : Chain) : Fault := toFaultFrom "" c

end Chain

theorem toFault_ofFault (f : Fault) :
    (Chain.ofFault f).toFault.kind = f.kind ∧ (Chain.ofFault f).toFault.stackTrace = f.stackTrace ∧
      (Chain.ofFault f).toFault.data = f.data := by
  simp [Chain.ofFault, Chain.toFault, Chain.toFaultFrom]

theorem toFault_kind (c : Chain) (message : String) :
    (Chain.toFaultFrom message c).kind = (c.kind?.getD .failed) := by
  induction c generalizing message with
  | nil => rfl
  | cons cause rest ih =>
    simp only [Chain.toFaultFrom, Chain.kind?, Chain.find]
    cases cause.fault with
    | some f => rfl
    | none => simpa [Chain.kind?] using ih _

theorem toFaultFrom_of_find {c : Chain} {f : Fault} (h : c.find = some f) (message : String) :
    (Chain.toFaultFrom message c).kind = f.kind ∧
      (Chain.toFaultFrom message c).stackTrace = f.stackTrace ∧
      (Chain.toFaultFrom message c).data = f.data := by
  induction c generalizing message with
  | nil => simp [Chain.find] at h
  | cons cause rest ih =>
    simp only [Chain.toFaultFrom]
    cases hf : cause.fault with
    | some g =>
      -- the first recoverable fault is this cause's own
      have hg : g = f := by simpa [Chain.find, hf] using h
      subst hg
      exact ⟨rfl, rfl, rfl⟩
    | none => exact ih (by simpa [Chain.find, hf] using h) _

end FunctionHost.Fault
