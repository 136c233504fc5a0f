/-!
# Kinds of function failure

A failed invocation is classified by one of six kinds. On the wire a kind is its integer code,
0 to 5; every other code names no kind. Each kind has a lower-case name used in messages.

Results:
* `ofCode_code`: reading back a kind's code gives the kind.
* `code_of_ofCode`: a code that names a kind is that kind's code.
-/
namespace FunctionHost.Fault

/-- How a failure should be treated by whoever invoked the function. -/
inductive Kind where
  | unspecified
  /-- Invoke again later, with the carried data as the previous context. -/
  | executeAgain
  /-- A final failure. -/
  | failed
  /-- Safe to retry as a fresh invocation. -/
  | transient
  /-- A state key is absent. -/
  | notFound
  /-- A versioned state write lost to another writer. -/
  | conflict
  deriving DecidableEq, Repr, Inhabited

namespace Kind

/-- The integer code of a kind on the wire. Mirrors the kind's `code`. -/
def code : Kind → Nat
  | unspecified => 0
  | executeAgain => 1
  | failed => 2
  | transient => 3
  | notFound => 4
  | conflict => 5

/-- The kind a code names, if any. Mirrors `from_code`. -/
def ofCode? : Nat → Option Kind
  | 0 => some unspecified
  | 1 => some executeAgain
  | 2 => some failed
  | 3 => some transient
  | 4 => some notFound
  | 5 => some conflict
  | _ => none

def name : Kind → String
  | unspecified => "unspecified"
  | executeAgain => "execute_again"
  | failed => "failed"
  | transient => "transient"
  | notFound => "not_found"
  | conflict => "conflict"

def ofName? (s : String) : Option Kind :=
  [unspecified, executeAgain, failed, transient, notFound, conflict].find? (·.name == s)

end Kind

theorem ofCode_code (k : Kind) : Kind.ofCode? k.code = some k := by
  cases k <;> rfl

theorem code_of_ofCode (n : Nat) (k : Kind) (h : Kind.ofCode? n = some k) : k.code = n := by
  match n, h with
  | 0, h => cases h; rfl
  | 1, h => cases h; rfl
  | 2, h => cases h; rfl
  | 3, h => cases h; rfl
  | 4, h => cases h; rfl
  | 5, h => cases h; rfl
  | n + 6, h => simp [Kind.ofCode?] at h

end FunctionHost.Fault
