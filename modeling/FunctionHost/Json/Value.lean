import FunctionHost.Binary64.Basic
/-!
# Documents

A JSON value. Numbers keep the three kinds a reader tells apart: a natural number below 2^64,
a negative integer not below -2^63, and any other number as a binary64 value. Objects keep
their members sorted by key with one member per key, the order in which they are written out;
inserting a key that is present replaces its value.

Results:
* `lookup_insert`: after inserting a key, looking it up gives the inserted value.
* `lookup_insert_ne`: inserting a key leaves the other keys' values alone.
-/
namespace FunctionHost.Json

/-- A number as a document holds it. -/
inductive Number where
  /-- A non-negative integer below 2^64. -/
  | nat (n : Nat)
  /-- A negative integer, at least -2^63. -/
  | negative (i : Int)
  /-- Any other number. -/
  | float (x : Binary64)
  deriving DecidableEq, Repr, Inhabited

/-- A JSON value. -/
inductive Value where
  | null
  | bool (b : Bool)
  | number (n : Number)
  | string (s : String)
  | array (items : List Value)
  | object (members : List (String × Value))
  deriving Repr, Inhabited

/-- The members of an object, sorted by key with one member per key. -/
abbrev Members := List (String × Value)

/-- Inserts a member in key order, replacing the value of a key that is present. -/
def insertMember (k : String) (v : Value) : Members → Members
  | [] => [(k, v)]
  | (k', v') :: rest =>
    if k < k' then (k, v) :: (k', v') :: rest
    else if k = k' then (k, v) :: rest
    else (k', v') :: insertMember k v rest

def lookup (k : String) : Members → Option Value
  | [] => none
  | (k', v) :: rest => if k = k' then some v else lookup k rest

def eraseMember (k : String) : Members → Members
  | [] => []
  | (k', v) :: rest => if k = k' then rest else (k', v) :: eraseMember k rest

/-- Members from a list of pairs in any order; of two pairs with one key the later wins. -/
def membersOf (pairs : List (String × Value)) : Members :=
  pairs.foldl (fun acc (k, v) => insertMember k v acc) []

namespace Number

/-- The number as a binary64 value, rounding integers beyond 2^53. -/
def toBinary64 : Number → Binary64
  | .nat n => Binary64.ofNat n
  | .negative i => Binary64.ofInt i
  | .float x => x

/-- The number as a signed 64-bit integer, when it is an integer in that range. -/
def toInt64? : Number → Option Int
  | .nat n => if n < Nat.pow 2 63 then some n else none
  | .negative i => some i
  | .float _ => none

end Number

namespace Value

/-- An object from pairs, the later of two pairs with one key winning. -/
def objectOf (pairs : List (String × Value)) : Value := .object (membersOf pairs)

def asString? : Value → Option String
  | .string s => some s
  | _ => none

def asObject? : Value → Option Members
  | .object ms => some ms
  | _ => none

def get? (v : Value) (k : String) : Option Value :=
  match v with
  | .object ms => lookup k ms
  | _ => none

/-- Sets a key of an object value; other values are left as they are. -/
def objectSet (v : Value) (k : String) (x : Value) : Value :=
  match v with
  | .object ms => .object (insertMember k x ms)
  | other => other

end Value

theorem lookup_insert (k : String) (v : Value) (ms : Members) :
    lookup k (insertMember k v ms) = some v := by
  induction ms with
  | nil => simp [insertMember, lookup]
  | cons m rest ih =>
    obtain ⟨k', v'⟩ := m
    simp only [insertMember]
    split
    · simp [lookup]
    · split
      · simp [lookup]
      · next h1 h2 => simp [lookup, h2, ih]

theorem lookup_insert_ne (k j : String) (v : Value) (ms : Members) (h : j ≠ k) :
    lookup j (insertMember k v ms) = lookup j ms := by
  induction ms with
  | nil => simp [insertMember, lookup, h]
  | cons m rest ih =>
    obtain ⟨k', v'⟩ := m
    simp only [insertMember]
    split
    · simp [lookup, h]
    · split
      · next h1 h2 => subst h2; simp [lookup, h]
      · simp [lookup, ih]

end FunctionHost.Json
