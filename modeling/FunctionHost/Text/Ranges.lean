/-!
# Tables of code point ranges

Character property tables are kept as text and read once into arrays sorted by the first code
point of each range. A code point's entry is the last one that starts at or before it, found by
halving the search interval.

Numbers in table text are lower-case hexadecimal.

Tables of ranges give each range as `first-last`, optionally followed by a letter for the value
the range has; entries are separated by semicolons.

Results:
* `lastAtOrBefore_key`: the entry found starts at or before the code point looked up.
-/
namespace FunctionHost.Text

def isHexDigit (c : Char) : Bool := ('0' ≤ c && c ≤ '9') || ('a' ≤ c && c ≤ 'f')

def hexDigitValue (c : Char) : Nat :=
  if c ≤ '9' then c.toNat - 48 else c.toNat - 87

def hexValue (cs : List Char) : Nat := cs.foldl (fun n c => 16 * n + hexDigitValue c) 0

/-- Narrows `[lo, hi)` to the last index whose key is at or before `x`, in an array sorted by
key. -/
def searchBetween {α : Type} (key : α → Nat) (xs : Array α) (x lo hi : Nat) : Nat :=
  if lo + 1 < hi then
    let mid := (lo + hi) / 2
    if (xs[mid]?.map key).getD 0 ≤ x then searchBetween key xs x mid hi
    else searchBetween key xs x lo mid
  else lo
termination_by hi - lo

/-- The last entry of an array sorted by key whose key is at or before `x`, if there is one. -/
def lastAtOrBefore {α : Type} (key : α → Nat) (xs : Array α) (x : Nat) : Option α :=
  match xs[searchBetween key xs x 0 xs.size]? with
  | some e => if key e ≤ x then some e else none
  | none => none

/-- Reads a range `first-last` followed by a letter, if any (a blank when there is none). -/
def rangeOf (cs : List Char) : Option (Nat × Nat × Char) :=
  let first := cs.takeWhile isHexDigit
  match cs.dropWhile isHexDigit with
  | '-' :: rest =>
    let last := rest.takeWhile isHexDigit
    let tag := (rest.dropWhile isHexDigit).headD ' '
    if first.isEmpty || last.isEmpty then none else some (hexValue first, hexValue last, tag)
  | _ => none

/-- Reads a code point followed by a letter, if any (a blank when there is none). -/
def pointOf (cs : List Char) : Option (Nat × Char) :=
  let digits := cs.takeWhile isHexDigit
  if digits.isEmpty then none else some (hexValue digits, (cs.dropWhile isHexDigit).headD ' ')

def readRanges (text : String) : Array (Nat × Nat × Char) :=
  ((text.toList.splitOn ';').filterMap rangeOf).toArray

/-- The letter of the range holding a code point, if one does. -/
def rangeTag (table : Array (Nat × Nat × Char)) (cp : Nat) : Option Char :=
  match lastAtOrBefore (·.1) table cp with
  | some (_, last, tag) => if cp ≤ last then some tag else none
  | none => none

-- hexadecimal text reads as its value
example : hexValue "1f4a9".toList = 0x1F4A9 := by
  decide

-- a range entry reads as its two ends and its letter
example : rangeOf "622-625R".toList = some (0x622, 0x625, 'R') := by
  decide

theorem lastAtOrBefore_key {α : Type} (key : α → Nat) (xs : Array α) (x : Nat) (e : α)
    (h : lastAtOrBefore key xs x = some e) : key e ≤ x := by
  unfold lastAtOrBefore at h
  split at h
  · split at h
    · cases h
      assumption
    · cases h
  · cases h

end FunctionHost.Text
