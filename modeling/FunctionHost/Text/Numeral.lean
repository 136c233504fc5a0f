/-!
# Decimal numerals

Readers of integers written in decimal: an optional sign (`+` always, `-` only for signed
readers), then one or more ASCII digits and nothing else, the value within a fixed width.

Results:
* `readUnsigned_digits`: a non-empty run of digits below the bound reads as its value.
* `readUnsigned_minus`: unsigned readers refuse a leading minus sign.
-/
namespace FunctionHost.Text

def digitsValue (ds : List Char) : Nat :=
  ds.foldl (fun acc c => acc * 10 + (c.toNat - '0'.toNat)) 0

def readDigits? (ds : List Char) : Option Nat :=
  if ds ≠ [] ∧ ds.all Char.isDigit then some (digitsValue ds) else none

/-- Reads an unsigned integer below `2 ^ bits`: an optional `+`, then digits. -/
def readUnsigned? (bits : Nat) (s : String) : Option Nat :=
  let ds := match s.toList with
    | '+' :: ds => ds
    | ds => ds
  match readDigits? ds with
  | some n => if n < Nat.pow 2 bits then some n else none
  | none => none

/-- Reads a signed integer in `[-2 ^ (bits - 1), 2 ^ (bits - 1))`: an optional `+` or `-`,
then digits. -/
def readSigned? (bits : Nat) (s : String) : Option Int :=
  let (neg, ds) := match s.toList with
    | '+' :: ds => (false, ds)
    | '-' :: ds => (true, ds)
    | ds => (false, ds)
  match readDigits? ds with
  | some n =>
    let v : Int := if neg then -(n : Int) else n
    if -((Nat.pow 2 (bits - 1) : Nat) : Int) ≤ v ∧ v < ((Nat.pow 2 (bits - 1) : Nat) : Int) then some v
    else none
  | none => none

theorem readUnsigned_digits (bits : Nat) (ds : List Char) (h : ds ≠ [])
    (hd : ds.all Char.isDigit = true) (hb : digitsValue ds < Nat.pow 2 bits) (hp : ds.head? ≠ some '+') :
    readUnsigned? bits (String.ofList ds) = some (digitsValue ds) := by
  rw [Nat.pow_eq] at hb
  unfold readUnsigned?
  have hds : (match (String.ofList ds).toList with | '+' :: ds => ds | ds => ds) = ds := by
    simp only [String.toList_ofList]
    cases ds with
    | nil => rfl
    | cons c cs =>
      by_cases hc : c = '+'
      · subst hc; simp at hp
      · simp [hc]
  rw [hds]
  simp [readDigits?, h, hd, hb]

theorem readUnsigned_minus (bits : Nat) (rest : String) :
    readUnsigned? bits ("-" ++ rest) = none := by
  simp [readUnsigned?, readDigits?]

end FunctionHost.Text
