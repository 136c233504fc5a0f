/-!
# Reading bytes as text, replacing what is not UTF-8

Bytes are read one character at a time. The lead byte says how many continuation bytes follow
and which values the first of them may take (RFC 3629 §4: after `E0` only `A0` to `BF`, after
`ED` only `80` to `9F`, after `F0` only `90` to `BF`, after `F4` only `80` to `8F`); every other
continuation byte is `80` to `BF`.

Where the bytes stop being UTF-8, the longest start of a character that was still possible is
replaced by one U+FFFD and reading goes on at the byte that ruled it out. A lead byte that
starts no character is replaced on its own.
-/
namespace FunctionHost.Text

/-- For a lead byte, the number of continuation bytes and the range of the first one. -/
def leadShape (b : Nat) : Option (Nat × Nat × Nat) :=
  if 0xC2 ≤ b ∧ b ≤ 0xDF then some (1, 0x80, 0xBF)
  else if b = 0xE0 then some (2, 0xA0, 0xBF)
  else if b = 0xED then some (2, 0x80, 0x9F)
  else if 0xE1 ≤ b ∧ b ≤ 0xEF then some (2, 0x80, 0xBF)
  else if b = 0xF0 then some (3, 0x90, 0xBF)
  else if b = 0xF4 then some (3, 0x80, 0x8F)
  else if 0xF1 ≤ b ∧ b ≤ 0xF3 then some (3, 0x80, 0xBF)
  else none

/-- Reads `owed` continuation bytes into `acc`; the first must lie in `lo` to `hi`. Gives the
code point and the rest, or the rest from the first byte that does not fit. -/
def continuation (acc owed lo hi : Nat) : List UInt8 → Except (List UInt8) (Nat × List UInt8)
  | [] => if owed = 0 then .ok (acc, []) else .error []
  | b :: rest =>
    if owed = 0 then .ok (acc, b :: rest)
    else if lo ≤ b.toNat ∧ b.toNat ≤ hi then
      continuation (acc * 64 + (b.toNat - 0x80)) (owed - 1) 0x80 0xBF rest
    else .error (b :: rest)

/-- The lead byte's own bits for a character of `owed` continuation bytes. -/
def leadBits (b owed : Nat) : Nat :=
  if owed = 1 then b % 32 else if owed = 2 then b % 16 else b % 8

/-- The characters of a byte list, each maximal ill-formed part replaced by U+FFFD. -/
def decodeLossy (bytes : List UInt8) : String :=
  String.ofList (go bytes.length bytes [])
where
  /-- Reads with a fuel bound by the number of bytes left. -/
  go : Nat → List UInt8 → List Char → List Char
    | 0, _, acc => acc.reverse
    | _, [], acc => acc.reverse
    | fuel + 1, b :: rest, acc =>
      if b.toNat < 0x80 then go fuel rest (Char.ofNat b.toNat :: acc)
      else match leadShape b.toNat with
        | none => go fuel rest ('�' :: acc)
        | some (owed, lo, hi) =>
          match continuation (leadBits b.toNat owed) owed lo hi rest with
          | .ok (cp, more) => go fuel more (Char.ofNat cp :: acc)
          | .error more => go fuel more ('�' :: acc)

-- aSCII bytes read as the characters they code
example : decodeLossy [104, 105] = "hi" := by decide

end FunctionHost.Text
