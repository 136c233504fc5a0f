import FunctionHost.Text.Canonical
import FunctionHost.Url.Mapping
import FunctionHost.Url.CharClass
/-!
# International domain names

A domain is brought to its ASCII form as Unicode IDNA compatibility processing does it, without
transitional mapping, checks of hyphens or limits on lengths:

1. Each character is mapped: ASCII upper-case letters to lower case, and past ASCII as the
   mapping table says (kept, replaced, dropped, or refused). A domain holding a character that
   may not appear in a host (blanks and controls, `%`, `#`, `/`, `:`, `<`, `>`, `?`, `@`, `[`,
   `\`, `]`, `^`, `|`), a C1 control, or a refused character is refused.
2. The result is brought to normalization form C and split into labels at dots. A label that
   starts with `xn--` must be ASCII and valid Punycode (RFC 3492) of a label in normalization
   form C with a character past ASCII, every character of which the mapping keeps as it is.
   Punycode is read from at most 2000 characters and written for at most 1000.
3. No label may start with a combining mark; a zero-width joiner must follow a virama, and a
   zero-width non-joiner must follow a virama or stand between characters that join towards it.
4. When a label holds right-to-left text or an Arabic number, every label must keep the
   bidirectional rules for domain names (RFC 5893).
5. A label with a character past ASCII is written as `xn--` and its Punycode.

Results:
* `digitValue_digitChar`: a Punycode digit reads back as its value.
-/
namespace FunctionHost.Url.Idna

/-! ## Punycode -/

/-- The character of a Punycode digit: `a`-`z` for 0-25, `0`-`9` for 26-35. -/
def digitChar (d : Nat) : Char :=
  if d < 26 then Char.ofNat (0x61 + d) else Char.ofNat (0x30 + d - 26)

def digitValue (c : Char) : Option Nat :=
  let n := c.toNat
  if 0x61 ≤ n ∧ n ≤ 0x7A then some (n - 0x61)
  else if 0x41 ≤ n ∧ n ≤ 0x5A then some (n - 0x41)
  else if 0x30 ≤ n ∧ n ≤ 0x39 then some (n - 0x30 + 26)
  else none

/-- The threshold of digit position `k` under `bias`: between 1 and 26. -/
def threshold (k bias : Nat) : Nat :=
  if k ≤ bias then 1 else if bias + 26 ≤ k then 26 else k - bias

theorem threshold_pos (k bias : Nat) : 1 ≤ threshold k bias := by
  unfold threshold; split
  · omega
  · split <;> omega

theorem threshold_le (k bias : Nat) : threshold k bias ≤ 26 := by
  unfold threshold; split
  · omega
  · split <;> omega

/-- Divides `delta` by 35 until it is at most 455, counting steps of 36 in `k`. -/
def adaptLoop (delta k : Nat) : Nat × Nat :=
  if 455 < delta then adaptLoop (delta / 35) (k + 36) else (delta, k)
termination_by delta
decreasing_by exact Nat.div_lt_self (by omega) (by omega)

/-- The bias after a code point: damping 700 on the first, 2 after. -/
def adapt (delta numpoints : Nat) (firstTime : Bool) : Nat :=
  let d0 := if firstTime then delta / 700 else delta / 2
  let d1 := d0 + d0 / numpoints
  let r := adaptLoop d1 0
  r.2 + 36 * r.1 / (r.1 + 38)

def encodeDigits (bias k q : Nat) : List Char :=
  let t := threshold k bias
  if q < t then [digitChar q]
  else digitChar (t + (q - t) % (36 - t)) :: encodeDigits bias (k + 36) ((q - t) / (36 - t))
termination_by q
decreasing_by
  have _h1 := threshold_pos k bias
  have _h2 := threshold_le k bias
  calc (q - threshold k bias) / (36 - threshold k bias)
      ≤ q - threshold k bias := Nat.div_le_self _ _
    _ < q := by omega

/-- The state of the encoder: output so far, delta, bias, code points handled. -/
structure Encoder where
  out : List Char
  delta : Nat
  bias : Nat
  handled : Nat

def encodeStep (basic m : Nat) (st : Encoder) (c : Char) : Encoder :=
  if c.toNat < m then { st with delta := st.delta + 1 }
  else if c.toNat = m then
    { out := st.out ++ encodeDigits st.bias 36 st.delta, delta := 0,
      bias := adapt st.delta (st.handled + 1) (st.handled == basic), handled := st.handled + 1 }
  else st

def encodeLoop (input : List Char) (basic : Nat) : List Nat → Nat → Encoder → Encoder
  | [], _, st => st
  | m :: rest, n, st =>
    let st1 := { st with delta := st.delta + (m - n) * (st.handled + 1) }
    let st2 := input.foldl (encodeStep basic m) st1
    encodeLoop input basic rest (m + 1) { st2 with delta := st2.delta + 1 }

def sortedDistinct (xs : List Nat) : List Nat :=
  xs.foldl (fun acc x => if acc.contains x then acc else x :: acc) [] |>.mergeSort (· ≤ ·)

/-- The Punycode of a label, without the `xn--` prefix. -/
def encode (input : List Char) : List Char :=
  let basic := input.filter (·.toNat < 0x80)
  let wide := sortedDistinct ((input.filter (0x80 ≤ ·.toNat)).map Char.toNat)
  let st := encodeLoop input basic.length wide 128
    { out := [], delta := 0, bias := 72, handled := basic.length }
  basic ++ (if basic.isEmpty then [] else ['-']) ++ st.out

def decodeDigits (bias : Nat) : List Char → Nat → Nat → Nat → Option (Nat × List Char)
  | [], _, _, _ => none
  | c :: rest, k, w, i =>
    match digitValue c with
    | none => none
    | some d =>
      let t := threshold k bias
      if d < t then some (i + d * w, rest)
      else decodeDigits bias rest (k + 36) (w * (36 - t)) (i + d * w)

def decodeLoop (n i bias : Nat) (out : List Nat) : List Char → Nat → Option (List Nat)
  | [], _ => some out
  | c :: rest, fuel + 1 =>
    match decodeDigits bias (c :: rest) 36 1 i with
    | none => none
    | some (i', more) =>
      let len := out.length + 1
      let bias' := adapt (i' - i) len (i == 0)
      let n' := n + i' / len
      let pos := i' % len
      if 0x10FFFF < n' then none
      else decodeLoop n' (pos + 1) bias' (out.take pos ++ [n'] ++ out.drop pos) more fuel
  | _ :: _, 0 => none

/-- Decodes a Punycode label (without `xn--`) to code points. -/
def decode (input : List Char) : Option (List Nat) :=
  let (basic, ext) :=
    match input.reverse.findIdx? (· == '-') with
    | some j =>
      let cut := input.length - 1 - j
      (input.take cut, input.drop (cut + 1))
    | none => ([], input)
  if basic.any (0x80 ≤ ·.toNat) then none
  else decodeLoop 128 0 72 (basic.map Char.toNat) ext (ext.length + 1)

/-! ## Mapping -/

/-- The mapping of one character: ASCII upper-case letters to lower case and the rest of ASCII
kept; past ASCII as the mapping table says, a disallowed character becoming the replacement
character, which no domain may hold. -/
def mapChar (c : Char) : List Char :=
  let n := c.toNat
  if n < 0x80 then
    if 0x41 ≤ n ∧ n ≤ 0x5A then [Char.ofNat (n + 0x20)] else [c]
  else match disposition n with
    | .keep => [c]
    | .replace cps => cps.map Char.ofNat
    | .drop => []
    | .refuse => [Char.ofNat 0xFFFD]

def keeps (cp : Nat) : Bool :=
  if cp < 0x80 then !(0x41 ≤ cp && cp ≤ 0x5A) else disposition cp == .keep

/-- Characters that may not appear in a domain. -/
def denied (c : Char) : Bool :=
  let n := c.toNat
  n ≤ 0x20 || n = 0x7F || (0x80 ≤ n && n ≤ 0x9F) || n = 0xFFFD ||
    "%#/:<>?@[\\]^|".toList.contains c

def labels (cs : List Char) : List (List Char) := cs.splitOn '.'

/-! ## Validity -/

/-- Whether a code point joins on its left: joining type left or dual, past the transparent
ones. -/
def joinsLeft (before : List Nat) : Bool :=
  match before.dropWhile (joiningType · == 'T') with
  | c :: _ => joiningType c == 'L' || joiningType c == 'D'
  | [] => false

/-- Whether a code point joins on its right: joining type right or dual, past the transparent
ones. -/
def joinsRight (after : List Nat) : Bool :=
  match after.dropWhile (joiningType · == 'T') with
  | c :: _ => joiningType c == 'R' || joiningType c == 'D'
  | [] => false

/-- Whether every zero-width joiner and non-joiner of a label stands where it may, given the
code points before the rest, nearest first: after a virama, or for a non-joiner between a
character that joins on its left and one that joins on its right. -/
def joinersFrom (before : List Nat) : List Nat → Bool
  | [] => true
  | c :: after =>
    let afterVirama := before.head?.any isVirama
    let ok :=
      if c = 0x200D then afterVirama
      else if c = 0x200C then afterVirama || (joinsLeft before && joinsRight after)
      else true
    ok && joinersFrom (c :: before) after

/-- Whether a label may stand: all ASCII, or not starting with a combining mark and with its
joiners where they may be. -/
def labelValid (cps : List Nat) : Bool :=
  cps.all (· < 0x80) || ((cps.head?.all fun c => !isMark c) && joinersFrom [] cps)

/-- Whether a code point is written right to left, or is an Arabic number. -/
def isRtl (cp : Nat) : Bool :=
  0x80 ≤ cp && (bidiClass cp == 'R' || bidiClass cp == 'A' || bidiClass cp == 'N')

/-- Whether a label of a domain with right-to-left text keeps the bidirectional rules: a
left-to-right label holds only left-to-right characters, European numbers, separators,
terminators, neutrals and marks, and ends, past its marks, in a left-to-right character or a
European number; a right-to-left label holds no left-to-right character, not both kinds of
number, and ends, past its marks, in a right-to-left character or a number. -/
def bidiLabelOk (cps : List Nat) : Bool :=
  let classes := cps.map bidiClass
  let last := (classes.reverse.dropWhile (· == 'M')).head?
  match classes with
  | [] => true
  | first :: _ =>
    if first == 'L' then
      classes.all (fun k => "LESTCOBM".toList.contains k) &&
        last.any (fun k => k == 'L' || k == 'E')
    else if first == 'R' || first == 'A' then
      classes.all (fun k => "RANESTCOBM".toList.contains k) &&
        last.any (fun k => "RAEN".toList.contains k) &&
        !(classes.contains 'E' && classes.contains 'N')
    else false

/-! ## Labels and domains -/

/-- The most characters Punycode is decoded from. -/
def decodeLimit : Nat := 2000

/-- The most characters of a label encoded as Punycode. -/
def encodeLimit : Nat := 1000

/-- The Unicode form of one mapped label: a label that starts with `xn--` must be ASCII, at most
`decodeLimit` characters after the prefix, and Punycode of a label in normalization form C with a character past ASCII, none of whose
characters is refused or changed by the mapping; any other label stands for itself. -/
def labelToUnicode (label : List Char) : Option (List Nat) :=
  if label.take 4 == ['x', 'n', '-', '-'] then
    if !label.all (·.toNat < 0x80) || decodeLimit < label.length - 4 then none
    else match decode (label.drop 4) with
    | some cps =>
      if cps.isEmpty || cps.all (· < 0x80) || (cps.map Char.ofNat).any denied || !cps.all keeps ||
        Text.Canonical.nfc cps != cps
      then none else some cps
    | none => none
  else some (label.map Char.toNat)

/-- The ASCII form of one mapped label; a label past ASCII longer than the encoder takes is
refused. -/
def labelToAscii (label : List Char) : Option (List Char) :=
  if label.all (·.toNat < 0x80) then some label
  else if encodeLimit < label.length then none
  else some (['x', 'n', '-', '-'] ++ encode label)

/-- The ASCII form of a domain, or `none` when it is refused. -/
def toAscii (s : String) : Option String := do
  let mapped := (Text.Canonical.nfc ((s.toList.flatMap mapChar).map Char.toNat)).map Char.ofNat
  if mapped.any denied then none
  let parts := labels mapped
  let unicode ← parts.mapM labelToUnicode
  if !unicode.all labelValid then none
  if unicode.any (·.any isRtl) && !unicode.all bidiLabelOk then none
  let ascii ← parts.mapM labelToAscii
  return String.ofList (List.intercalate ['.'] ascii)

theorem digitValue_digitChar {d : Nat} (h : d < 36) : digitValue (digitChar d) = some d := by
  have hall : ∀ e ∈ List.range 36, digitValue (digitChar e) = some e := by decide
  exact hall d (List.mem_range.mpr h)

-- a lower-case ASCII name such as `example.com` is kept as it is
example : toAscii "example.com" = some "example.com" := by
  decide

end FunctionHost.Url.Idna
