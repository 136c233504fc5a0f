import FunctionHost.Url.Parse
/-!
# Form-encoded query pairs read back

A query that a client extends with name-value pairs reads back, as form pairs, as the pairs it
held followed by the new ones, in order, for every name and value. Three facts carry it.

* Reading UTF-8: the lossy reader gives back every text from its UTF-8 bytes. A character's
  bytes are a lead byte whose shape fixes how many continuation bytes follow and the range of the
  first; the ranges that rule out overlong forms and surrogates never rule out an encoded
  character, because a character is never a surrogate.
* Reading an escape: every byte written in form encoding reads back as that byte, whatever
  follows, since the written characters are ASCII, `+` stands only for a space and `%` only
  starts an escape.
* Cutting: written names and values hold neither `&` nor `=`, so the pieces of a query are the
  written pairs and each cuts at its own `=`.

Results:
* `toUTF8_toList`: a text's bytes are its characters' UTF-8 bytes.
* `go_utf8EncodeChar`, `decodeLossy_toUTF8`: a character, and a text, read back from UTF-8.
* `percentDecode_formByte`, `formDecode_formEncode`: a name or value reads back.
* `formPairs_append_amp`, `formPairs_formPair`: the pieces of a query.
* `formPairs_appendPairs`: the pairs appended to a URL's query read back after its own.
-/
namespace FunctionHost

namespace Text

/-! ## UTF-8 read back -/

theorem continuation_zero (acc lo hi : Nat) (rest : List UInt8) :
    continuation acc 0 lo hi rest = .ok (acc, rest) := by
  cases rest <;> rfl

theorem continuation_succ (acc k lo hi : Nat) (b : UInt8) (rest : List UInt8)
    (hlo : lo ≤ b.toNat) (hhi : b.toNat ≤ hi) :
    continuation acc (k + 1) lo hi (b :: rest) =
      continuation (acc * 64 + (b.toNat - 0x80)) k 0x80 0xBF rest := by
  simp only [continuation, Nat.add_one_ne_zero, if_false, if_pos (And.intro hlo hhi),
    Nat.add_sub_cancel]

/-- One character read from a lead byte and its continuation bytes. -/
theorem go_lead (n : Nat) (b : UInt8) (rest : List UInt8) (acc : List Char)
    (hb : 0x80 ≤ b.toNat) {owed lo hi : Nat} (hs : leadShape b.toNat = some (owed, lo, hi))
    {cp : Nat} {more : List UInt8}
    (hc : continuation (leadBits b.toNat owed) owed lo hi rest = .ok (cp, more)) :
    decodeLossy.go (n + 1) (b :: rest) acc = decodeLossy.go n more (Char.ofNat cp :: acc) := by
  have hn : ¬ b.toNat < 0x80 := by omega
  simp only [decodeLossy.go, if_neg hn, hs, hc]

theorem go_ascii (n : Nat) (b : UInt8) (rest : List UInt8) (acc : List Char) (h : b.toNat < 0x80) :
    decodeLossy.go (n + 1) (b :: rest) acc = decodeLossy.go n rest (Char.ofNat b.toNat :: acc) := by
  simp only [decodeLossy.go, if_pos h]

theorem toNat_byte {x : Nat} (h : x < 256) : (UInt8.ofNat x).toNat = x := by
  simp only [UInt8.toNat_ofNat']
  omega

theorem leadShape_three {v : Nat} (h1 : 0x7FF < v) (h2 : v ≤ 0xFFFF)
    (hs : v < 0xD800 ∨ 0xDFFF < v) :
    ∃ lo hi, leadShape (v / 4096 % 16 + 0xE0) = some (2, lo, hi) ∧
      lo ≤ v / 64 % 64 + 0x80 ∧ v / 64 % 64 + 0x80 ≤ hi := by
  unfold leadShape
  by_cases hE0 : v < 0x1000
  · exact ⟨0xA0, 0xBF, by rw [if_neg (by omega), if_pos (by omega)], by omega, by omega⟩
  by_cases hED : v / 4096 = 13
  · exact ⟨0x80, 0x9F, by rw [if_neg (by omega), if_neg (by omega), if_pos (by omega)],
      by omega, by omega⟩
  · exact ⟨0x80, 0xBF, by rw [if_neg (by omega), if_neg (by omega), if_neg (by omega),
      if_pos (by omega)], by omega, by omega⟩

theorem leadShape_four {v : Nat} (h1 : 0xFFFF < v) (h2 : v < 0x110000) :
    ∃ lo hi, leadShape (v / 262144 % 8 + 0xF0) = some (3, lo, hi) ∧
      lo ≤ v / 4096 % 64 + 0x80 ∧ v / 4096 % 64 + 0x80 ≤ hi := by
  unfold leadShape
  by_cases hF0 : v < 0x40000
  · exact ⟨0x90, 0xBF, by rw [if_neg (by omega), if_neg (by omega), if_neg (by omega),
      if_neg (by omega), if_pos (by omega)], by omega, by omega⟩
  by_cases hF4 : 0x100000 ≤ v
  · exact ⟨0x80, 0x8F, by rw [if_neg (by omega), if_neg (by omega), if_neg (by omega),
      if_neg (by omega), if_neg (by omega), if_pos (by omega)], by omega, by omega⟩
  · exact ⟨0x80, 0xBF, by rw [if_neg (by omega), if_neg (by omega), if_neg (by omega),
      if_neg (by omega), if_neg (by omega), if_neg (by omega), if_pos (by omega)],
      by omega, by omega⟩

theorem go_two {v : Nat} (h1 : 0x7F < v) (h2 : v ≤ 0x7FF) (n : Nat) (rest : List UInt8)
    (acc : List Char) :
    decodeLossy.go (n + 1)
        (UInt8.ofNat (v / 64 % 32 + 0xc0) :: UInt8.ofNat (v % 64 + 0x80) :: rest) acc =
      decodeLossy.go n rest (Char.ofNat v :: acc) := by
  have hb0 : (UInt8.ofNat (v / 64 % 32 + 0xc0)).toNat = v / 64 % 32 + 0xc0 := toNat_byte (by omega)
  have hb1 : (UInt8.ofNat (v % 64 + 0x80)).toNat = v % 64 + 0x80 := toNat_byte (by omega)
  have hs : leadShape (v / 64 % 32 + 0xc0) = some (1, 0x80, 0xBF) := by
    unfold leadShape
    rw [if_pos (by omega)]
  have hcont : continuation (leadBits (v / 64 % 32 + 0xc0) 1) 1 0x80 0xBF
      (UInt8.ofNat (v % 64 + 0x80) :: rest) = .ok (v, rest) := by
    rw [continuation_succ _ _ _ _ _ _ (by omega) (by omega), continuation_zero, hb1]
    simp only [leadBits, if_true, Except.ok.injEq, Prod.mk.injEq, and_true]
    omega
  rw [go_lead n _ _ acc (by omega) (hb0 ▸ hs) (hb0 ▸ hcont)]

/-- The three-byte form of a code point that is not a surrogate reads back as it. -/
theorem go_three {v : Nat} (h1 : 0x7FF < v) (h2 : v ≤ 0xFFFF) (hs : v < 0xD800 ∨ 0xDFFF < v)
    (n : Nat) (rest : List UInt8) (acc : List Char) :
    decodeLossy.go (n + 1)
        (UInt8.ofNat (v / 4096 % 16 + 0xe0) :: UInt8.ofNat (v / 64 % 64 + 0x80) ::
          UInt8.ofNat (v % 64 + 0x80) :: rest) acc =
      decodeLossy.go n rest (Char.ofNat v :: acc) := by
  obtain ⟨lo, hi, hlead, hlo, hhi⟩ := leadShape_three h1 h2 hs
  have hb0 : (UInt8.ofNat (v / 4096 % 16 + 0xe0)).toNat = v / 4096 % 16 + 0xe0 :=
    toNat_byte (by omega)
  have hb1 : (UInt8.ofNat (v / 64 % 64 + 0x80)).toNat = v / 64 % 64 + 0x80 := toNat_byte (by omega)
  have hb2 : (UInt8.ofNat (v % 64 + 0x80)).toNat = v % 64 + 0x80 := toNat_byte (by omega)
  have hcont : continuation (leadBits (v / 4096 % 16 + 0xe0) 2) 2 lo hi
      (UInt8.ofNat (v / 64 % 64 + 0x80) :: UInt8.ofNat (v % 64 + 0x80) :: rest) =
        .ok (v, rest) := by
    rw [continuation_succ _ _ _ _ _ _ (by omega) (by omega),
      continuation_succ _ _ _ _ _ _ (by omega) (by omega), continuation_zero, hb1, hb2]
    simp only [leadBits, Nat.reduceEqDiff, if_false, if_true, Except.ok.injEq,
      Prod.mk.injEq, and_true]
    omega
  rw [go_lead n _ _ acc (by omega) (hb0 ▸ hlead) (hb0 ▸ hcont)]

theorem go_four {v : Nat} (h1 : 0xFFFF < v) (h2 : v < 0x110000) (n : Nat) (rest : List UInt8)
    (acc : List Char) :
    decodeLossy.go (n + 1)
        (UInt8.ofNat (v / 262144 % 8 + 0xf0) :: UInt8.ofNat (v / 4096 % 64 + 0x80) ::
          UInt8.ofNat (v / 64 % 64 + 0x80) :: UInt8.ofNat (v % 64 + 0x80) :: rest) acc =
      decodeLossy.go n rest (Char.ofNat v :: acc) := by
  obtain ⟨lo, hi, hlead, hlo, hhi⟩ := leadShape_four h1 h2
  have hb0 : (UInt8.ofNat (v / 262144 % 8 + 0xf0)).toNat = v / 262144 % 8 + 0xf0 :=
    toNat_byte (by omega)
  have hb1 : (UInt8.ofNat (v / 4096 % 64 + 0x80)).toNat = v / 4096 % 64 + 0x80 :=
    toNat_byte (by omega)
  have hb2 : (UInt8.ofNat (v / 64 % 64 + 0x80)).toNat = v / 64 % 64 + 0x80 := toNat_byte (by omega)
  have hb3 : (UInt8.ofNat (v % 64 + 0x80)).toNat = v % 64 + 0x80 := toNat_byte (by omega)
  have hcont : continuation (leadBits (v / 262144 % 8 + 0xf0) 3) 3 lo hi
      (UInt8.ofNat (v / 4096 % 64 + 0x80) :: UInt8.ofNat (v / 64 % 64 + 0x80) ::
        UInt8.ofNat (v % 64 + 0x80) :: rest) = .ok (v, rest) := by
    rw [continuation_succ _ _ _ _ _ _ (by omega) (by omega),
      continuation_succ _ _ _ _ _ _ (by omega) (by omega),
      continuation_succ _ _ _ _ _ _ (by omega) (by omega), continuation_zero, hb1, hb2, hb3]
    simp only [leadBits, Nat.reduceEqDiff, if_false, Except.ok.injEq, Prod.mk.injEq, and_true]
    omega
  rw [go_lead n _ _ acc (by omega) (hb0 ▸ hlead) (hb0 ▸ hcont)]

/-- The UTF-8 bytes of a character read back as that character: one case per width, the
character's validity ruling out surrogates in the three-byte case. -/
theorem go_utf8EncodeChar (n : Nat) (c : Char) (rest : List UInt8) (acc : List Char) :
    decodeLossy.go (n + 1) (String.utf8EncodeChar c ++ rest) acc =
      decodeLossy.go n rest (c :: acc) := by
  have hv : c.toNat < 0xD800 ∨ (0xDFFF < c.toNat ∧ c.toNat < 0x110000) := c.valid
  generalize hcv : c.toNat = v at hv
  have hc : c = Char.ofNat v := by rw [← hcv, Char.ofNat_toNat]
  have hval : c.val.toNat = v := hcv
  simp only [String.utf8EncodeChar, hval]
  split
  · rw [List.cons_append, List.nil_append, go_ascii _ _ _ _ (by rw [toNat_byte (by omega)]; omega),
      toNat_byte (by omega), hc]
  split
  · rw [List.cons_append, List.cons_append, List.nil_append, go_two (by omega) (by omega), hc]
  split
  · rw [List.cons_append, List.cons_append, List.cons_append, List.nil_append,
      go_three (by omega) (by omega) (by omega), hc]
  · rw [List.cons_append, List.cons_append, List.cons_append, List.cons_append,
      List.nil_append, go_four (by omega) (by omega), hc]

theorem length_le_length_flatMap (cs : List Char) :
    cs.length ≤ (cs.flatMap String.utf8EncodeChar).length := by
  induction cs with
  | nil => simp
  | cons c cs ih =>
    have hc : 0 < (String.utf8EncodeChar c).length := by
      rw [String.length_utf8EncodeChar]
      exact Char.utf8Size_pos c
    simp only [List.flatMap_cons, List.length_append, List.length_cons]
    omega

/-- Reading the UTF-8 bytes of characters gives them back, after what was read before. -/
theorem go_flatMap (cs : List Char) (n : Nat) (acc : List Char) (h : cs.length ≤ n) :
    decodeLossy.go n (cs.flatMap String.utf8EncodeChar) acc = acc.reverse ++ cs := by
  induction cs generalizing n acc with
  | nil => cases n <;> simp [decodeLossy.go]
  | cons c cs ih =>
    obtain ⟨k, rfl⟩ : ∃ k, n = k + 1 := ⟨n - 1, by simp at h; omega⟩
    rw [List.flatMap_cons, go_utf8EncodeChar, ih k _ (by simp at h; omega)]
    simp

theorem byteArray_toList (bs : ByteArray) : bs.toList = bs.data.toList := by
  -- the loop keeps the bytes taken so far, reversed, in front of the ones still to take; the
  -- induction is on how many are still to take
  suffices h : ∀ k i r, bs.size - i = k →
      ByteArray.toList.loop bs i r = r.reverse ++ bs.data.toList.drop i by
    simpa [ByteArray.toList] using h _ 0 [] rfl
  intro k
  induction k with
  | zero =>
    intro i r hk
    have hi : ¬ i < bs.size := by omega
    have hl : bs.data.toList.length ≤ i := by simpa using hi
    rw [ByteArray.toList.loop, if_neg hi]
    simp [List.drop_eq_nil_of_le hl]
  | succ k ih =>
    intro i r hk
    have hi : i < bs.size := by omega
    have hl : i < bs.data.toList.length := by simpa using hi
    have hd : i < bs.data.size := hi
    rw [ByteArray.toList.loop, if_pos hi, ih (i + 1) _ (by omega), List.drop_eq_getElem_cons hl]
    simp [ByteArray.get!, getElem!_pos bs.data i hd]

theorem toUTF8_toList (s : String) : s.toUTF8.toList = s.toList.flatMap String.utf8EncodeChar := by
  rw [String.toUTF8_eq_toByteArray, ← String.utf8Encode_toList, byteArray_toList]
  simp [List.utf8Encode]

theorem decodeLossy_toUTF8 (s : String) : decodeLossy s.toUTF8.toList = s := by
  rw [decodeLossy, toUTF8_toList, go_flatMap _ _ _ (length_le_length_flatMap _)]
  simp

end Text

namespace Url

open Text

/-! ## A name or a value read back -/

@[simp] theorem formBytes_append (a b : List Char) :
    formBytes (a ++ b) = formBytes a ++ formBytes b := List.flatMap_append

theorem formBytes_cons (c : Char) (cs : List Char) :
    formBytes (c :: cs) = formBytes [c] ++ formBytes cs := by
  simp [formBytes]

theorem toNat_charOfNat {n : Nat} (h : n < 0xD800) : (Char.ofNat n).toNat = n := by
  rw [Char.ofNat, dif_pos (Or.inl h : n.isValidChar)]
  rfl

theorem formBytes_ascii {c : Char} (hc : c.toNat < 0x80) (hp : c ≠ '+') :
    formBytes [c] = [UInt8.ofNat c.toNat] := by
  have hv : c.val.toNat = c.toNat := rfl
  simp only [formBytes, List.flatMap_cons, List.flatMap_nil, List.append_nil, if_neg hp,
    String.utf8EncodeChar, hv, if_pos (show c.toNat ≤ 0x7f by omega)]

theorem percentDecode_cons {b : UInt8} (h : b ≠ 0x25) (more : List UInt8) :
    percentDecode (b :: more) = b :: percentDecode more := by
  match more with
  | [] => rfl
  | [_] => rfl
  | _ :: _ :: _ =>
    have hb : (b == 0x25) = false := by simpa using h
    rw [percentDecode, hb]
    rfl

theorem hexUpper_facts : ∀ d, d < 16 →
    hexNibble? (hexUpper d) = some d ∧ (hexUpper d).toNat < 0x80 ∧ hexUpper d ≠ '+' ∧
      hexUpper d ≠ '&' ∧ hexUpper d ≠ '=' := by
  decide

/-- What a byte is written as: itself when it is a letter, a digit or one of `*-._`, `+` for a
space, `%XX` otherwise. -/
theorem formByte_cases (b : UInt8) :
    (b.toNat < 0x80 ∧ (Char.ofNat b.toNat).toNat = b.toNat ∧ b ≠ 0x25 ∧
        Char.ofNat b.toNat ≠ '+' ∧ Char.ofNat b.toNat ≠ '&' ∧ Char.ofNat b.toNat ≠ '=' ∧
        formByte b = [Char.ofNat b.toNat]) ∨
      (b = 0x20 ∧ formByte b = ['+']) ∨ formByte b = escapeByte b := by
  unfold formByte
  dsimp only
  by_cases hkeep : (decide (b < 0x80) && ((Char.ofNat b.toNat).isAlphanum ||
      Char.ofNat b.toNat == '*' || Char.ofNat b.toNat == '-' || Char.ofNat b.toNat == '.' ||
      Char.ofNat b.toNat == '_')) = true
  · left
    rw [if_pos hkeep]
    simp only [Bool.and_eq_true, decide_eq_true_eq] at hkeep
    obtain ⟨hlt, hclass⟩ := hkeep
    have hlt' : b.toNat < 0x80 := hlt
    -- `%`, `+`, `&` and `=` are none of the characters kept as they are
    refine ⟨hlt', toNat_charOfNat (by omega), ?_, ?_, ?_, ?_, rfl⟩
    · rintro rfl
      exact absurd hclass (by decide)
    · intro h
      rw [h] at hclass
      exact absurd hclass (by decide)
    · intro h
      rw [h] at hclass
      exact absurd hclass (by decide)
    · intro h
      rw [h] at hclass
      exact absurd hclass (by decide)
  · right
    rw [if_neg hkeep]
    by_cases hsp : (b == 0x20) = true
    · left
      rw [if_pos hsp]
      exact ⟨by simpa using hsp, rfl⟩
    · right
      rw [if_neg hsp]

theorem percentDecode_escapeByte (b : UInt8) (more : List UInt8) :
    percentDecode (formBytes (escapeByte b) ++ more) = b :: percentDecode more := by
  have hb : b.toNat < 256 := UInt8.toNat_lt_size b
  have hhi := hexUpper_facts (b.toNat / 16) (by omega)
  have hlo := hexUpper_facts (b.toNat % 16) (by omega)
  have hh : (UInt8.ofNat (hexUpper (b.toNat / 16)).toNat).toNat = (hexUpper (b.toNat / 16)).toNat :=
    by simp only [UInt8.toNat_ofNat']; omega
  have hl : (UInt8.ofNat (hexUpper (b.toNat % 16)).toNat).toNat = (hexUpper (b.toNat % 16)).toNat :=
    by simp only [UInt8.toNat_ofNat']; omega
  have hbytes : formBytes (escapeByte b) = [0x25, UInt8.ofNat (hexUpper (b.toNat / 16)).toNat,
      UInt8.ofNat (hexUpper (b.toNat % 16)).toNat] := by
    rw [escapeByte, formBytes_cons '%', formBytes_cons (hexUpper _),
      formBytes_ascii (by decide) (by decide), formBytes_ascii hhi.2.1 hhi.2.2.1,
      formBytes_ascii hlo.2.1 hlo.2.2.1]
    rfl
  rw [hbytes, List.cons_append, List.cons_append, List.cons_append, List.nil_append,
    percentDecode]
  simp only [beq_self_eq_true, if_true, hh, hl, Char.ofNat_toNat, hhi.1, hlo.1,
    show b.toNat / 16 * 16 + b.toNat % 16 = b.toNat by omega, UInt8.ofNat_toNat]

/-- Every byte written in form encoding reads back as that byte, whatever follows. -/
theorem percentDecode_formByte (b : UInt8) (more : List UInt8) :
    percentDecode (formBytes (formByte b) ++ more) = b :: percentDecode more := by
  rcases formByte_cases b with ⟨hlt, hc, hpct, hp, -, -, hw⟩ | ⟨rfl, hw⟩ | hw
  · rw [hw, formBytes_ascii (by omega) hp, hc, UInt8.ofNat_toNat, List.singleton_append,
      percentDecode_cons hpct]
  · have hplus : formBytes ['+'] = [0x20] := rfl
    rw [hw, hplus, List.singleton_append, percentDecode_cons (by decide)]
  · rw [hw, percentDecode_escapeByte]

theorem percentDecode_formBytes (bs more : List UInt8) :
    percentDecode (formBytes (bs.flatMap formByte) ++ more) = bs ++ percentDecode more := by
  induction bs with
  | nil => rfl
  | cons b bs ih =>
    rw [List.flatMap_cons, formBytes_append, List.append_assoc, percentDecode_formByte, ih,
      List.cons_append]

/-- A name or a value written in form encoding reads back as itself. -/
theorem formDecode_formEncode (s : String) : formDecode (formEncode s).toList = s := by
  have h := percentDecode_formBytes s.toUTF8.toList []
  rw [List.append_nil, show percentDecode [] = [] from rfl, List.append_nil] at h
  rw [formDecode, formEncode, String.toList_ofList, h]
  exact decodeLossy_toUTF8 s

/-! ## The pieces of a query -/

theorem formEncode_no_sep (s : String) : ∀ c ∈ (formEncode s).toList, c ≠ '&' ∧ c ≠ '=' := by
  intro c hc
  rw [formEncode, String.toList_ofList] at hc
  obtain ⟨b, -, hb⟩ := List.mem_flatMap.mp hc
  have hbn : b.toNat < 256 := UInt8.toNat_lt_size b
  rcases formByte_cases b with ⟨-, -, -, -, hamp, heq, hw⟩ | ⟨-, hw⟩ | hw <;>
    rw [hw] at hb
  · simp only [List.mem_singleton] at hb
    exact hb ▸ ⟨hamp, heq⟩
  · simp only [List.mem_singleton] at hb
    exact hb ▸ ⟨by decide, by decide⟩
  · simp only [escapeByte, List.mem_cons, List.not_mem_nil, or_false] at hb
    rcases hb with rfl | rfl | rfl
    · exact ⟨by decide, by decide⟩
    · exact (hexUpper_facts _ (by omega)).2.2.2
    · exact (hexUpper_facts _ (by omega)).2.2.2

theorem formPairs_append_amp (a b : String) :
    formPairs (a ++ "&" ++ b) = formPairs a ++ formPairs b := by
  have h : (a ++ "&" ++ b).toList = a.toList ++ '&' :: b.toList := by simp
  simp only [formPairs, h, List.splitOn_append_cons_self, List.filter_append, List.map_append]

theorem formPairs_empty : formPairs "" = [] := by
  simp [formPairs]

theorem formPairs_piece (piece : List Char) (hne : piece ≠ []) (hamp : '&' ∉ piece) :
    formPairs (String.ofList piece) =
      [(formDecode (piece.takeWhile (· != '=')), formDecode ((piece.dropWhile (· != '=')).drop 1))] := by
  simp [formPairs, List.splitOn_eq_singleton hamp, hne]

theorem formPairs_formPair (k v : String) :
    formPairs (formEncode k ++ "=" ++ formEncode v) = [(k, v)] := by
  have hk := formEncode_no_sep k
  have hv := formEncode_no_sep v
  have h : formEncode k ++ "=" ++ formEncode v =
      String.ofList ((formEncode k).toList ++ '=' :: (formEncode v).toList) := by
    simp [← String.toList_inj]
  have hamp : '&' ∉ (formEncode k).toList ++ '=' :: (formEncode v).toList := by
    intro hm
    simp only [List.mem_append, List.mem_cons] at hm
    rcases hm with hm | hm | hm
    · exact (hk _ hm).1 rfl
    · exact absurd hm (by decide)
    · exact (hv _ hm).1 rfl
  have hkeq : ∀ c ∈ (formEncode k).toList, (c != '=') = true := by
    intro c hc
    simpa using (hk c hc).2
  rw [h, formPairs_piece _ (by simp) hamp, List.takeWhile_append_of_pos hkeq,
    List.dropWhile_append_of_pos hkeq]
  simp [formDecode_formEncode]

/-- One pair added by the query builder: after an `&` when the query holds something. -/
theorem formPairs_addPair (acc k v : String) :
    formPairs ((if acc.isEmpty then acc else acc ++ "&") ++ formEncode k ++ "=" ++ formEncode v) =
      formPairs acc ++ [(k, v)] := by
  split
  · next he =>
    have : acc = "" := by simpa using he
    subst this
    rw [String.empty_append, formPairs_formPair, formPairs_empty, List.nil_append]
  · have h : acc ++ "&" ++ formEncode k ++ "=" ++ formEncode v =
        acc ++ "&" ++ (formEncode k ++ "=" ++ formEncode v) := by
      simp only [String.append_assoc]
    rw [h, formPairs_append_amp, formPairs_formPair]

/-- The pairs appended to a URL's query read back, as form pairs, after the pairs it held. -/
theorem formPairs_appendPairs (u : Url) (pairs : List (String × String)) :
    formPairs ((u.appendPairs pairs).query.getD "") = formPairs (u.query.getD "") ++ pairs := by
  simp only [Url.appendPairs, Option.getD_some]
  generalize u.query.getD "" = acc
  induction pairs generalizing acc with
  | nil => simp
  | cons p rest ih =>
    obtain ⟨k, v⟩ := p
    rw [List.foldl_cons, ih, formPairs_addPair, List.append_assoc, List.singleton_append]

end Url

end FunctionHost
