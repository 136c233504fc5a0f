import FunctionHost.Fault.Wire
import Mathlib.Data.String.Basic
/-!
# The failure envelope on the wire

A record read from an object passes over the members in order (`recordStep`): a member whose key
names a field, by its name or an alias, is decoded into that field's slot, once; a second member
for the same slot is a duplicate; any other member is passed over. The slots are then completed,
a required field left empty being missing. Whether the pass succeeds, and the slots it fills,
do not depend on the order of the members, so a key can be given under any of its names
wherever it sorts; what does depend on the order is which refusal is reported first.

For the failure envelope this gives the whole wire contract: the wire form of every failure is
an object with `error_code` and `message`, and `stack_trace` and `data` exactly when present, and
it reads back as the same failure; the code may be given as `code` instead, and other keys are
passed over; an object that gives the code twice, a code that is not an integer from 0 to 5, or
an object without a code or a message is refused.

Results:
* `decodeValue_record_object`: reading a record from an object is the pass, then completion.
* `foldlM_perm`: the pass succeeds, with the same slots, for every order of the members.
* `passed_of_foldlM`: a pass that succeeds decoded every member that names a field, met each
  field at most once and left the other slots alone.
* `toValue_eq`: the members of a failure's wire form.
* `decodeValue_toValue`: the wire form of a failure reads back as that failure.
* `decodeValue_alias`, `decodeValue_eraseMember`: the alias reads as the name; other keys are
  passed over.
* `decodeValue_both_names`, `decodeValue_bad_code`, `decodeValue_no_code`,
  `decodeValue_no_message`: the refusals.
* `envelope_wire_codec`: all of it.
-/
namespace FunctionHost.Json

@[simp] theorem ok_bind {ε α β : Type} (a : α) (g : α → Except ε β) :
    (Except.ok a : Except ε α) >>= g = g a := rfl

@[simp] theorem error_bind {ε α β : Type} (e : ε) (g : α → Except ε β) :
    (Except.error e : Except ε α) >>= g = .error e := rfl

@[simp] theorem toOption_error {ε α : Type} (e : ε) : (Except.error e : Except ε α).toOption = none :=
  rfl

@[simp] theorem toOption_ok {ε α : Type} (a : α) : (Except.ok a : Except ε α).toOption = some a :=
  rfl

theorem toOption_bind {ε α β : Type} (x : Except ε α) (g : α → Except ε β) :
    (x >>= g).toOption = x.toOption.bind fun a => (g a).toOption := by
  cases x <;> rfl

theorem findField_lt {k : String} {fields : List FieldShape} {n i : Nat} {f : FieldShape}
    (h : findField k fields n = some (i, f)) : i < n + fields.length := by
  induction fields generalizing n with
  | nil => simp [findField] at h
  | cons g rest ih =>
    unfold findField at h
    split at h
    · cases h
      simp
    · have := ih h
      simp only [List.length_cons]
      omega

section Record

variable (decode : Shape → Value → Except Problem Value) (fields : List FieldShape)

/-- One member of an object read against the fields of a record: a member naming a field fills
that field's slot, unless it is filled already; any other member is passed over. -/
def recordStep (slots : List (Option Value)) : String × Value → Except Problem (List (Option Value))
  | (k, x) =>
    match findField k fields 0 with
    | some (i, f) =>
      if (slots.getD i none).isSome then throw (Problem.duplicateField f.1)
      else do
        let d ← decode f.2.2.1 x
        pure (setSlot slots i d)
    | none => pure slots

theorem decodeValue_record_object (fuel : Nat) (name : String) (ms : Members) :
    decodeValue (fuel + 1) (.record name fields) (.object ms) =
      ms.foldlM (recordStep (decodeValue fuel) fields) (fields.map fun _ => none) >>=
        completeRecord fields := rfl

def namedSlots (ms : Members) : List Nat :=
  ms.filterMap fun m => (findField m.1 fields 0).map Prod.fst

/-- What a pass that succeeds guarantees: every member naming a field decodes, no slot is named
twice, the slots named were empty, and the others are left as they were. -/
structure Passed (slots : List (Option Value)) (ms : Members) (slots' : List (Option Value)) :
    Prop where
  decodes : ∀ m ∈ ms, ∀ i f, findField m.1 fields 0 = some (i, f) → ∃ d, decode f.2.2.1 m.2 = .ok d
  nodup : (namedSlots fields ms).Nodup
  fresh : ∀ i ∈ namedSlots fields ms, slots.getD i none = none
  kept : ∀ i, i ∉ namedSlots fields ms → slots'.getD i none = slots.getD i none

variable {decode fields}

theorem recordStep_unknown {k : String} (h : findField k fields 0 = none)
    (slots : List (Option Value)) (x : Value) :
    recordStep decode fields slots (k, x) = .ok slots := by
  simp [recordStep, h, pure, Except.pure]

theorem recordStep_known {k : String} {i : Nat} {f : FieldShape}
    (h : findField k fields 0 = some (i, f)) (slots : List (Option Value)) (x : Value) :
    recordStep decode fields slots (k, x) =
      if (slots.getD i none).isSome then .error (.duplicateField f.1)
      else (decode f.2.2.1 x).map (setSlot slots i) := by
  simp only [recordStep, h]
  split
  · rfl
  · cases decode f.2.2.1 x <;> rfl

theorem recordStep_congr {k k' : String} (h : findField k fields 0 = findField k' fields 0)
    (slots : List (Option Value)) (x : Value) :
    recordStep decode fields slots (k, x) = recordStep decode fields slots (k', x) := by
  simp only [recordStep, h]

theorem recordStep_length {slots slots' : List (Option Value)} {m : String × Value}
    (h : recordStep decode fields slots m = .ok slots') : slots'.length = slots.length := by
  obtain ⟨k, x⟩ := m
  cases hk : findField k fields 0 with
  | none =>
    rw [recordStep_unknown hk] at h
    cases h
    rfl
  | some p =>
    obtain ⟨i, f⟩ := p
    rw [recordStep_known hk] at h
    split at h
    · cases h
    · cases hd : decode f.2.2.1 x with
      | error e => simp [hd, Except.map] at h
      | ok d =>
        simp only [hd, Except.map, Except.ok.injEq] at h
        subst h
        simp [setSlot]

/-- Two members read one after the other succeed, with the same slots, in either order. -/
theorem recordStep_swap {β : Type} (slots : List (Option Value))
    (hlen : slots.length = fields.length) (a b : String × Value)
    (k : List (Option Value) → Except Problem β) :
    (recordStep decode fields slots a >>= fun s => recordStep decode fields s b >>= k).toOption =
      (recordStep decode fields slots b >>= fun s => recordStep decode fields s a >>= k).toOption := by
  obtain ⟨ka, xa⟩ := a
  obtain ⟨kb, xb⟩ := b
  cases ha : findField ka fields 0 with
  | none => simp [recordStep_unknown ha]
  | some pa =>
    cases hb : findField kb fields 0 with
    | none => simp [recordStep_unknown hb]
    | some pb =>
      obtain ⟨i, f⟩ := pa
      obtain ⟨j, g⟩ := pb
      have hi : i < slots.length := by have := findField_lt ha; omega
      have hj : j < slots.length := by have := findField_lt hb; omega
      simp only [recordStep_known ha, recordStep_known hb]
      by_cases hij : i = j
      · -- both members name one field: whichever comes second is a duplicate
        subst hij
        cases hs : (slots.getD i none).isSome <;>
          cases hda : decode f.2.2.1 xa <;> cases hdb : decode g.2.2.1 xb <;>
          simp [Except.map, setSlot, List.getD_eq_getElem?_getD, hi]
      · -- two fields: the slots are filled independently
        cases hsi : (slots.getD i none).isSome <;> cases hsj : (slots.getD j none).isSome <;>
          cases hda : decode f.2.2.1 xa <;> cases hdb : decode g.2.2.1 xb <;>
          simp_all [Except.map, setSlot, List.getD_eq_getElem?_getD, Ne.symm hij,
            List.set_comm _ _ hij]

/-- The pass over the members succeeds, with the same slots, for every order of the members. -/
theorem foldlM_perm {l₁ l₂ : Members} (h : l₁.Perm l₂) :
    ∀ slots : List (Option Value), slots.length = fields.length →
      (l₁.foldlM (recordStep decode fields) slots).toOption =
        (l₂.foldlM (recordStep decode fields) slots).toOption := by
  induction h with
  | nil => intro slots _; rfl
  | cons x _ ih =>
    intro slots hlen
    simp only [List.foldlM_cons]
    cases hx : recordStep decode fields slots x with
    | error e => rfl
    | ok s => exact ih s ((recordStep_length hx).trans hlen)
  | swap x y l =>
    intro slots hlen
    simp only [List.foldlM_cons]
    exact recordStep_swap slots hlen y x _
  | trans _ _ ih₁ ih₂ =>
    intro slots hlen
    exact (ih₁ slots hlen).trans (ih₂ slots hlen)

/-- A member whose key names no field can be taken out of the object. -/
theorem foldlM_eraseMember {k : String} (hk : findField k fields 0 = none) (ms : Members) :
    ∀ slots : List (Option Value),
      (eraseMember k ms).foldlM (recordStep decode fields) slots =
        ms.foldlM (recordStep decode fields) slots := by
  induction ms with
  | nil => intro slots; rfl
  | cons m rest ih =>
    intro slots
    obtain ⟨k', x⟩ := m
    simp only [eraseMember]
    split
    · rename_i hkk
      subst hkk
      simp [recordStep_unknown hk, bind, Except.bind]
    · simp only [List.foldlM_cons]
      congr 1
      funext s
      exact ih s

/-- A member that names no field adds nothing to what the rest of the pass guarantees. -/
theorem Passed.cons_unknown {k : String} (x : Value) (hk : findField k fields 0 = none)
    {slots slots' : List (Option Value)} {rest : Members}
    (hrest : Passed decode fields slots rest slots') :
    Passed decode fields slots ((k, x) :: rest) slots' := by
  have hnamed : namedSlots fields ((k, x) :: rest) = namedSlots fields rest := by
    simp [namedSlots, hk]
  refine ⟨?_, hnamed ▸ hrest.nodup, hnamed ▸ hrest.fresh, hnamed ▸ hrest.kept⟩
  intro m hm i f hf
  rcases List.mem_cons.1 hm with rfl | hm
  · simp [hk] at hf
  · exact hrest.decodes m hm i f hf

/-- A member that fills the empty slot `i`, followed by a pass from the slots it left. -/
theorem Passed.cons_known {k : String} {x d : Value} {i : Nat} {f : FieldShape}
    (hk : findField k fields 0 = some (i, f)) (hd : decode f.2.2.1 x = .ok d)
    {slots slots' : List (Option Value)} (hi : i < slots.length)
    (hnone : slots.getD i none = none) {rest : Members}
    (hrest : Passed decode fields (setSlot slots i d) rest slots') :
    Passed decode fields slots ((k, x) :: rest) slots' := by
  have hnamed : namedSlots fields ((k, x) :: rest) = i :: namedSlots fields rest := by
    simp [namedSlots, hk]
  -- the slot filled here stays filled, so no later member names it
  have hnot : i ∉ namedSlots fields rest := by
    intro hin
    have := hrest.fresh i hin
    simp [setSlot, List.getD_eq_getElem?_getD, hi] at this
  have hother : ∀ j, j ≠ i → (setSlot slots i d).getD j none = slots.getD j none := by
    intro j hj
    simp [setSlot, List.getD_eq_getElem?_getD, Ne.symm hj]
  refine ⟨?_, ?_, ?_, ?_⟩
  · intro m hm i' f' hf
    rcases List.mem_cons.1 hm with rfl | hm
    · rw [hk] at hf
      cases hf
      exact ⟨d, hd⟩
    · exact hrest.decodes m hm i' f' hf
  · rw [hnamed]
    exact List.nodup_cons.2 ⟨hnot, hrest.nodup⟩
  · intro j hj
    rw [hnamed] at hj
    rcases List.mem_cons.1 hj with rfl | hj
    · exact hnone
    · have hji : j ≠ i := fun e => hnot (e ▸ hj)
      rw [← hother j hji]
      exact hrest.fresh j hj
  · intro j hj
    rw [hnamed] at hj
    have hji : j ≠ i := fun e => hj (e ▸ List.mem_cons_self)
    rw [hrest.kept j (fun h' => hj (List.mem_cons_of_mem _ h')), hother j hji]

/-- What a pass that succeeds guarantees, by induction on the members with one step lemma per
kind of member. -/
theorem passed_of_foldlM {ms : Members} :
    ∀ {slots slots' : List (Option Value)}, slots.length = fields.length →
      ms.foldlM (recordStep decode fields) slots = .ok slots' →
        Passed decode fields slots ms slots' := by
  induction ms with
  | nil =>
    intro slots slots' _ h
    cases h
    exact ⟨by simp, by simp [namedSlots], by simp [namedSlots], fun _ _ => rfl⟩
  | cons m rest ih =>
    intro slots slots' hlen h
    rw [List.foldlM_cons] at h
    cases hm : recordStep decode fields slots m with
    | error e => rw [hm] at h; cases h
    | ok s1 =>
      rw [hm] at h
      have hrest := ih ((recordStep_length hm).trans hlen) h
      obtain ⟨k, x⟩ := m
      cases hk : findField k fields 0 with
      | none =>
        rw [recordStep_unknown hk] at hm
        cases hm
        exact hrest.cons_unknown x hk
      | some p =>
        obtain ⟨i, f⟩ := p
        rw [recordStep_known hk] at hm
        split at hm
        · cases hm
        · rename_i hempty
          cases hd : decode f.2.2.1 x with
          | error e => simp [hd, Except.map] at hm
          | ok d =>
            simp only [hd, Except.map, Except.ok.injEq] at hm
            subst hm
            have hi : i < slots.length := by have := findField_lt hk; omega
            exact hrest.cons_known hk hd hi (by simpa using hempty)

theorem foldlM_length {ms : Members} :
    ∀ {slots slots' : List (Option Value)},
      ms.foldlM (recordStep decode fields) slots = .ok slots' → slots'.length = slots.length := by
  induction ms with
  | nil => intro slots slots' h; cases h; rfl
  | cons m rest ih =>
    intro slots slots' h
    rw [List.foldlM_cons] at h
    cases hm : recordStep decode fields slots m with
    | error e => rw [hm] at h; cases h
    | ok s1 =>
      rw [hm] at h
      exact (ih h).trans (recordStep_length hm)

/-- Reading a record from the members of an object succeeds, with the same record, for every
order of the members. -/
theorem decodeValue_record_perm {l₁ l₂ : Members} (h : l₁.Perm l₂) (fuel : Nat) (name : String)
    (fields : List FieldShape) :
    (decodeValue (fuel + 1) (.record name fields) (.object l₁)).toOption =
      (decodeValue (fuel + 1) (.record name fields) (.object l₂)).toOption := by
  rw [decodeValue_record_object, decodeValue_record_object, toOption_bind, toOption_bind,
    foldlM_perm h _ (by simp)]

/-- A record read from an object is refused when every pass that succeeds leaves slots that do
not complete. -/
theorem decodeValue_record_refused {fuel : Nat} {name : String} {fields : List FieldShape}
    {ms : Members}
    (h : ∀ slots', ms.foldlM (recordStep (decodeValue fuel) fields) (fields.map fun _ => none) =
      .ok slots' → ∃ p, completeRecord fields slots' = .error p) :
    ∃ p, decodeValue (fuel + 1) (.record name fields) (.object ms) = .error p := by
  rw [decodeValue_record_object]
  cases hpass : ms.foldlM (recordStep (decodeValue fuel) fields) (fields.map fun _ => none) with
  | error p => exact ⟨p, rfl⟩
  | ok slots' => simpa using h slots' hpass

end Record

/-- Two different members of a list cannot both be sent to one value by a map whose results have
no repeats. -/
theorem filterMap_nodup_ne {α β : Type} {g : α → Option β} {l : List α} {a b : α}
    (hnd : (l.filterMap g).Nodup) (ha : a ∈ l) (hb : b ∈ l) (hab : a ≠ b) (c : β)
    (hga : g a = some c) (hgb : g b = some c) : False := by
  induction l with
  | nil => simp at ha
  | cons x xs ih =>
    rw [List.filterMap_cons] at hnd
    rcases List.mem_cons.1 ha with rfl | ha'
    · rw [hga] at hnd
      have hb' : b ∈ xs := (List.mem_cons.1 hb).resolve_left (Ne.symm hab)
      exact (List.nodup_cons.1 hnd).1 (List.mem_filterMap.2 ⟨b, hb', hgb⟩)
    · rcases List.mem_cons.1 hb with rfl | hb'
      · rw [hgb] at hnd
        exact (List.nodup_cons.1 hnd).1 (List.mem_filterMap.2 ⟨a, ha', hga⟩)
      · have hxs : (xs.filterMap g).Nodup := by
          cases hx : g x with
          | none => simpa [hx] using hnd
          | some y => simpa [hx] using (List.nodup_cons.1 (by simpa [hx] using hnd)).2
        exact ih hxs ha' hb'

/-- Inserting a key that is absent puts its member somewhere among the others. -/
theorem perm_insertMember (k : String) (v : Value) :
    ∀ ms : Members, lookup k ms = none → (insertMember k v ms).Perm ((k, v) :: ms)
  | [], _ => List.Perm.refl _
  | (k', v') :: rest, h => by
    have hne : k ≠ k' := by
      intro e
      simp [lookup, e] at h
    have hrest : lookup k rest = none := by simpa [lookup, hne] using h
    simp only [insertMember]
    split
    · exact List.Perm.refl _
    · exact ((perm_insertMember k v rest hrest).cons (k', v')).trans (List.Perm.swap _ _ rest)

theorem lookup_ne_none_of_mem {k : String} {v : Value} {ms : Members} (h : (k, v) ∈ ms) :
    lookup k ms ≠ none := by
  induction ms with
  | nil => simp at h
  | cons m rest ih =>
    obtain ⟨k', v'⟩ := m
    unfold lookup
    split
    · simp
    · rename_i hne
      rcases List.mem_cons.1 h with e | h'
      · cases e
        exact absurd rfl hne
      · exact ih h'

theorem mem_of_lookup {k : String} {v : Value} {ms : Members} (h : lookup k ms = some v) :
    (k, v) ∈ ms := by
  induction ms with
  | nil => simp [lookup] at h
  | cons m rest ih =>
    obtain ⟨k', v'⟩ := m
    unfold lookup at h
    split at h
    · rename_i e
      cases h
      subst e
      exact List.mem_cons_self
    · exact List.mem_cons_of_mem _ (ih h)

end FunctionHost.Json

namespace FunctionHost.Fault

open Json

/-- Every frame line of a failure fits the 32-bit count its wire form carries. -/
def LinesFit (f : Fault) : Prop :=
  ∀ frames ∈ f.stackTrace, ∀ fr ∈ frames, fr.line < Nat.pow 2 32

theorem frame_toValue (fr : Frame) :
    Frame.toValue fr = .object [("file", .string fr.file), ("function", .string fr.function),
      ("line", .number (.nat fr.line))] := by
  simp [-String.lt_iff_ltb, Frame.toValue, Value.objectOf, membersOf, insertMember]

/-- The members of a failure's wire form, in key order: `data` when present, the code, the
message, and `stack_trace` when present. -/
theorem toValue_eq (f : Fault) :
    f.toValue = .object ((f.data.map fun d => ("data", Value.object d)).toList ++
      [("error_code", .number (.nat f.kind.code)), ("message", .string f.message)] ++
      (f.stackTrace.map fun frames => ("stack_trace", Value.array (frames.map Frame.toValue))).toList) := by
  cases hs : f.stackTrace <;> cases hd : f.data <;>
    simp [-String.lt_iff_ltb, toValue, hs, hd, Value.objectOf, membersOf, insertMember]

/-- A frame as its record reads back: each field under its own name. -/
def decodedFrame (fr : Frame) : Value :=
  .objectOf [("file", .string fr.file), ("line", .number (.nat fr.line)),
    ("function", .string fr.function)]

theorem frameOfDecoded_decodedFrame (fr : Frame) : frameOfDecoded (decodedFrame fr) = fr := by
  simp [-String.lt_iff_ltb, frameOfDecoded, decodedFrame, Value.objectOf, membersOf, insertMember,
    textField, natField, Value.get?, lookup, Value.asString?]

theorem decodeValue_frame (fuel : Nat) (fr : Frame) (h : fr.line < Nat.pow 2 32) :
    Json.decodeValue (fuel + 2) frameShape (Frame.toValue fr) = .ok (decodedFrame fr) := by
  rw [frame_toValue, frameShape, decodeValue_record_object]
  simp [recordStep, findField, setSlot, Json.decodeValue, checkUnsigned, h, completeRecord,
    decodedFrame, pure, Except.pure, Except.map, List.mapM_cons]

theorem decodeValue_frames (fuel : Nat) (frames : List Frame)
    (h : ∀ fr ∈ frames, fr.line < Nat.pow 2 32) :
    Json.decodeValue (fuel + 4) (.option (.seq frameShape)) (.array (frames.map Frame.toValue)) =
      .ok (.array (frames.map decodedFrame)) := by
  have hall : (frames.map Frame.toValue).mapM (Json.decodeValue (fuel + 2) frameShape) =
      .ok (frames.map decodedFrame) := by
    induction frames with
    | nil => rfl
    | cons fr rest ih =>
      rw [List.map_cons, List.mapM_cons, decodeValue_frame fuel fr (h fr List.mem_cons_self),
        ih (fun g hg => h g (List.mem_cons_of_mem _ hg))]
      rfl
  -- an optional sequence that is present is read as the sequence, item by item
  show ((frames.map Frame.toValue).mapM (Json.decodeValue (fuel + 2) frameShape)).map Value.array = _
  rw [hall]
  rfl

theorem decodeValue_kind (fuel : Nat) (k : Kind) :
    Json.decodeValue (fuel + 1) (.code 5) (.number (.nat k.code)) = .ok (.number (.nat k.code)) := by
  cases k <;> rfl

theorem decodeValue_data (fuel : Nat) (d : Members) :
    Json.decodeValue (fuel + 2) (.option .map) (.object d) = .ok (.object d) := rfl

/-- The record a failure's wire form decodes to gives the failure back. -/
theorem ofDecoded_complete (f : Fault) :
    ofDecoded (Value.objectOf [("error_code", .number (.nat f.kind.code)),
      ("message", .string f.message),
      ("stack_trace", (f.stackTrace.map fun frames => Value.array (frames.map decodedFrame)).getD .null),
      ("data", (f.data.map Value.object).getD .null)]) = f := by
  obtain ⟨kind, message, stackTrace, data⟩ := f
  cases stackTrace <;> cases data <;>
    simp [-String.lt_iff_ltb, ofDecoded, Value.objectOf, membersOf, insertMember, textField,
      natField, Value.get?, lookup, Value.asString?, ofCode_code, Function.comp_def,
      frameOfDecoded_decodedFrame]

/-- The wire form of every failure whose frame lines fit in 32 bits reads back as that failure. -/
theorem decodeValue_toValue (f : Fault) (h : f.LinesFit) : decodeValue f.toValue = .ok f := by
  -- the pass fills every slot the failure has, and completion names each field once
  have hread : Json.decodeValue 8 faultShape f.toValue = .ok (Value.objectOf
      [("error_code", .number (.nat f.kind.code)), ("message", .string f.message),
        ("stack_trace", (f.stackTrace.map fun frames => Value.array (frames.map decodedFrame)).getD .null),
        ("data", (f.data.map Value.object).getD .null)]) := by
    rw [toValue_eq, faultShape, decodeValue_record_object]
    cases hs : f.stackTrace with
    | none =>
      cases hd : f.data <;>
        simp [recordStep, findField, setSlot, decodeValue_kind, decodeValue_text, decodeValue_data,
          completeRecord, pure, Except.pure, List.mapM_cons]
    | some frames =>
      have hframes := decodeValue_frames 3 frames (h frames hs)
      cases hd : f.data <;>
        simp [recordStep, findField, setSlot, decodeValue_kind, decodeValue_text, decodeValue_data,
          hframes, completeRecord, pure, Except.pure, List.mapM_cons]
  rw [decodeValue, hread]
  exact congrArg Except.ok (ofDecoded_complete f)

/-! ## Reading any object -/

def faultFields : List FieldShape :=
  match faultShape with
  | .record _ fields => fields
  | _ => []

theorem faultShape_eq : faultShape = .record "FunctionError" faultFields := rfl

theorem findField_code : findField "code" faultFields 0 = findField "error_code" faultFields 0 := by
  simp [faultFields, faultShape, findField]

/-- The key naming each slot of the envelope: the code under either name, then the message, the
trace and the data. -/
theorem findField_faultFields {k : String} {i : Nat} {f : FieldShape}
    (h : findField k faultFields 0 = some (i, f)) :
    (i = 0 ∧ (k = "error_code" ∨ k = "code")) ∨ (i = 1 ∧ k = "message") ∨
      (i = 2 ∧ k = "stack_trace") ∨ (i = 3 ∧ k = "data") := by
  simp only [faultFields, faultShape, findField, List.mem_cons, List.not_mem_nil, or_false] at h
  -- one test per field, in field order
  split at h
  · rename_i hk
    cases h
    exact .inl ⟨rfl, hk.imp Eq.symm id⟩
  · split at h
    · rename_i hk
      cases h
      exact .inr (.inl ⟨rfl, hk.symm⟩)
    · split at h
      · rename_i hk
        cases h
        exact .inr (.inr (.inl ⟨rfl, hk.symm⟩))
      · split at h
        · rename_i hk
          cases h
          exact .inr (.inr (.inr ⟨rfl, hk.symm⟩))
        · cases h

theorem toOption_decodeValue (v : Value) :
    (decodeValue v).toOption = (Json.decodeValue 8 faultShape v).toOption.map ofDecoded := by
  unfold decodeValue
  cases Json.decodeValue 8 faultShape v <;> rfl

theorem decodeValue_refused {v : Value} {p : Problem} (h : Json.decodeValue 8 faultShape v = .error p) :
    decodeValue v = .error (Json.Error.unplaced p) := by
  rw [decodeValue, h]

/-- An object is refused when every pass over its members that succeeds leaves slots that do not
complete. -/
theorem decodeValue_refused_of_pass {ms : Members}
    (h : ∀ slots', ms.foldlM (recordStep (Json.decodeValue 7) faultFields)
      (faultFields.map fun _ => none) = .ok slots' → ∃ p, completeRecord faultFields slots' = .error p) :
    ∃ e, decodeValue (.object ms) = .error e := by
  obtain ⟨p, hp⟩ : ∃ p, Json.decodeValue 8 faultShape (.object ms) = .error p := by
    rw [faultShape_eq]
    exact decodeValue_record_refused h
  exact ⟨_, decodeValue_refused hp⟩

theorem decodeValue_code_ok {fuel top : Nat} {c d : Value}
    (h : Json.decodeValue (fuel + 1) (.code top) c = .ok d) : ∃ n, n ≤ top ∧ c = .number (.nat n) := by
  cases c with
  | number n =>
    cases n with
    | nat n =>
      refine ⟨n, ?_, rfl⟩
      by_cases hn : n < Nat.pow 2 8
      · by_cases ht : n ≤ top
        · exact ht
        · simp [Json.decodeValue, checkUnsigned, hn, checkCode, ht, Functor.map, Except.map] at h
      · simp [Json.decodeValue, checkUnsigned, hn] at h
    | negative i => simp [Json.decodeValue, checkUnsigned] at h
    | float x => simp [Json.decodeValue, checkUnsigned] at h
  | _ => simp [Json.decodeValue] at h

/-- The code given under its alias `code` reads as when given under its name `error_code`. -/
theorem decodeValue_alias (ms : Members) (c : Value) (he : lookup "error_code" ms = none)
    (hc : lookup "code" ms = none) :
    (decodeValue (.object (insertMember "error_code" c ms))).toOption =
      (decodeValue (.object (insertMember "code" c ms))).toOption := by
  rw [toOption_decodeValue, toOption_decodeValue, faultShape_eq,
    decodeValue_record_perm (perm_insertMember "error_code" c ms he),
    decodeValue_record_perm (perm_insertMember "code" c ms hc), decodeValue_record_object,
    decodeValue_record_object, List.foldlM_cons, List.foldlM_cons, recordStep_congr findField_code]

theorem decodeValue_eraseMember (ms : Members) (k : String)
    (hk : k ∉ ["error_code", "code", "message", "stack_trace", "data"]) :
    decodeValue (.object (eraseMember k ms)) = decodeValue (.object ms) := by
  have hfind : findField k faultFields 0 = none := by
    simp only [List.mem_cons, List.not_mem_nil, or_false, not_or] at hk
    obtain ⟨h1, h2, h3, h4, h5⟩ := hk
    simp [faultFields, faultShape, findField, Ne.symm h1, h2, Ne.symm h3, Ne.symm h4, Ne.symm h5]
  rw [decodeValue, decodeValue, faultShape_eq, decodeValue_record_object, decodeValue_record_object,
    foldlM_eraseMember hfind]

/-- Slots that leave the code or the message empty do not complete. -/
theorem completeRecord_missing (slots : List (Option Value)) (hlen : slots.length = 4)
    (hmiss : slots.getD 0 none = none ∨ slots.getD 1 none = none) :
    ∃ p, completeRecord faultFields slots = .error p := by
  match slots, hlen with
  | [a, b, c, d], _ =>
    simp only [List.getD_cons_zero, List.getD_cons_succ] at hmiss
    rcases hmiss with rfl | rfl
    · exact ⟨.missingField "error_code", rfl⟩
    · cases a with
      | none => exact ⟨.missingField "error_code", rfl⟩
      | some x => exact ⟨.missingField "message", rfl⟩

/-- An object that gives the code under both its names is refused. -/
theorem decodeValue_both_names (ms : Members) (c₁ c₂ : Value) (hc : lookup "code" ms = some c₁)
    (he : lookup "error_code" ms = some c₂) : ∃ e, decodeValue (.object ms) = .error e := by
  refine decodeValue_refused_of_pass fun slots' hpass => ?_
  exfalso
  have hpassed := passed_of_foldlM (by simp) hpass
  -- both members name the code's slot, which a pass meets at most once
  exact filterMap_nodup_ne hpassed.nodup (mem_of_lookup hc) (mem_of_lookup he) (by simp) 0
    (by simp [faultFields, faultShape, findField]) (by simp [faultFields, faultShape, findField])

/-- An object whose code, under either name, is not an integer from 0 to 5 is refused. -/
theorem decodeValue_bad_code (ms : Members) (c : Value)
    (hc : lookup "error_code" ms = some c ∨ lookup "code" ms = some c)
    (hbad : ∀ n, n ≤ 5 → c ≠ .number (.nat n)) : ∃ e, decodeValue (.object ms) = .error e := by
  refine decodeValue_refused_of_pass fun slots' hpass => ?_
  exfalso
  have hpassed := passed_of_foldlM (by simp) hpass
  -- the member carrying the code was read as a code
  obtain ⟨k, hk, hmem⟩ : ∃ k, findField k faultFields 0 =
      some (0, ("error_code", ["code"], .code 5, false)) ∧ (k, c) ∈ ms := by
    rcases hc with h | h
    · exact ⟨"error_code", by simp [faultFields, faultShape, findField], mem_of_lookup h⟩
    · exact ⟨"code", by simp [faultFields, faultShape, findField], mem_of_lookup h⟩
  obtain ⟨d, hd⟩ := hpassed.decodes (k, c) hmem 0 _ hk
  obtain ⟨n, hn, rfl⟩ := decodeValue_code_ok hd
  exact hbad n hn rfl

/-- A slot that no member of the object names is left empty by a pass that succeeds. -/
theorem slot_empty_of_unnamed {decode : Shape → Value → Except Problem Value} {ms : Members}
    {slots' : List (Option Value)} {i : Nat}
    (hpass : ms.foldlM (recordStep decode faultFields)
      (faultFields.map fun _ => none) = .ok slots')
    (hnamed : ∀ m ∈ ms, ∀ f, findField m.1 faultFields 0 ≠ some (i, f)) :
    slots'.length = 4 ∧ slots'.getD i none = none := by
  have hpassed := passed_of_foldlM (by simp) hpass
  have hnot : i ∉ namedSlots faultFields ms := by
    intro hin
    obtain ⟨m, hm, hfm⟩ := List.mem_filterMap.1 hin
    obtain ⟨⟨j, f⟩, hf, rfl⟩ := Option.map_eq_some_iff.1 hfm
    exact hnamed m hm f hf
  refine ⟨(foldlM_length hpass).trans (by simp [faultFields, faultShape]), ?_⟩
  rw [hpassed.kept i hnot, List.getD_eq_getElem?_getD, List.getElem?_map]
  cases faultFields[i]? <;> rfl

theorem decodeValue_no_code (ms : Members) (he : lookup "error_code" ms = none)
    (hc : lookup "code" ms = none) : ∃ e, decodeValue (.object ms) = .error e := by
  refine decodeValue_refused_of_pass fun slots' hpass => ?_
  -- only `error_code` and `code` name the code's slot
  have hnamed : ∀ m ∈ ms, ∀ f, findField m.1 faultFields 0 ≠ some (0, f) := by
    intro m hm f hf
    obtain ⟨k, x⟩ := m
    rcases findField_faultFields hf with ⟨-, rfl | rfl⟩ | ⟨h, -⟩ | ⟨h, -⟩ | ⟨h, -⟩
    · exact lookup_ne_none_of_mem hm he
    · exact lookup_ne_none_of_mem hm hc
    all_goals omega
  obtain ⟨hlen, hempty⟩ := slot_empty_of_unnamed hpass hnamed
  exact completeRecord_missing slots' hlen (.inl hempty)

theorem decodeValue_no_message (ms : Members) (hm : lookup "message" ms = none) :
    ∃ e, decodeValue (.object ms) = .error e := by
  refine decodeValue_refused_of_pass fun slots' hpass => ?_
  -- only `message` names the message's slot
  have hnamed : ∀ m ∈ ms, ∀ f, findField m.1 faultFields 0 ≠ some (1, f) := by
    intro m hmem f hf
    obtain ⟨k, x⟩ := m
    rcases findField_faultFields hf with ⟨h, -⟩ | ⟨-, rfl⟩ | ⟨h, -⟩ | ⟨h, -⟩
    · omega
    · exact lookup_ne_none_of_mem hmem hm
    all_goals omega
  obtain ⟨hlen, hempty⟩ := slot_empty_of_unnamed hpass hnamed
  exact completeRecord_missing slots' hlen (.inr hempty)

theorem code_le (k : Kind) : k.code ≤ 5 := by
  cases k <;> decide

/-- The wire contract of the failure envelope. The wire form of a failure is an object holding
its kind's code (0 to 5) and its message, then its trace and its data exactly when present, and
it reads back as the same failure whenever the frame lines fit in 32 bits. An object gives the
same failure whether its code is under `error_code` or under the alias `code`, and keys that name
no field are passed over. An object that gives the code under both names, whose code is not an
integer from 0 to 5, or that lacks the code or the message is refused. -/
theorem envelope_wire_codec :
    (∀ f : Fault, f.LinesFit → decodeValue f.toValue = .ok f) ∧
    (∀ f : Fault, f.kind.code ≤ 5 ∧
      f.toValue = .object ((f.data.map fun d => ("data", Value.object d)).toList ++
        [("error_code", .number (.nat f.kind.code)), ("message", .string f.message)] ++
        (f.stackTrace.map fun frames =>
          ("stack_trace", Value.array (frames.map Frame.toValue))).toList)) ∧
    (∀ (ms : Members) (c : Value), lookup "error_code" ms = none → lookup "code" ms = none →
      (decodeValue (.object (insertMember "error_code" c ms))).toOption =
        (decodeValue (.object (insertMember "code" c ms))).toOption) ∧
    (∀ (ms : Members) (k : String), k ∉ ["error_code", "code", "message", "stack_trace", "data"] →
      decodeValue (.object (eraseMember k ms)) = decodeValue (.object ms)) ∧
    (∀ (ms : Members) (c₁ c₂ : Value), lookup "code" ms = some c₁ →
      lookup "error_code" ms = some c₂ → ∃ e, decodeValue (.object ms) = .error e) ∧
    (∀ (ms : Members) (c : Value), (lookup "error_code" ms = some c ∨ lookup "code" ms = some c) →
      (∀ n, n ≤ 5 → c ≠ .number (.nat n)) → ∃ e, decodeValue (.object ms) = .error e) ∧
    (∀ ms : Members, lookup "error_code" ms = none → lookup "code" ms = none →
      ∃ e, decodeValue (.object ms) = .error e) ∧
    (∀ ms : Members, lookup "message" ms = none → ∃ e, decodeValue (.object ms) = .error e) :=
  ⟨decodeValue_toValue, fun f => ⟨code_le f.kind, toValue_eq f⟩, decodeValue_alias,
    decodeValue_eraseMember, decodeValue_both_names, decodeValue_bad_code, decodeValue_no_code,
    decodeValue_no_message⟩

/-- A failure with a trace of one frame and a data object reads back from its wire form. -/
theorem traced_envelope_reads_back :
    LinesFit ⟨.executeAgain, "later", some [⟨"src/server.rs", 120, "invoke"⟩],
      some [("attempt", .number (.nat 2))]⟩ ∧
    decodeValue (Fault.toValue ⟨.executeAgain, "later", some [⟨"src/server.rs", 120, "invoke"⟩],
      some [("attempt", .number (.nat 2))]⟩) =
      .ok ⟨.executeAgain, "later", some [⟨"src/server.rs", 120, "invoke"⟩],
        some [("attempt", .number (.nat 2))]⟩ := by
  have hfit : LinesFit ⟨.executeAgain, "later", some [⟨"src/server.rs", 120, "invoke"⟩],
      some [("attempt", .number (.nat 2))]⟩ := by
    intro frames hframes fr hfr
    simp only [Option.mem_def, Option.some.injEq] at hframes
    subst hframes
    simp only [List.mem_singleton] at hfr
    subst hfr
    decide
  exact ⟨hfit, envelope_wire_codec.1 _ hfit⟩

end FunctionHost.Fault
