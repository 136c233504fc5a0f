import FunctionHost.Proofs.QueryPairs
import FunctionHost.Proofs.StoreCalls
/-!
# A scope in each of its encodings

A scope reaches the store in three forms: as a value (in an entry), in the query of a read, and
in the JSON body of a write or a removal. Each form is faithful: identifiers a scope does not
have are left out, an empty identifier is kept, and the form gives the scope back.

* As a value the scope is an object of its present identifiers, and decoding it gives the
  scope back.
* Read back as form pairs, the query of a read is the base URL's own pairs, then the
  organization and the key, then the project and the environment when the scope has them.
* A written string is a prefix code: one written character is read back by `readChar`, and
  the closing quote is never the start of a written character. So the scope's text, and the
  key's after it, can be read off the front of a body whatever follows.

Hence two reads with one base query, or two writes or removals, of different scopes or keys
never send the same query or body.

Results:
* `Scope.toValue_eq`, `Scope.decodeValue_toValue`: the scope as a value, and back.
* `readChar_escapeChar`, `writeString_prefix_unique`: a written string read off a text's front.
* `scopeText_prefix_unique`: a scope's text read off a text's front.
* `formPairs_getUrl`, `getUrl_query_inj`: the pairs of a read's query, and what they tell.
* `writeDraft_body_inj`, `deleteDraft_body_inj`: what a body tells.
* `scope_encodings_faithful`: all of it.
-/
namespace FunctionHost.State

open Json Transport Url

/-! ## The scope as a value -/

namespace Scope

/-- The members of a scope's value, in key order: the environment when it has one, the
organization, and the project when it has one. -/
theorem toValue_eq (s : Scope) :
    s.toValue = .object ((s.environmentId.map fun e => ("environment_id", Value.string e)).toList ++
      [("organization_id", .string s.organizationId)] ++
      (s.projectId.map fun p => ("project_id", Value.string p)).toList) := by
  obtain ⟨o, p, e⟩ := s
  cases p <;> cases e <;> rfl

theorem decodeValue_toValue (s : Scope) : Scope.decodeValue s.toValue = .ok s := by
  obtain ⟨o, p, e⟩ := s
  cases p <;> cases e <;> rfl

end Scope

/-! ## Written strings read back -/

def unescapeLetter (e : Char) : Char :=
  if e = 'n' then '\n'
  else if e = 'r' then '\r'
  else if e = 't' then '\t'
  else if e = 'b' then Char.ofNat 8
  else if e = 'f' then Char.ofNat 12
  else e

def hexValue (h : Char) : Nat := if h.toNat < 58 then h.toNat - 48 else h.toNat - 87

/-- Reads one character written between quotes, and gives what follows it; nothing at the
closing quote. Only the forms the writer produces are told apart: an escape by letter, and a
`\u00xx` escape by its last two digits. -/
def readChar : List Char → Option (Char × List Char)
  | [] => none
  | c :: rest =>
    if c = '"' then none
    else if c = '\\' then
      match rest with
      | 'u' :: _ :: _ :: hi :: lo :: more => some (Char.ofNat (hexValue hi * 16 + hexValue lo), more)
      | e :: more => some (unescapeLetter e, more)
      | [] => none
    else some (c, rest)

theorem hexValue_digit : ∀ d, d < 16 →
    hexValue (if d < 10 then Char.ofNat (48 + d) else Char.ofNat (87 + d)) = d := by
  decide

theorem readChar_escapeChar (c : Char) (rest : List Char) :
    readChar ((escapeChar c).toList ++ rest) = some (c, rest) := by
  delta escapeChar
  by_cases hq : c = '"'
  · rw [if_pos hq, hq]
    simp [readChar, unescapeLetter]
  rw [if_neg hq]
  by_cases hb : c = '\\'
  · rw [if_pos hb, hb]
    simp [readChar, unescapeLetter]
  rw [if_neg hb]
  by_cases hn : c = '\n'
  · rw [if_pos hn, hn]
    simp [readChar, unescapeLetter]
  rw [if_neg hn]
  by_cases hr : c = '\r'
  · rw [if_pos hr, hr]
    simp [readChar, unescapeLetter]
  rw [if_neg hr]
  by_cases ht : c = '\t'
  · rw [if_pos ht, ht]
    simp [readChar, unescapeLetter]
  rw [if_neg ht]
  by_cases h8 : c.toNat = 8
  · rw [if_pos h8, ← Char.ofNat_toNat c, h8]
    simp [readChar, unescapeLetter]
  rw [if_neg h8]
  by_cases h12 : c.toNat = 12
  · rw [if_pos h12, ← Char.ofNat_toNat c, h12]
    simp [readChar, unescapeLetter]
  rw [if_neg h12]
  by_cases hlow : c.toNat < 0x20
  · rw [if_pos hlow]
    have hhi := hexValue_digit (c.toNat / 16 % 16) (Nat.mod_lt _ (by decide))
    have hlo := hexValue_digit (c.toNat % 16) (Nat.mod_lt _ (by decide))
    have hsum : c.toNat / 16 % 16 * 16 + c.toNat % 16 = c.toNat := by omega
    simp [readChar, hexByte, hhi, hlo, hsum]
  · rw [if_neg hlow]
    simp [readChar, hq, hb]

theorem readChar_quote (rest : List Char) : readChar ('"' :: rest) = none := by
  simp [readChar]

theorem escapeChars_cons (c : Char) (cs : List Char) :
    (escapeChars (c :: cs)).toList = (escapeChar c).toList ++ (escapeChars cs).toList := by
  simp [escapeChars]

theorem readChar_escapeChars_cons (c : Char) (cs rest : List Char) :
    readChar ((escapeChars (c :: cs)).toList ++ rest) = some (c, (escapeChars cs).toList ++ rest) := by
  rw [escapeChars_cons, List.append_assoc, readChar_escapeChar]

/-- Escaped characters up to a quote are read back, and so is what follows the quote: by
induction on the characters, one `readChar` step on both sides at a time, which reads a
character on a side that has one and stops at the quote on a side that has none. -/
theorem escapeChars_prefix_unique (a : List Char) :
    ∀ (b x y : List Char), (escapeChars a).toList ++ '"' :: x = (escapeChars b).toList ++ '"' :: y →
      a = b ∧ x = y := by
  induction a with
  | nil =>
    intro b x y h
    cases b with
    | nil => simpa [escapeChars] using h
    | cons d b =>
      have hr := congrArg readChar h
      rw [readChar_escapeChars_cons] at hr
      simp [escapeChars, readChar_quote] at hr
  | cons c a ih =>
    intro b x y h
    have hr := congrArg readChar h
    cases b with
    | nil =>
      rw [readChar_escapeChars_cons] at hr
      simp [escapeChars, readChar_quote] at hr
    | cons d b =>
      rw [readChar_escapeChars_cons, readChar_escapeChars_cons, Option.some.injEq,
        Prod.mk.injEq] at hr
      obtain ⟨rfl, htail⟩ := hr
      obtain ⟨rfl, rfl⟩ := ih b x y htail
      exact ⟨rfl, rfl⟩

theorem writeString_toList (s : String) :
    (writeString s).toList = '"' :: (escapeChars s.toList).toList ++ ['"'] := by
  simp [writeString]

/-- A written string is a prefix code: read off the front of a text, it gives the string and
what follows. -/
theorem writeString_prefix_unique {a b : String} {x y : List Char}
    (h : (writeString a).toList ++ x = (writeString b).toList ++ y) : a = b ∧ x = y := by
  simp only [writeString_toList, List.cons_append, List.append_assoc, List.cons.injEq,
    true_and] at h
  obtain ⟨hs, rfl⟩ := escapeChars_prefix_unique _ _ _ _ h
  exact ⟨String.toList_inj.mp hs, rfl⟩

/-! ## The scope as text -/

/-- An identifier's member of a scope's text, after the one before it; nothing when the scope
does not have it. -/
def optionalMember (lead : String) (o : Option String) : List Char :=
  (o.map fun v => lead.toList ++ (writeString v).toList).getD []

theorem scopeText_toList (s : Scope) :
    (scopeText s).toList = "\x7b\"organization_id\":".toList ++ (writeString s.organizationId).toList ++
      (optionalMember ",\"project_id\":" s.projectId ++
        (optionalMember ",\"environment_id\":" s.environmentId ++ ['\x7d'])) := by
  obtain ⟨o, p, e⟩ := s
  have hclose : ("\x7d" : String).toList = ['\x7d'] := by simp
  delta scopeText
  cases p <;> cases e <;>
    simp only [optionalMember, Option.map_none, Option.map_some, Option.getD_none,
      Option.getD_some, String.toList_append, List.append_assoc, List.nil_append, hclose,
      String.toList_empty]

/-- An optional member read off the front of a text whose rest cannot start as the member does. -/
theorem optionalMember_prefix_unique {lead : String} {o₁ o₂ : Option String} {x y : List Char}
    (hx : ¬ lead.toList <+: x) (hy : ¬ lead.toList <+: y)
    (h : optionalMember lead o₁ ++ x = optionalMember lead o₂ ++ y) : o₁ = o₂ ∧ x = y := by
  cases o₁ with
  | none =>
    cases o₂ with
    | none => exact ⟨rfl, h⟩
    | some v =>
      simp only [optionalMember, Option.map_none, Option.map_some, Option.getD_none,
        Option.getD_some, List.nil_append, List.append_assoc] at h
      exact absurd (h ▸ List.prefix_append _ _) hx
  | some u =>
    cases o₂ with
    | none =>
      simp only [optionalMember, Option.map_none, Option.map_some, Option.getD_none,
        Option.getD_some, List.nil_append, List.append_assoc] at h
      exact absurd (h ▸ List.prefix_append _ _) hy
    | some v =>
      simp only [optionalMember, Option.map_some, Option.getD_some, List.append_assoc,
        List.append_cancel_left_eq] at h
      obtain ⟨rfl, rfl⟩ := writeString_prefix_unique h
      exact ⟨rfl, rfl⟩

theorem projectLead_not_front (e : Option String) (z : List Char) :
    ¬ (",\"project_id\":" : String).toList <+: optionalMember ",\"environment_id\":" e ++ '\x7d' :: z := by
  cases e <;> simp [optionalMember]

theorem environmentLead_not_front (z : List Char) :
    ¬ (",\"environment_id\":" : String).toList <+: '\x7d' :: z := by
  simp

/-- A scope's text is a prefix code: read off the front of a text, it gives the scope and what
follows. -/
theorem scopeText_prefix_unique {s t : Scope} {x y : List Char}
    (h : (scopeText s).toList ++ x = (scopeText t).toList ++ y) : s = t ∧ x = y := by
  obtain ⟨o, p, e⟩ := s
  obtain ⟨o', p', e'⟩ := t
  simp only [scopeText_toList, List.append_assoc, List.append_cancel_left_eq,
    List.cons_append, List.nil_append] at h
  -- the organization, then each optional member in turn, read off the front
  obtain ⟨rfl, hp⟩ := writeString_prefix_unique h
  obtain ⟨rfl, he⟩ := optionalMember_prefix_unique (projectLead_not_front e x)
    (projectLead_not_front e' y) hp
  obtain ⟨rfl, hc⟩ := optionalMember_prefix_unique (environmentLead_not_front x)
    (environmentLead_not_front y) he
  exact ⟨rfl, (List.cons.inj hc).2⟩

example : scopeText (.project "o" "") = "\x7b\"organization_id\":\"o\",\"project_id\":\"\"\x7d" := by
  decide

/-! ## The query of a read -/

namespace Scoped

/-- Read back as form pairs, the query of a read is the base URL's own pairs, then the
organization and the key, then the project and the environment when the scope has them. -/
theorem formPairs_getUrl (c : Scoped) (key : String) :
    formPairs ((c.getUrl key).query.getD "") =
      formPairs (c.base.query.getD "") ++
        ([("organization_id", c.scope.organizationId), ("key", key)] ++
          (c.scope.projectId.map fun p => [("project_id", p)]).getD [] ++
          (c.scope.environmentId.map fun e => [("environment_id", e)]).getD []) :=
  formPairs_appendPairs c.base _

/-- The pairs a read adds tell the scope and the key: each identifier is under its own name, and
a missing one adds no pair. -/
theorem scopePairs_inj {s t : Scope} {k l : String}
    (h : [("organization_id", s.organizationId), ("key", k)] ++
        (s.projectId.map fun p => [("project_id", p)]).getD [] ++
        (s.environmentId.map fun e => [("environment_id", e)]).getD [] =
      [("organization_id", t.organizationId), ("key", l)] ++
        (t.projectId.map fun p => [("project_id", p)]).getD [] ++
        (t.environmentId.map fun e => [("environment_id", e)]).getD []) :
    s = t ∧ k = l := by
  obtain ⟨o, p, e⟩ := s
  obtain ⟨o', p', e'⟩ := t
  cases p <;> cases p' <;> cases e <;> cases e' <;> simp_all

/-- Two reads from one base query send the same query only for the same scope and key. -/
theorem getUrl_query_inj {c d : Scoped} {k l : String} (hbase : c.base.query = d.base.query)
    (h : (c.getUrl k).query = (d.getUrl l).query) : c.scope = d.scope ∧ k = l := by
  have hp := congrArg (fun q => formPairs (q.getD "")) h
  simp only [formPairs_getUrl, hbase, List.append_cancel_left_eq] at hp
  exact scopePairs_inj hp

/-! ## The body of a write or a removal -/

/-- A text is told by its UTF-8 bytes, since they read back as the text. -/
theorem toUTF8_toList_inj {a b : String} (h : a.toUTF8.toList = b.toUTF8.toList) : a = b := by
  have hd := congrArg Text.decodeLossy h
  rwa [Text.decodeLossy_toUTF8, Text.decodeLossy_toUTF8] at hd

/-- The front of a write's or a removal's body, the scope and then the key, read off whatever
follows. -/
theorem scopedKey_prefix_unique {s t : Scope} {k l : String} {x y : List Char}
    (h : "\x7b\"scope\":".toList ++ ((scopeText s).toList ++
        (",\"key\":".toList ++ ((writeString k).toList ++ x))) =
      "\x7b\"scope\":".toList ++ ((scopeText t).toList ++
        (",\"key\":".toList ++ ((writeString l).toList ++ y)))) :
    s = t ∧ k = l ∧ x = y := by
  rw [List.append_cancel_left_eq] at h
  obtain ⟨rfl, hk⟩ := scopeText_prefix_unique h
  rw [List.append_cancel_left_eq] at hk
  obtain ⟨rfl, rfl⟩ := writeString_prefix_unique hk
  exact ⟨rfl, rfl, rfl⟩

/-- Two bodies that start with a scope and a key, as bytes, are the same only for the same scope
and key. -/
theorem scopedKey_of_body {s t : Scope} {k l x y : String}
    (h : Body.bytes ("\x7b\"scope\":" ++ (scopeText s ++ (",\"key\":" ++ (writeString k ++ x)))).toUTF8.toList =
      Body.bytes ("\x7b\"scope\":" ++ (scopeText t ++ (",\"key\":" ++ (writeString l ++ y)))).toUTF8.toList) :
    s = t ∧ k = l := by
  rw [Body.bytes.injEq] at h
  have ht := congrArg String.toList (toUTF8_toList_inj h)
  simp only [String.toList_append] at ht
  obtain ⟨hs, hk, -⟩ := scopedKey_prefix_unique ht
  exact ⟨hs, hk⟩

/-- Two writes send the same body only for the same scope and key, whatever their values and
versions. -/
theorem writeDraft_body_inj {c d : Scoped} {k l : String} {v w : Value} {m n : Nat}
    {r q : Request} (hr : c.writeDraft k v m = .ok r) (hq : d.writeDraft l w n = .ok q)
    (h : r.body = q.body) : c.scope = d.scope ∧ k = l := by
  rw [(writeDraft_request c k v m hr).2, (writeDraft_request d l w n hq).2] at h
  simp only [String.append_assoc] at h
  exact scopedKey_of_body h

/-- Two removals send the same body only for the same scope and key. -/
theorem deleteDraft_body_inj {c d : Scoped} {k l : String} {r q : Request}
    (hr : c.deleteDraft k = .ok r) (hq : d.deleteDraft l = .ok q) (h : r.body = q.body) :
    c.scope = d.scope ∧ k = l := by
  rw [(deleteDraft_request c k hr).2, (deleteDraft_request d l hq).2] at h
  simp only [String.append_assoc] at h
  exact scopedKey_of_body h

end Scoped


/-- A scope in each of its encodings. As a value it is an object of the identifiers it has, an
empty one kept, and it decodes back. Read back as form pairs, the query of a read is the base
URL's own pairs, then the organization and the key, then the project and the environment when
the scope has them. Reads from one base query, writes whatever their values and versions, and
removals send the same query or body only for the same scope and key. -/
theorem scope_encodings_faithful :
    (∀ s : Scope,
      s.toValue = .object ((s.environmentId.map fun e => ("environment_id", Value.string e)).toList ++
          [("organization_id", .string s.organizationId)] ++
          (s.projectId.map fun p => ("project_id", Value.string p)).toList) ∧
        Scope.decodeValue s.toValue = .ok s) ∧
    (∀ (c : Scoped) (key : String),
      formPairs ((c.getUrl key).query.getD "") =
        formPairs (c.base.query.getD "") ++
          ([("organization_id", c.scope.organizationId), ("key", key)] ++
            (c.scope.projectId.map fun p => [("project_id", p)]).getD [] ++
            (c.scope.environmentId.map fun e => [("environment_id", e)]).getD [])) ∧
    (∀ (c d : Scoped) (k l : String), c.base.query = d.base.query →
      (c.getUrl k).query = (d.getUrl l).query → c.scope = d.scope ∧ k = l) ∧
    (∀ (c d : Scoped) (k l : String) (v w : Value) (m n : Nat) (r q : Request),
      c.writeDraft k v m = .ok r → d.writeDraft l w n = .ok q → r.body = q.body →
        c.scope = d.scope ∧ k = l) ∧
    (∀ (c d : Scoped) (k l : String) (r q : Request),
      c.deleteDraft k = .ok r → d.deleteDraft l = .ok q → r.body = q.body →
        c.scope = d.scope ∧ k = l) :=
  ⟨fun s => ⟨s.toValue_eq, s.decodeValue_toValue⟩, Scoped.formPairs_getUrl,
    fun _ _ _ _ hb h => Scoped.getUrl_query_inj hb h,
    fun _ _ _ _ _ _ _ _ _ _ hr hq h => Scoped.writeDraft_body_inj hr hq h,
    fun _ _ _ _ _ _ hr hq h => Scoped.deleteDraft_body_inj hr hq h⟩

end FunctionHost.State
