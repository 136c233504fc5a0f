import FunctionHost.Proofs.ChainClassification
import Mathlib.Data.List.Induction
/-!
# The message of a chain of contexts

The alternate rendering of an error chain shows every displayed text, outermost first, joined by
`": "` (`render`). The envelope's message walks the same texts with `joinText`, which leaves out
a text that the message built so far already ends with: a wrapper that prints its source would
otherwise show that source twice. A context is not such a wrapper, yet its text is left out the
same way when it is empty or happens to end the texts outside it, and the separator goes with
it. So the message of contexts over a bare fault or message is the rendering exactly when the
chain shows one text, or no text is one the rendering before it ends with (`Fresh`).

Results:
* `walk_eq_render`: a walk over fresh texts is their rendering.
* `walk_length_le`: a walk is never longer than the rendering.
* `walk_length_add_two_le`: a walk over two texts or more that are not fresh is shorter than the
  rendering by at least a separator.
* `message_contexts`, `render_contexts`: the envelope's message and the rendering of contexts
  over a bare cause, as walks over their texts.
* `context_message_eq_render_iff`: the message is the rendering exactly when there are no
  contexts or the texts are fresh; otherwise it is shorter by at least a separator.
* `empty_context_message`: an empty context over `x` renders as `": x"` but sends back `x`.
-/
namespace FunctionHost.Fault.Chain

/-- The alternate rendering of a chain: the displayed texts, outermost first, joined by `": "`. -/
def render (c : Chain) : String := ": ".intercalate (c.map Cause.text)

/-- Texts, outermost first, each of which the rendering of the texts before it does not end
with: the message walk leaves none of them out. -/
inductive Fresh : List String → Prop
  | nil : Fresh []
  | snoc {texts : List String} {t : String} :
      Fresh texts → (": ".intercalate texts).endsWith t = false → Fresh (texts ++ [t])

/-! ## Suffixes and joins -/

theorem endsWith_iff (m s : String) : m.endsWith s = true ↔ s.toList <:+ m.toList := by
  rw [← String.endsWith_toSlice, String.Slice.endsWith_string_iff, String.copy_toSlice]

theorem endsWith_empty_iff (s : String) : "".endsWith s = true ↔ s = "" := by
  rw [endsWith_iff, String.toList_empty, List.suffix_nil, String.toList_eq_nil_iff]

theorem joinText_of_endsWith {m s : String} (h : m.endsWith s = true) : joinText m s = m := by
  simp [joinText, h]

theorem joinText_of_fresh {m s : String} (h : m.endsWith s = false) (hm : m ≠ "") :
    joinText m s = m ++ ": " ++ s := by
  simp [joinText, h, hm]

theorem length_joinText_le (m s : String) : (joinText m s).length ≤ m.length + 2 + s.length := by
  unfold joinText
  split
  · omega
  · split
    · omega
    · simp only [String.length_append]
      have : ": ".length = 2 := rfl
      omega

theorem render_snoc {texts : List String} (h : texts ≠ []) (t : String) :
    ": ".intercalate (texts ++ [t]) = ": ".intercalate texts ++ ": " ++ t := by
  rw [String.intercalate_append_of_ne_nil h (List.cons_ne_nil t []), String.intercalate_singleton]

theorem length_render_snoc {texts : List String} (h : texts ≠ []) (t : String) :
    (": ".intercalate (texts ++ [t])).length = (": ".intercalate texts).length + 2 + t.length := by
  rw [render_snoc h, String.length_append, String.length_append]
  rfl

/-! ## The walk against the rendering -/

theorem Fresh.single {t : String} (h : "".endsWith t = false) : Fresh [t] :=
  Fresh.snoc Fresh.nil h

/-- The rendering of fresh texts is not empty: the first of them is not. -/
theorem Fresh.render_ne_empty {texts : List String} (h : Fresh texts) (hne : texts ≠ []) :
    ": ".intercalate texts ≠ "" := by
  cases h with
  | nil => exact absurd rfl hne
  | @snoc us t _ hend =>
    by_cases hus : us = []
    · subst hus
      intro ht
      rw [List.nil_append, String.intercalate_singleton] at ht
      subst ht
      rw [String.intercalate_nil, (endsWith_empty_iff "").2 rfl] at hend
      cases hend
    · rw [render_snoc hus]
      intro h0
      have := congrArg String.length h0
      simp only [String.length_append, String.length_empty] at this
      have : ": ".length = 2 := rfl
      omega

theorem walk_eq_render {texts : List String} (h : Fresh texts) :
    texts.foldl joinText "" = ": ".intercalate texts := by
  induction h with
  | nil => rfl
  | @snoc us t hus hend ih =>
    rw [List.foldl_append, List.foldl_cons, List.foldl_nil, ih]
    by_cases hnil : us = []
    · subst hnil
      simp [joinText_empty]
    · rw [joinText_of_fresh hend (hus.render_ne_empty hnil), render_snoc hnil]

/-- A walk is never longer than the rendering: each step adds at most a separator and a text. -/
theorem walk_length_le (texts : List String) :
    (texts.foldl joinText "").length ≤ (": ".intercalate texts).length := by
  induction texts using List.reverseRecOn with
  | nil => simp
  | append_singleton us t ih =>
    rw [List.foldl_append, List.foldl_cons, List.foldl_nil]
    by_cases hnil : us = []
    · subst hnil
      simp [joinText_empty]
    · have hstep := length_joinText_le (us.foldl joinText "") t
      rw [length_render_snoc hnil]
      omega

/-- A walk over two texts or more that are not fresh leaves one out, with its separator, and is
shorter than the rendering by at least the separator. -/
theorem walk_length_add_two_le (texts : List String) (hlen : 2 ≤ texts.length)
    (hstale : ¬ Fresh texts) :
    (texts.foldl joinText "").length + 2 ≤ (": ".intercalate texts).length := by
  induction texts using List.reverseRecOn with
  | nil => simp at hlen
  | append_singleton us t ih =>
    have hnil : us ≠ [] := by
      rintro rfl
      simp at hlen
    rw [List.foldl_append, List.foldl_cons, List.foldl_nil, length_render_snoc hnil]
    by_cases hus : Fresh us
    · -- the texts before `t` are all shown, so `t` is the one left out
      have hend : (": ".intercalate us).endsWith t = true := by
        cases hfresh : (": ".intercalate us).endsWith t with
        | false => exact absurd (Fresh.snoc hus hfresh) hstale
        | true => rfl
      rw [walk_eq_render hus, joinText_of_endsWith hend]
      omega
    · have hstep := length_joinText_le (us.foldl joinText "") t
      by_cases hlong : 2 ≤ us.length
      · have := ih hlong hus
        omega
      · -- a single stale text is the empty one, and the next text is joined without separator
        obtain ⟨u, rfl⟩ : ∃ u, us = [u] := by
          match us, hnil, hlong with
          | [u], _, _ => exact ⟨u, rfl⟩
          | _ :: _ :: _, _, h => simp at h
        have hu : u = "" := by
          cases hfresh : "".endsWith u with
          | false => exact absurd (Fresh.single hfresh) hus
          | true => exact (endsWith_empty_iff u).1 hfresh
        subst hu
        simp [joinText_empty]
        omega

theorem walk_eq_render_iff {texts : List String} (hlen : 2 ≤ texts.length) :
    texts.foldl joinText "" = ": ".intercalate texts ↔ Fresh texts := by
  refine ⟨fun heq => Classical.byContradiction fun hstale => ?_, walk_eq_render⟩
  have := walk_length_add_two_le texts hlen hstale
  rw [heq] at this
  omega

/-! ## Contexts over a bare cause -/

/-- Contexts pushed over a chain stand on top of it, the last one outermost. -/
theorem contexts_eq_append (ss : List String) (c : Chain) :
    ss.foldl context c = ss.reverse.map (fun s => (⟨s, none⟩ : Cause)) ++ c := by
  induction ss generalizing c with
  | nil => rfl
  | cons s rest ih =>
    rw [List.foldl_cons, ih]
    simp [context]

theorem message_toFaultFrom_plain (ts : List String) (c : Chain) (m : String) :
    (toFaultFrom m (ts.map (fun s => (⟨s, none⟩ : Cause)) ++ c)).message =
      (toFaultFrom (ts.foldl joinText m) c).message := by
  induction ts generalizing m with
  | nil => rfl
  | cons t rest ih => exact ih (joinText m t)

theorem message_toFaultFrom_single (b : Cause) (m : String) :
    (toFaultFrom m [b]).message = joinText m b.text := by
  unfold toFaultFrom
  cases b.fault <;> rfl

/-- The envelope's message for contexts `ss` over a bare cause is the walk over the contexts'
texts, the last one first, then the cause's. -/
theorem message_contexts (b : Cause) (ss : List String) :
    (ss.foldl context [b]).toFault.message = (ss.reverse ++ [b.text]).foldl joinText "" := by
  rw [contexts_eq_append, toFault, message_toFaultFrom_plain, message_toFaultFrom_single,
    List.foldl_append, List.foldl_cons, List.foldl_nil]

theorem render_contexts (b : Cause) (ss : List String) :
    (ss.foldl context [b]).render = ": ".intercalate (ss.reverse ++ [b.text]) := by
  simp [render, contexts_eq_append, Function.comp_def]

/-- For contexts `ss` over a bare fault or message (any single cause `b`), the envelope's message
is the alternate rendering of the chain exactly when there are no contexts, or each text is one
the rendering of the texts outside it does not end with. Otherwise a text is left out with its
separator, and the message is shorter than the rendering by at least that separator. -/
theorem context_message_eq_render_iff (b : Cause) (ss : List String) :
    ((ss.foldl context [b]).toFault.message = (ss.foldl context [b]).render ↔
        ss = [] ∨ Fresh (ss.reverse ++ [b.text])) ∧
      (ss ≠ [] → ¬ Fresh (ss.reverse ++ [b.text]) →
        (ss.foldl context [b]).toFault.message.length + 2 ≤
          (ss.foldl context [b]).render.length) := by
  rw [message_contexts, render_contexts]
  cases ss with
  | nil => simp [joinText_empty]
  | cons s rest =>
    -- a context and the cause: two texts at least, where a stale one is left out
    have hlen : 2 ≤ (((s :: rest).reverse ++ [b.text])).length := by simp
    refine ⟨?_, fun _ hstale => walk_length_add_two_le _ hlen hstale⟩
    rw [walk_eq_render_iff hlen]
    simp

/-- An empty context over the message `x` is rendered `": x"`, but the envelope's message is
`x`: the empty text ends the empty message, so it is left out with its separator. -/
theorem empty_context_message :
    ((ofMessage "x").context "").toFault.message = "x" ∧
      ((ofMessage "x").context "").render = ": x" := by
  constructor
  · simp [ofMessage, context, toFault, toFaultFrom, joinText_empty, Fault.failed, Fault.new]
  · simp [ofMessage, context, render]

end FunctionHost.Fault.Chain
