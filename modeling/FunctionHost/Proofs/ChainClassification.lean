import FunctionHost.Fault.Chain
/-!
# Classifying a chain of causes

Two walks down a chain decide what a handler's error becomes. `Chain.find` stops at the first
recoverable fault; `Chain.toFault` builds the message as it walks and stops at the first cause
that is a fault. They stop at the same cause, so the envelope carries the kind, trace and data of
the fault that `find` returns, and a chain with no recoverable fault becomes a final failure with
neither trace nor data. Layers put over a chain on its way out are never recoverable, so no
number of them changes what the chain is classified as.

Results:
* `toFaultFrom_untagged`: a chain with no recoverable fault becomes a final failure.
* `toFault_trace_data`: the envelope's trace and data are those of the first recoverable fault.
* `kind?_pushAll`: layers keep the kind of a chain.
* `toFault_ofFault_eq`: a bare fault comes back unchanged.
* `chain_envelope_classification`: the whole classification of every chain.
-/
namespace FunctionHost.Fault.Chain

/-- A chain with no recoverable fault becomes a final failure, whatever its message. -/
theorem toFaultFrom_untagged {c : Chain} (h : c.find = none) (message : String) :
    ∃ m, c.toFaultFrom message = Fault.failed m := by
  induction c generalizing message with
  | nil => exact ⟨message, rfl⟩
  | cons cause rest ih =>
    cases hf : cause.fault with
    | some f => simp [find, hf] at h
    | none =>
      simp only [toFaultFrom, hf]
      exact ih (by simpa [find, hf] using h) _

/-- The envelope's trace and data are the first recoverable fault's, both absent when there is
none. -/
theorem toFault_trace_data (c : Chain) (message : String) :
    (c.toFaultFrom message).stackTrace = c.find.bind Fault.stackTrace ∧
      (c.toFaultFrom message).data = c.find.bind Fault.data := by
  cases h : c.find with
  | some f =>
    obtain ⟨-, ht, hd⟩ := toFaultFrom_of_find h message
    exact ⟨ht, hd⟩
  | none =>
    obtain ⟨m, hm⟩ := toFaultFrom_untagged h message
    rw [hm]
    exact ⟨rfl, rfl⟩

theorem isKind_iff (k : Kind) (c : Chain) : c.isKind k = true ↔ c.kind? = some k := by
  simp [isKind]

/-- A layer pushes a cause that is not a recoverable fault. -/
@[simp] theorem find_push (c : Chain) (l : Layer) : (c.push l).find = c.find := by
  cases l <;> rfl

theorem kind?_pushAll (layers : List Layer) (c : Chain) :
    (layers.foldl push c).kind? = c.kind? := by
  induction layers generalizing c with
  | nil => rfl
  | cons l rest ih =>
    rw [List.foldl_cons, ih]
    simp only [kind?, find_push]

/-- Nothing is joined to an empty message: the first text is the message. -/
theorem joinText_empty (segment : String) : joinText "" segment = segment := by
  unfold joinText
  split
  · -- only the empty text ends the empty message
    rename_i h
    rw [← String.endsWith_toSlice, String.Slice.endsWith_string_iff] at h
    obtain ⟨t, ht⟩ := h
    simp only [String.copy_toSlice, String.toList_empty, List.append_eq_nil_iff,
      String.toList_eq_nil_iff] at ht
    exact ht.2.symm
  · rfl

/-- `FunctionError::from(anyhow::Error::new(fe))` gives back `fe`. -/
theorem toFault_ofFault_eq (f : Fault) : (ofFault f).toFault = f := by
  simp [ofFault, toFault, toFaultFrom, joinText_empty]

/-- For every chain: the envelope's kind is the first recoverable fault's, or `failed` when there
is none; its trace and data are that fault's, or absent; each kind predicate holds exactly for
the chain's kind; any layers keep the kind; and a bare fault comes back unchanged. -/
theorem chain_envelope_classification (c : Chain) :
    c.toFault.kind = c.kind?.getD .failed ∧
      c.toFault.stackTrace = c.find.bind Fault.stackTrace ∧
      c.toFault.data = c.find.bind Fault.data ∧
      (∀ k, c.isKind k = true ↔ c.kind? = some k) ∧
      (∀ layers : List Layer, (layers.foldl push c).kind? = c.kind?) ∧
      ∀ f : Fault, (ofFault f).toFault = f := by
  obtain ⟨ht, hd⟩ := toFault_trace_data c ""
  exact ⟨toFault_kind c "", ht, hd, fun k => isKind_iff k c, fun layers => kind?_pushAll layers c,
    toFault_ofFault_eq⟩

end FunctionHost.Fault.Chain
