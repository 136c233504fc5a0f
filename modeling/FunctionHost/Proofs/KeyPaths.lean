import FunctionHost.Payload.Access
/-!
# Key paths compose

Every typed accessor of a payload resolves a path of keys and converts the value at its end.
Resolving walks one key at a time: each key but the last must lead to an object, or to a string
holding the text of one, and the walk goes on inside it. So a path can be cut anywhere: reading
along `p ++ q` is reading the object at `p` and then reading along `q` inside it, errors
included, since the key an error names is the key where the walk stopped in both readings.

`KeyPathLaws` collects what a typed read along a path satisfies: the cut law, the refusal of the
empty path, and that a one-key path is refused as not found exactly when the key is absent and
otherwise depends on that key's value alone.

Results:
* `resolve_cons`: a path of two keys or more steps into the object at its first key.
* `getObject_cons`: the object at a path of two keys or more, one step at a time.
* `resolve_append`: resolving `p ++ q` resolves `q` inside the object at `p`.
* `keyPathLaws_of_read`: a read that resolves and then converts, without ever refusing the key
  as not found, satisfies the laws.
* `accessors_follow_key_paths`: the six accessors satisfy them.
-/
namespace FunctionHost.Payload

open Json

/-- The laws of a typed read along a key path. -/
structure KeyPathLaws {α : Type} (get : Members → List String → Except AccessError α) : Prop where
  /-- Reading along `p ++ q` reads the object at `p`, then along `q` inside it. -/
  append : ∀ (ms : Members) (p q : List String), p ≠ [] → q ≠ [] →
    get ms (p ++ q) = getObject ms p >>= fun inner => get inner q
  /-- An empty path names no key. -/
  nil : ∀ ms : Members, get ms [] = .error .noKeys
  /-- A one-key path is refused as not found exactly when the key is absent. -/
  single_absent : ∀ (ms : Members) (k : String),
    get ms [k] = .error (.keyNotFound k) ↔ lookup k ms = none
  /-- A one-key path reads the key's value and nothing else of the object. -/
  single_local : ∀ (ms ms' : Members) (k : String), lookup k ms = lookup k ms' →
    get ms [k] = get ms' [k]

theorem resolve_single (ms : Members) (k : String) :
    resolve ms [k] = match lookup k ms with
      | some v => .ok (k, v)
      | none => .error (.keyNotFound k) := rfl

theorem getObject_single (ms : Members) (k : String) :
    getObject ms [k] = match lookup k ms with
      | some v => toObject k v
      | none => .error (.keyNotFound k) := by
  unfold getObject
  rw [resolve_single]
  cases lookup k ms <;> rfl

/-- A path of two keys or more steps into the object at its first key. -/
theorem resolve_cons (ms : Members) (k : String) (keys : List String) (h : keys ≠ []) :
    resolve ms (k :: keys) = getObject ms [k] >>= fun inner => resolve inner keys := by
  obtain ⟨k2, rest, rfl⟩ := List.exists_cons_of_ne_nil h
  rw [getObject_single, resolve]
  cases lookup k ms with
  | none => rfl
  | some v =>
    simp only
    cases toObject k v <;> rfl

theorem getObject_cons (ms : Members) (k : String) (keys : List String) (h : keys ≠ []) :
    getObject ms (k :: keys) = getObject ms [k] >>= fun inner => getObject inner keys := by
  unfold getObject
  rw [resolve_cons ms k keys h, bind_assoc]
  rfl

theorem resolve_append (ms : Members) {p q : List String} (hp : p ≠ []) (hq : q ≠ []) :
    resolve ms (p ++ q) = getObject ms p >>= fun inner => resolve inner q := by
  induction p generalizing ms with
  | nil => exact absurd rfl hp
  | cons k p' ih =>
    cases p' with
    | nil => exact resolve_cons ms k q hq
    | cons k' p'' =>
      -- both sides step into the object at `k` first; the rest of the path is the induction
      have hp' : k' :: p'' ≠ [] := List.cons_ne_nil k' p''
      rw [List.cons_append, resolve_cons ms k (k' :: p'' ++ q) (by simp),
        getObject_cons ms k _ hp', bind_assoc]
      congr 1
      funext inner
      exact ih inner hp'

section Read

variable {α : Type} (conv : String × Value → Except AccessError α)

/-- A read along a path that resolves the path and converts the value found at its last key,
without ever refusing that key as not found, satisfies the laws of key paths. -/
theorem keyPathLaws_of_read (hconv : ∀ k v, conv (k, v) ≠ .error (.keyNotFound k)) :
    KeyPathLaws (fun ms keys => resolve ms keys >>= conv) where
  append ms p q hp hq := by
    rw [resolve_append ms hp hq, bind_assoc]
  nil ms := rfl
  single_absent ms k := by
    rw [resolve_single]
    cases hk : lookup k ms with
    | none => simp [bind, Except.bind]
    | some v => simpa [bind, Except.bind] using hconv k v
  single_local ms ms' k h := by
    rw [resolve_single, resolve_single, h]

end Read

theorem toObject_ne_keyNotFound (k : String) (v : Value) :
    toObject k v ≠ .error (.keyNotFound k) := by
  unfold toObject
  split
  · simp
  · split <;> simp
  · simp

/-- Each of the six accessors of a payload, the object one included, follows the laws of key
paths: a path walks through nested objects and through strings holding objects alike, at any
depth, and can be cut anywhere. -/
theorem accessors_follow_key_paths :
    KeyPathLaws getString ∧ KeyPathLaws getInt ∧ KeyPathLaws getFloat ∧ KeyPathLaws getBool ∧
      KeyPathLaws getArray ∧ KeyPathLaws getObject := by
  refine ⟨keyPathLaws_of_read _ ?_, keyPathLaws_of_read _ ?_, keyPathLaws_of_read _ ?_,
    keyPathLaws_of_read _ ?_, keyPathLaws_of_read _ ?_,
    keyPathLaws_of_read _ toObject_ne_keyNotFound⟩
  -- the other five convert a scalar, a string or an array, and refuse only with a cast of the
  -- value's key
  all_goals
    intro k v
    cases v <;> simp [pure, Except.pure, throw, throwThe, MonadExceptOf.throw]
    all_goals split <;> simp

end FunctionHost.Payload
