import FunctionHost.Server.Lifecycle
/-!
# Readiness and the order of shutdown

Three parties write the readiness flag: serving raises it when it starts, the shutdown watcher
lowers it when it sees the root token cancelled, and serving lowers it again when it returns.
Probes read it from connection tasks. Every interleaving of their steps, of the cancellation (also
before serving starts) and of the clock is a list of `Event`s, so what holds of every list holds
of every run.

`Orderly` is what every reachable lifecycle keeps. Serving raises the flag only from `idle`, and
while serving is idle the watcher has not been spawned, so the flag is raised before the watcher
can see anything: a cancellation made before serving is seen after the raise, and the watcher's
lowering is the last word. The watcher signals shutdown only after the root was cancelled and
then keeps the flag down; it enters its grace period no earlier than the cancellation, so the
termination of in-flight invocations comes a whole grace period after it.

The watcher is a task of its own, so a probe may be answered between the cancellation and the
watcher's next step, while the flag is still up: `probe_after_cancel_reports_ready`.

Results:
* `Orderly.step`, `orderly_steps`: every run keeps `Orderly`.
* `steps_returned`: once serving has returned, the flag stays down.
* `steps_answers_lowered`: once shutdown was signalled, every later probe is told not ready.
* `lifecycle_readiness_order`: the three together, for every run from a new server.
* `probe_after_cancel_reports_ready`: a probe between cancellation and the watcher's step is told
  ready.
-/
namespace FunctionHost.Server.Lifecycle

/-- What every reachable lifecycle keeps. -/
structure Orderly (s : Lifecycle) : Prop where
  /-- Before serving starts the watcher is not spawned and nothing was signalled. -/
  idle : s.serve = .idle → s.watcher = .unborn ∧ s.shutdown = false
  /-- Shutdown is signalled only after the root was cancelled, and the flag is then down. -/
  lowered : s.shutdown = true → s.rootAt.isSome ∧ s.readiness.accepting = false
  /-- Once serving has returned the flag is down. -/
  returned : s.serve = .returned → s.readiness.accepting = false
  /-- The cancellation is in the past. -/
  cancelled : ∀ r, s.rootAt = some r → r ≤ s.now
  /-- The grace period started no earlier than the cancellation. -/
  draining : ∀ since, s.watcher = .draining since → ∃ r, s.rootAt = some r ∧ r ≤ since
  /-- Termination came a grace period after the cancellation. -/
  terminated : ∀ t, s.terminateAt = some t → ∃ r, s.rootAt = some r ∧ r + s.grace ≤ t

theorem orderly_new (grace : Nat) : Orderly (new grace) := by
  refine ⟨fun _ => ⟨rfl, rfl⟩, ?_, ?_, ?_, ?_, ?_⟩ <;> simp [new]

@[simp] theorem step_grace (s : Lifecycle) (e : Event) : (s.step e).grace = s.grace := by
  cases e <;> simp only [step] <;> (repeat' split) <;> rfl

/-- Serving starts only from `idle`, when nothing was signalled: it raises the flag and spawns
the watcher. -/
theorem Orderly.start {s : Lifecycle} (h : Orderly s) : Orderly (s.step .start) := by
  simp only [step]
  split
  · rename_i hidle
    obtain ⟨-, hshut⟩ := h.idle hidle
    exact ⟨by simp, by simp [hshut], by simp, h.cancelled, by simp, h.terminated⟩
  · exact h

/-- The watcher lowers the flag when it sees the cancelled root, and starts its grace period at
that instant. -/
theorem Orderly.observe {s : Lifecycle} (h : Orderly s) : Orderly (s.step .observe) := by
  simp only [step]
  split
  · rename_i hw
    obtain ⟨hwait, hroot⟩ := hw
    obtain ⟨r, hr⟩ := Option.isSome_iff_exists.1 hroot
    refine ⟨?_, fun _ => ⟨hroot, rfl⟩, fun _ => rfl, h.cancelled, ?_, h.terminated⟩
    · -- serving is not idle: the watcher has been spawned
      intro hidle
      have := (h.idle hidle).1
      rw [hwait] at this
      cases this
    · intro since hsince
      simp only [WatchPhase.draining.injEq] at hsince
      exact ⟨r, hr, hsince ▸ h.cancelled r hr⟩
  · exact h

/-- At the end of the grace period the watcher terminates what is still in flight. -/
theorem Orderly.expire {s : Lifecycle} (h : Orderly s) : Orderly (s.step .expire) := by
  simp only [step]
  split
  · rename_i since hdrain
    split
    · rename_i hlate
      obtain ⟨r, hr, hle⟩ := h.draining since hdrain
      refine ⟨fun hidle => ?_, h.lowered, h.returned, h.cancelled, fun _ hw => (by cases hw), ?_⟩
      · have := (h.idle hidle).1
        rw [hdrain] at this
        cases this
      · intro t ht
        simp only [Option.some.injEq] at ht
        refine ⟨r, hr, ?_⟩
        dsimp only
        omega
    · exact h
  · exact h

/-- Serving returns, drained or failed: the flag goes down and the watcher is aborted, unless it
had finished. -/
theorem Orderly.stop {s : Lifecycle} (h : Orderly s) :
    Orderly { s with readiness := ⟨false⟩, serve := .returned,
                     watcher := if s.watcher = .finished then .finished else .aborted } := by
  refine ⟨fun hidle => (by cases hidle), fun hs => ⟨(h.lowered hs).1, rfl⟩, fun _ => rfl,
    h.cancelled, ?_, h.terminated⟩
  intro since hw
  split at hw <;> cases hw

/-- Before the root is cancelled no grace period has started and nothing was terminated. -/
theorem Orderly.uncancelled {s : Lifecycle} (h : Orderly s) (hroot : s.rootAt = none) :
    (∀ since, s.watcher ≠ .draining since) ∧ s.terminateAt = none := by
  refine ⟨fun since hw => ?_, ?_⟩
  · obtain ⟨r, hr, -⟩ := h.draining since hw
    rw [hroot] at hr
    cases hr
  · cases ht : s.terminateAt with
    | none => rfl
    | some t =>
      obtain ⟨r, hr, -⟩ := h.terminated t ht
      rw [hroot] at hr
      cases hr

/-- A first cancellation is stamped with the current instant; a second one changes nothing. -/
theorem Orderly.cancel {s : Lifecycle} (h : Orderly s) : Orderly (s.step .cancel) := by
  cases hroot : s.rootAt with
  | some r =>
    have hs : s.step .cancel = s := by
      simp only [Lifecycle.step, hroot, Option.orElse_some]
      rw [← hroot]
    rw [hs]
    exact h
  | none =>
    have hs : s.step .cancel = { s with rootAt := some s.now } := by
      simp [Lifecycle.step, hroot]
    rw [hs]
    obtain ⟨hdrain, hterm⟩ := h.uncancelled hroot
    refine ⟨h.idle, fun hs => ⟨rfl, (h.lowered hs).2⟩, h.returned, fun r hr => ?_,
      fun since hw => absurd hw (hdrain since), fun t ht => ?_⟩
    · simp only [Option.some.injEq] at hr
      exact Nat.le_of_eq hr.symm
    · simp only [hterm] at ht
      cases ht

theorem Orderly.step {s : Lifecycle} (h : Orderly s) (e : Event) : Orderly (s.step e) := by
  cases e with
  | wait d =>
    exact ⟨h.idle, h.lowered, h.returned, fun r hr => Nat.le_add_right_of_le (h.cancelled r hr),
      h.draining, h.terminated⟩
  | cancel => exact h.cancel
  | start => exact h.start
  | observe => exact h.observe
  | expire => exact h.expire
  | drain =>
    simp only [Lifecycle.step]
    split
    · exact h.stop
    · exact h
  | crash =>
    simp only [Lifecycle.step]
    split
    · exact h.stop
    · exact h
  | probe =>
    simp only [Lifecycle.step]
    split
    · exact ⟨h.idle, h.lowered, h.returned, h.cancelled, h.draining, h.terminated⟩
    · exact h

theorem steps_grace (evs : List Event) : ∀ (s : Lifecycle), (s.steps evs).grace = s.grace := by
  induction evs with
  | nil => intro s; rfl
  | cons e rest ih => intro s; exact (ih (s.step e)).trans (step_grace s e)

theorem orderly_steps (evs : List Event) : ∀ {s : Lifecycle}, Orderly s → Orderly (s.steps evs) := by
  induction evs with
  | nil => intro s h; exact h
  | cons e rest ih => intro s h; exact ih (h.step e)

theorem step_shutdown {s : Lifecycle} (h : s.shutdown = true) (e : Event) :
    (s.step e).shutdown = true := by
  cases e <;> simp only [Lifecycle.step] <;> (repeat' split) <;> simp_all

theorem step_answers (s : Lifecycle) (e : Event) :
    ∃ told, (s.step e).answers = s.answers ++ told ∧ ∀ b ∈ told, b = s.readiness.ready := by
  by_cases hp : e = .probe ∧ s.serve = .serving
  · obtain ⟨rfl, hs⟩ := hp
    exact ⟨[s.readiness.ready], by simp [Lifecycle.step, hs], by simp⟩
  · -- any other step leaves the answers alone
    refine ⟨[], ?_, by simp⟩
    rw [List.append_nil]
    cases e <;> simp only [Lifecycle.step] <;> (repeat' split) <;> simp_all

/-- Once serving has returned, the flag stays down whatever happens next. -/
theorem steps_returned (later : List Event) :
    ∀ {s : Lifecycle}, s.serve = .returned → s.readiness.accepting = false →
      (s.steps later).serve = .returned ∧ (s.steps later).readiness.accepting = false := by
  induction later with
  | nil => intro s hs hr; exact ⟨hs, hr⟩
  | cons e rest ih =>
    intro s hs hr
    obtain ⟨hs', hr'⟩ := step_returned s e hs hr
    exact ih hs' hr'

/-- Once shutdown was signalled, every later probe is told not ready. -/
theorem steps_answers_lowered (later : List Event) :
    ∀ {s : Lifecycle}, Orderly s → s.shutdown = true →
      ∃ told, (s.steps later).answers = s.answers ++ told ∧ ∀ b ∈ told, b = false := by
  induction later with
  | nil => intro s _ _; exact ⟨[], by simp [steps], by simp⟩
  | cons e rest ih =>
    intro s h hs
    obtain ⟨now, hnow, hfalse⟩ := step_answers s e
    obtain ⟨rest', hrest, hrest_false⟩ := ih (h.step e) (step_shutdown hs e)
    -- the flag was down when this step's probe, if any, read it
    have hdown : s.readiness.ready = false := by
      simp [Readiness.ready, Readiness.connections, (h.lowered hs).2]
    refine ⟨now ++ rest', ?_, ?_⟩
    · change ((s.step e).steps rest).answers = _
      rw [hrest, hnow, List.append_assoc]
    · intro b hb
      rcases List.mem_append.1 hb with hb | hb
      · exact (hfalse b hb).trans hdown
      · exact hrest_false b hb

/-- In every run of a server: once serving has returned, readiness reports no connections, now
and after any later steps; once the watcher has signalled shutdown, the root was cancelled,
serving had started, and every later probe is told not ready; and in-flight invocations are
terminated only a whole grace period after the root was cancelled. -/
theorem lifecycle_readiness_order (grace : Nat) (evs : List Event) :
    let s := (new grace).steps evs
    (s.serve = .returned → ∀ later, (s.steps later).readiness.connections = 0) ∧
      (s.shutdown = true → s.rootAt.isSome ∧ s.serve ≠ .idle ∧
        ∀ later, ∃ told, (s.steps later).answers = s.answers ++ told ∧ ∀ b ∈ told, b = false) ∧
      (∀ t, s.terminateAt = some t → ∃ r, s.rootAt = some r ∧ r + grace ≤ t) := by
  intro s
  have h : Orderly s := orderly_steps evs (orderly_new grace)
  have hgrace : s.grace = grace := steps_grace evs (new grace)
  refine ⟨?_, ?_, ?_⟩
  · intro hs later
    have := (steps_returned later hs (h.returned hs)).2
    simp [Readiness.connections, this]
  · intro hs
    refine ⟨(h.lowered hs).1, fun hidle => ?_, fun later => steps_answers_lowered later h hs⟩
    rw [(h.idle hidle).2] at hs
    cases hs
  · intro t ht
    simpa [hgrace] using h.terminated t ht

/-- A probe answered after the root was cancelled but before the watcher's next step is told
ready: the watcher, not the cancellation, lowers the flag. -/
theorem probe_after_cancel_reports_ready :
    let s := (new 0).steps [.start, .cancel]
    s.rootAt = some 0 ∧ s.answers = [] ∧ (s.step .probe).answers = [true] := by
  decide

end FunctionHost.Server.Lifecycle
