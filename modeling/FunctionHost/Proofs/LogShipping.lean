import FunctionHost.ActivityLog.Writer
import FunctionHost.Proofs.RetryAttempts
/-!
# Every byte of an activity log is shipped once, in order

A program writes to its activity log, through the writer or its sinks, flushes it and lets
time pass, in any order; the ticker flushes on its own on the way; and at the end the log is
closed. The collector answers each shipment in any way: any status, no answer, or an answer
too late. Whatever it does, the bytes the flushes take are exactly the bytes written.

The argument is one invariant, `Writer.Ledger`: the bytes shipped, in order, followed by the
buffer, are the bytes written; every shipment carried bytes, shipped its whole chunk in one go,
and ended before the next one started and no later than the writer's busy time. A flush takes
the whole buffer and starts no earlier than the busy time, and a shipment never ends before it
starts (`ship_start_le`), so each step keeps the ledger whatever the shipment's outcome.

**Results.**
* `attemptFrom_start_le`: the retry loop never ends before it starts.
* `Writer.Ledger.flushAt`, `Writer.Ledger.tickUntil`: a flush, and the ticker's flushes, keep
  the ledger.
* `Writer.ledger_performAll`: a run of writes, flushes and waits keeps it, its bytes appended.
* `close_ships_every_byte_once`: after any run and a close, the shipments carried every byte
  written, in order, each once, in non-empty chunks shipped whole; they did not overlap; the
  ticker has stopped and every shipment has ended; and nothing written afterwards is shipped.
-/
namespace FunctionHost.ActivityLog

open Transport

/-- The retry loop ends no earlier than it starts: answers, sleeps and a cancellation that
cuts the loop short all come after the round's start. -/
theorem attemptFrom_start_le (retry : RetryConfig) (cancelAt : Option Nat)
    (attempt : Nat → Answer) (left n : Nat) (t : Moment) :
    t.nanos ≤ (attemptFrom retry cancelAt attempt left n t).2.nanos := by
  rw [RetryPlan.attemptFrom_eq_run]
  exact (RetryPlan.ofConfig retry).run_start_le attempt cancelAt left n t

namespace Writer

/-- A shipment never ends before it starts, whatever the collector does. -/
theorem ship_start_le (w : Writer) (data : List UInt8) (start : Nat) :
    start ≤ (w.ship data start).2 := by
  have h := attemptFrom_start_le w.client.retry none
    (fun _ => executeDraft w.net (w.uploadDraft data)) w.client.retry.maxRetries 1 ⟨start, false⟩
  rcases hx : executeWith w.client.retry none (fun _ => executeDraft w.net (w.uploadDraft data))
    ⟨start, false⟩ with ⟨r, finish⟩
  simp only [executeWith] at hx
  rw [hx] at h
  unfold ship
  simp only [executeWith, hx]
  split
  · omega
  · cases r with
    | error e => exact h
    | ok resp =>
      dsimp only
      split <;> exact h

/-! ## What a flush does -/

theorem flushAt_empty (w : Writer) (t : Nat) (h : w.buffer = []) :
    (w.flushAt t).2 = { w with busyUntil := Nat.max t w.busyUntil } := by
  simp [flushAt, h]

theorem flushAt_take (w : Writer) (t : Nat) (h : w.buffer ≠ []) :
    (w.flushAt t).2 =
      { w with
        buffer := []
        busyUntil := (w.ship w.buffer (Nat.max t w.busyUntil)).2
        shipped := w.shipped ++
          [⟨w.buffer, Nat.max t w.busyUntil, (w.ship w.buffer (Nat.max t w.busyUntil)).2⟩] } := by
  simp [flushAt, h]

@[simp] theorem flushAt_nextTick (w : Writer) (t : Nat) : (w.flushAt t).2.nextTick = w.nextTick := by
  unfold flushAt
  split <;> rfl

@[simp] theorem flushAt_buffer (w : Writer) (t : Nat) : (w.flushAt t).2.buffer = [] := by
  by_cases h : w.buffer = []
  · rw [flushAt_empty w t h]
    exact h
  · rw [flushAt_take w t h]

@[simp] theorem flushAt_uploadUrl (w : Writer) (t : Nat) :
    (w.flushAt t).2.uploadUrl = w.uploadUrl := by
  unfold flushAt
  split <;> rfl

theorem tickUntil_uploadUrl (target : Nat) :
    ∀ (fuel : Nat) (w : Writer), (w.tickUntil target fuel).uploadUrl = w.uploadUrl
  | 0, _ => rfl
  | fuel + 1, w => by
    rw [Writer.tickUntil]
    split
    · split
      · rw [tickUntil_uploadUrl target fuel]
        exact flushAt_uploadUrl w _
      · rfl
    · rfl

/-! ## The ledger -/

/-- What a writer keeps about the bytes `written` to it: shipped in order, then buffered, they
are the bytes written; each shipment carried bytes, shipped them whole from its start, and ended
no earlier than it started and no later than the busy time; and each ended before any later one
started. -/
structure Ledger (written : List UInt8) (w : Writer) : Prop where
  bytes : (w.shipped.map Shipment.data).flatten ++ w.buffer = written
  whole : ∀ s ∈ w.shipped, s.data ≠ [] ∧ (w.ship s.data s.start).2 = s.finish
  timed : ∀ s ∈ w.shipped, s.start ≤ s.finish ∧ s.finish ≤ w.busyUntil
  ordered : w.shipped.Pairwise fun a b => a.finish ≤ b.start

theorem ledger_fresh (u : Url) (token : Option String) (settings : Settings) (client : Client)
    (net : Network) (now : Nat) : Ledger [] (fresh u token settings client net now) :=
  ⟨rfl, fun _ h => (by cases h), fun _ h => (by cases h), List.Pairwise.nil⟩

/-- The ledger reads the shipments, the buffer and the busy time, and the settings a shipment
uses; a change of the clock or the ticker keeps it. -/
theorem Ledger.clock {written : List UInt8} {w : Writer} (h : Ledger written w) (now : Nat)
    (tick : Option Nat) : Ledger written { w with now, nextTick := tick } :=
  ⟨h.bytes, h.whole, h.timed, h.ordered⟩

theorem Ledger.write {written : List UInt8} {w : Writer} (h : Ledger written w)
    (bytes : List UInt8) : Ledger (written ++ bytes) (w.write bytes).2 := by
  refine ⟨?_, h.whole, h.timed, h.ordered⟩
  simp only [Writer.write, ← List.append_assoc, h.bytes]

theorem Ledger.flushAt {written : List UInt8} {w : Writer} (h : Ledger written w) (t : Nat) :
    Ledger written (w.flushAt t).2 := by
  by_cases hb : w.buffer = []
  · rw [flushAt_empty w t hb]
    refine ⟨h.bytes, h.whole, ?_, h.ordered⟩
    intro s hs
    obtain ⟨h1, h2⟩ := h.timed s hs
    exact ⟨h1, Nat.le_trans h2 (Nat.le_max_right _ _)⟩
  · rw [flushAt_take w t hb]
    have hlast := ship_start_le w w.buffer (Nat.max t w.busyUntil)
    have hbusy : w.busyUntil ≤ Nat.max t w.busyUntil := Nat.le_max_right _ _
    refine ⟨?_, ?_, ?_, ?_⟩
    · simp only [List.map_append, List.flatten_append, List.map_cons, List.map_nil,
        List.flatten_cons, List.flatten_nil, List.append_nil]
      exact h.bytes
    · intro s hs
      rcases List.mem_append.mp hs with hs | hs
      · exact h.whole s hs
      · simp only [List.mem_singleton] at hs
        subst hs
        exact ⟨hb, rfl⟩
    · intro s hs
      rcases List.mem_append.mp hs with hs | hs
      · obtain ⟨h1, h2⟩ := h.timed s hs
        exact ⟨h1, by simp only; omega⟩
      · simp only [List.mem_singleton] at hs
        subst hs
        exact ⟨hlast, Nat.le_refl _⟩
    · -- the new shipment starts after the busy time, which every earlier one ended by
      refine List.pairwise_append.mpr ⟨h.ordered, List.pairwise_singleton _ _, ?_⟩
      intro a ha b hb'
      simp only [List.mem_singleton] at hb'
      subst hb'
      have := (h.timed a ha).2
      simp only
      omega

theorem Ledger.tickUntil {written : List UInt8} (target : Nat) :
    ∀ (fuel : Nat) {w : Writer}, Ledger written w → Ledger written (w.tickUntil target fuel)
  | 0, _, h => h
  | fuel + 1, w, h => by
    rw [Writer.tickUntil]
    split
    · split
      · exact Ledger.tickUntil target fuel ((h.flushAt _).clock _ _)
      · exact h
    · exact h

theorem Ledger.advance {written : List UInt8} {w : Writer} (h : Ledger written w) (target : Nat) :
    Ledger written (w.advance target) :=
  ((h.tickUntil target _).clock _ _)

theorem Ledger.flush {written : List UInt8} {w : Writer} (h : Ledger written w) :
    Ledger written w.flush.2 :=
  (((h.advance w.now).flushAt _).clock _ _)

theorem Ledger.close {written : List UInt8} {w : Writer} (h : Ledger written w) :
    Ledger written w.close.2 :=
  ((((h.advance w.now).clock _ none).flushAt _).clock _ _)

end Writer

/-! ## Runs -/

/-- What a program does with its activity log before it closes it. -/
inductive Op where
  /-- Writes bytes, through the writer or any of its sinks. -/
  | write (bytes : List UInt8)
  /-- Flushes explicitly. -/
  | flush
  /-- Lets the clock run to `target`, the ticker flushing on the way. -/
  | advance (target : Nat)
  deriving DecidableEq

def Op.bytes : Op → List UInt8
  | .write b => b
  | _ => []

namespace Writer

def perform (w : Writer) : Op → Writer
  | .write b => (w.write b).2
  | .flush => w.flush.2
  | .advance t => w.advance t

def performAll (w : Writer) (ops : List Op) : Writer := ops.foldl perform w

theorem Ledger.perform {written : List UInt8} {w : Writer} (h : Ledger written w) (o : Op) :
    Ledger (written ++ o.bytes) (w.perform o) := by
  cases o with
  | write b => exact h.write b
  | flush => simpa [Op.bytes, Writer.perform] using h.flush
  | advance t => simpa [Op.bytes, Writer.perform] using h.advance t

theorem performAll_uploadUrl (ops : List Op) :
    ∀ (w : Writer), (w.performAll ops).uploadUrl = w.uploadUrl := by
  induction ops with
  | nil => intro w; rfl
  | cons o rest ih =>
    intro w
    rw [Writer.performAll, List.foldl_cons, ← Writer.performAll, ih]
    cases o with
    | write b => rfl
    | flush => simp [Writer.perform, Writer.flush, Writer.advance, tickUntil_uploadUrl]
    | advance t => simp [Writer.perform, Writer.advance, tickUntil_uploadUrl]

theorem ledger_performAll (ops : List Op) :
    ∀ {written : List UInt8} {w : Writer}, Ledger written w →
      Ledger (written ++ (ops.map Op.bytes).flatten) (w.performAll ops) := by
  induction ops with
  | nil => intro written w h; simpa [Writer.performAll] using h
  | cons o rest ih =>
    intro written w h
    have := ih (h.perform o)
    simpa [Writer.performAll, List.append_assoc] using this

/-! ## Closing -/

/-- After a close the ticker has stopped, the buffer is empty and every shipment has ended. -/
theorem close_done (w : Writer) (written : List UInt8) (h : Ledger written w) :
    w.close.2.nextTick = none ∧ w.close.2.buffer = [] ∧
      ∀ s ∈ w.close.2.shipped, s.finish ≤ w.close.2.now := by
  refine ⟨by simp [close], by simp [close], ?_⟩
  intro s hs
  have hb := ((h.close).timed s hs).2
  have : w.close.2.busyUntil ≤ w.close.2.now := by
    simp only [close]
    exact Nat.le_max_right _ _
  omega

theorem close_uploadUrl (w : Writer) : w.close.2.uploadUrl = w.uploadUrl := by
  simp [close, advance, tickUntil_uploadUrl]

/-- Once the ticker has stopped, letting time pass ships nothing. -/
theorem tickUntil_stopped (target fuel : Nat) (w : Writer) (h : w.nextTick = none) :
    w.tickUntil target fuel = w := by
  cases fuel with
  | zero => rfl
  | succ fuel => simp [Writer.tickUntil, h]

/-- Once the ticker has stopped, writing and waiting ship nothing and leave it stopped. -/
theorem perform_stopped (w : Writer) (h : w.nextTick = none) (o : Op) (ho : o ≠ .flush) :
    (w.perform o).shipped = w.shipped ∧ (w.perform o).nextTick = none := by
  cases o with
  | write b => exact ⟨rfl, h⟩
  | flush => exact absurd rfl ho
  | advance t =>
    refine ⟨?_, ?_⟩ <;> simp [Writer.perform, Writer.advance, tickUntil_stopped _ _ w h, h]

theorem performAll_stopped (later : List Op) (hl : ∀ o ∈ later, o ≠ .flush) :
    ∀ {w : Writer}, w.nextTick = none → (w.performAll later).shipped = w.shipped := by
  induction later with
  | nil => intro w _; rfl
  | cons o rest ih =>
    intro w h
    obtain ⟨hs, ht⟩ := perform_stopped w h o (hl o (List.mem_cons_self ..))
    have := ih (fun o' ho' => hl o' (List.mem_cons_of_mem _ ho')) ht
    simp only [performAll, List.foldl_cons] at this ⊢
    rw [this, hs]

end Writer

theorem close_ships_every_byte_once (u : Url) (token : Option String) (settings : Settings)
    (client : Client) (net : Network) (now : Nat) (ops : List Op) :
    let w := ((Writer.fresh u token settings client net now).performAll ops).close.2
    (w.shipped.map Shipment.data).flatten = (ops.map Op.bytes).flatten ∧
    (∀ s ∈ w.shipped, s.data ≠ [] ∧ (w.ship s.data s.start).2 = s.finish ∧
      s.start ≤ s.finish ∧ s.finish ≤ w.now) ∧
    w.shipped.Pairwise (fun a b => a.finish ≤ b.start) ∧
    w.uploadUrl = u.appendPairs [("append", "true")] ∧ w.nextTick = none ∧
    (∀ later : List Op, (∀ o ∈ later, o ≠ .flush) → (w.performAll later).shipped = w.shipped) := by
  have hrun := Writer.ledger_performAll ops (Writer.ledger_fresh u token settings client net now)
  have hl := hrun.close
  obtain ⟨hstop, hbuf, hend⟩ := Writer.close_done _ _ hrun
  dsimp only
  have hurl : ((Writer.fresh u token settings client net now).performAll ops).close.2.uploadUrl =
      u.appendPairs [("append", "true")] := by
    rw [Writer.close_uploadUrl, Writer.performAll_uploadUrl]
    rfl
  refine ⟨?_, ?_, hl.ordered, hurl, hstop,
    fun later hlater => Writer.performAll_stopped later hlater hstop⟩
  · have hbytes := hl.bytes
    rw [hbuf, List.append_nil, List.nil_append] at hbytes
    exact hbytes
  · intro s hs
    obtain ⟨hne, hship⟩ := hl.whole s hs
    exact ⟨hne, hship, (hl.timed s hs).1, hend s hs⟩

end FunctionHost.ActivityLog
