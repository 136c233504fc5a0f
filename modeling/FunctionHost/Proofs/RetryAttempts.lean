import Mathlib.Data.List.Chain
import FunctionHost.Transport.Client
/-!
# The retry loop under any policy and backoff

After a failed attempt the client's loop (`execute_with`) asks its retry policy whether to try
again, and its backoff how long to wait first. A client may be given any policy and any backoff;
its settings describe the default ones, which retry every failure that is not permanent unless
the caller has cancelled, and back off exponentially. `RetryPlan.run` is the loop with both left
open. It records each call of the attempt function: the attempt's number, the moment of the
call, whether its future was polled, what the future gave, and the sleep the loop began after it.

An attempt takes the time its answer takes, so the caller's cancellation can come before an
attempt is called (the call is dropped unpolled), while it runs (it is cut short), at the
instant of its answer or later (the policy is then told that the caller has cancelled), or
during the backoff sleep.

Without a cancellation the loop makes attempts `1, …, n` and stops at the first one that
answers, fails past the retries, or fails in a way the policy does not retry; after each earlier
attempt it sleeps that attempt's backoff. The attempt counter has 32 bits, so attempt `2^32`
cannot be counted: a loop allowed `2^32 - 1` retries or more whose attempts keep failing in a
way it retries overflows the counter after `2^32 - 1` calls, where one more attempt was due.

With a cancellation no attempt is polled once it has happened, an attempt answered at or after
it is the last, every error reports exactly the calls made, and a run that ended before the
cancellation ran as it would have without one.

Results:
* `run_round`: what one round of the loop can do.
* `attemptFrom_eq_run`: the client's loop is the loop with the settings' policy and backoff.
* `run_none_ends`: without a cancellation the loop stops at the first attempt not tried again,
  or overflows its counter when it tries again every attempt it can count.
* `run_polled_before`, `run_answered_before`: no attempt is polled once the caller has
  cancelled, and an attempt answered at or after the cancellation is the last.
* `run_attempts`: an error reports the number of calls made.
* `attempts_le`: a send through the loop makes at most one attempt more than the retries allowed.
* `run_uncancelled`: a run that ended before the cancellation is the run without it.
* `send_once`: a request that cannot be built or has a stream body is tried once.
* `retry_loop_attempts`: the whole behaviour of the loop.
* `retry_counter_overflow`: with `2^32 - 1` retries and attempts that always time out, the
  client's loop overflows its counter.
-/
namespace FunctionHost.Transport

/-- A retry loop's settings, with its policy and backoff left open. -/
structure RetryPlan where
  maxRetries : Nat
  /-- Whether a failure is tried again, given whether the caller has cancelled by then. -/
  policy : Bool → Failure → Bool
  /-- The wait before retry `a`, counted from 1. -/
  delay : Nat → Duration

/-- One call of the attempt function. -/
structure Call where
  n : Nat
  start : Moment
  /-- Whether the call's future was polled: not when the caller had cancelled before it. -/
  polled : Bool
  /-- What the future gave: nothing when it was dropped unpolled or cut short. -/
  outcome : Option (Except TransportError Response)
  sleep : Option Duration

/-- A run of the loop: its result, the moment it ends, and the calls it made in order. -/
structure RetryRun where
  result : Except HttpError Response
  finish : Moment
  calls : List Call

/-- A run that went on after the call `x`. -/
def RetryRun.after (x : Call) (r : RetryRun) : RetryRun := ⟨r.result, r.finish, x :: r.calls⟩

@[simp] theorem RetryRun.after_result (x : Call) (r : RetryRun) : (r.after x).result = r.result :=
  rfl

@[simp] theorem RetryRun.after_finish (x : Call) (r : RetryRun) : (r.after x).finish = r.finish :=
  rfl

@[simp] theorem RetryRun.after_calls (x : Call) (r : RetryRun) :
    (r.after x).calls = x :: r.calls := rfl

namespace RetryPlan

/-- The plan of a client's settings: the default policy and the exponential backoff. -/
def ofConfig (c : RetryConfig) : RetryPlan := ⟨c.maxRetries, Failure.shouldRetry, c.delay⟩

/-- The moment the loop wakes after attempt `n`, called at `t`, failed and it slept the
attempt's backoff. -/
def wake (p : RetryPlan) (attempt : Nat → Answer) (n : Nat) (t : Moment) : Moment :=
  (attemptEnd t (attempt n)).wait (p.delay n).nanos

/-- The loop from attempt `n` on, with `left` retries still allowed, starting at `t`;
`cancelAt` is the instant of the caller's cancellation, if any. -/
def run (p : RetryPlan) (cancelAt : Option Nat) (attempt : Nat → Answer) :
    Nat → Nat → Moment → RetryRun
  | left, n, t =>
    if counterMax < n then ⟨.error .counterOverflow, t, []⟩
    else if t.reached cancelAt then ⟨.error (.cancelled n), t, [⟨n, t, false, none, none⟩]⟩
    else
      let a := attempt n
      let t1 := attemptEnd t a
      if t1.overtaken cancelAt then
        ⟨.error (.cancelled n), ⟨cancelAt.getD 0, false⟩, [⟨n, t, true, none, none⟩]⟩
      else
        match a.outcome with
        | .ok resp => ⟨.ok resp, t1, [⟨n, t, true, some (.ok resp), none⟩]⟩
        | .error e =>
          let f := classify e
          match left with
          | 0 => ⟨.error (.request n f e), t1, [⟨n, t, true, some (.error e), none⟩]⟩
          | left + 1 =>
            if !p.policy (t1.reached cancelAt) f then
              ⟨.error (.request n f e), t1, [⟨n, t, true, some (.error e), none⟩]⟩
            else
              let slept : Call := ⟨n, t, true, some (.error e), some (p.delay n)⟩
              let t2 := t1.wait (p.delay n).nanos
              if t2.reached cancelAt then
                ⟨.error (.cancelled n), ⟨Nat.max t1.nanos (cancelAt.getD 0), false⟩, [slept]⟩
              else (p.run cancelAt attempt left (n + 1) t2).after slept

/-- The loop as a client starts it: attempt 1, with every retry left. -/
def begin (p : RetryPlan) (cancelAt : Option Nat) (attempt : Nat → Answer) (t : Moment) :
    RetryRun :=
  p.run cancelAt attempt p.maxRetries 1 t

/-- Whether the loop without a cancellation tries again after attempt `i` gave `o`. -/
def again (p : RetryPlan) (i : Nat) : Except TransportError Response → Bool
  | .ok _ => false
  | .error e => decide (i ≤ p.maxRetries) && p.policy false (classify e)

/-- Whether the loop sleeps after an attempt that gave `o` and was answered at `t1`, with `left`
retries left: the attempt failed, a retry is left, and the policy retries the failure given
whether the caller had cancelled by `t1`. -/
def sleeps (p : RetryPlan) (cancelAt : Option Nat) (left : Nat) (t1 : Moment) :
    Except TransportError Response → Bool
  | .ok _ => false
  | .error e => decide (0 < left) && p.policy (t1.reached cancelAt) (classify e)

/-- What one round of the loop does: the counter overflows; the caller has cancelled before the
call, which is dropped unpolled; the cancellation cuts the attempt short; the loop ends with the
attempt's outcome; it sleeps after a failure and the cancellation comes during the sleep; or it
sleeps and goes on with the next attempt. -/
inductive Round (p : RetryPlan) (cancelAt : Option Nat) (attempt : Nat → Answer) (left n : Nat)
    (t : Moment) : RetryRun → Prop
  | overflow : counterMax < n → Round p cancelAt attempt left n t ⟨.error .counterOverflow, t, []⟩
  | dropped : n ≤ counterMax → t.reached cancelAt = true →
      Round p cancelAt attempt left n t ⟨.error (.cancelled n), t, [⟨n, t, false, none, none⟩]⟩
  | cut : n ≤ counterMax → t.reached cancelAt = false →
      (attemptEnd t (attempt n)).overtaken cancelAt = true →
      Round p cancelAt attempt left n t
        ⟨.error (.cancelled n), ⟨cancelAt.getD 0, false⟩, [⟨n, t, true, none, none⟩]⟩
  | ends : n ≤ counterMax → t.reached cancelAt = false →
      (attemptEnd t (attempt n)).overtaken cancelAt = false →
      p.sleeps cancelAt left (attemptEnd t (attempt n)) (attempt n).outcome = false →
      Round p cancelAt attempt left n t ⟨(attempt n).outcome.mapError (.ofAttempt n),
        attemptEnd t (attempt n), [⟨n, t, true, some (attempt n).outcome, none⟩]⟩
  | asleep : n ≤ counterMax → t.reached cancelAt = false →
      (attemptEnd t (attempt n)).overtaken cancelAt = false →
      p.sleeps cancelAt left (attemptEnd t (attempt n)) (attempt n).outcome = true →
      (p.wake attempt n t).reached cancelAt = true →
      Round p cancelAt attempt left n t ⟨.error (.cancelled n),
        ⟨Nat.max (attemptEnd t (attempt n)).nanos (cancelAt.getD 0), false⟩,
        [⟨n, t, true, some (attempt n).outcome, some (p.delay n)⟩]⟩
  | next (left' : Nat) : left = left' + 1 → n ≤ counterMax → t.reached cancelAt = false →
      (attemptEnd t (attempt n)).overtaken cancelAt = false →
      p.sleeps cancelAt left (attemptEnd t (attempt n)) (attempt n).outcome = true →
      (p.wake attempt n t).reached cancelAt = false →
      Round p cancelAt attempt left n t ((p.run cancelAt attempt left' (n + 1) (p.wake attempt n t)).after
        ⟨n, t, true, some (attempt n).outcome, some (p.delay n)⟩)

variable (p : RetryPlan) (attempt : Nat → Answer)

/-- Every run is one of the rounds: the only proof that unfolds `run`. -/
theorem run_round (cancelAt : Option Nat) (left n : Nat) (t : Moment) :
    p.Round cancelAt attempt left n t (p.run cancelAt attempt left n t) := by
  rw [run]
  by_cases hn : counterMax < n
  · rw [if_pos hn]
    exact .overflow hn
  have hn' : n ≤ counterMax := Nat.le_of_not_lt hn
  rw [if_neg hn]
  cases hc : t.reached cancelAt
  case true => exact .dropped hn' hc
  case false =>
    dsimp only
    rw [if_neg Bool.false_ne_true]
    cases hv : (attemptEnd t (attempt n)).overtaken cancelAt
    case true => exact .cut hn' hc hv
    case false =>
      rw [if_neg Bool.false_ne_true]
      cases ho : (attempt n).outcome with
      | ok resp =>
        have h : p.Round cancelAt attempt left n t _ := .ends hn' hc hv (by simp [sleeps, ho])
        rwa [ho, mapError_ok] at h
      | error e =>
        cases left with
        | zero =>
          have h : p.Round cancelAt attempt 0 n t _ := .ends hn' hc hv (by simp [sleeps, ho])
          rwa [ho, mapError_error] at h
        | succ left =>
          dsimp only
          cases hp : p.policy ((attemptEnd t (attempt n)).reached cancelAt) (classify e)
          case false =>
            have h : p.Round cancelAt attempt (left + 1) n t _ :=
              .ends hn' hc hv (by simp [sleeps, ho, hp])
            rwa [ho, mapError_error] at h
          case true =>
            have hs : p.sleeps cancelAt (left + 1) (attemptEnd t (attempt n)) (attempt n).outcome =
                true := by simp [sleeps, ho, hp]
            rw [Bool.not_true, if_neg Bool.false_ne_true]
            cases hw : (p.wake attempt n t).reached cancelAt
            case true =>
              have h := Round.asleep hn' hc hv hs hw
              rw [ho] at h
              unfold wake at hw
              rwa [if_pos hw]
            case false =>
              have h := Round.next left rfl hn' hc hv hs hw
              rw [ho] at h
              unfold wake at hw h
              rwa [if_neg (by rw [hw]; exact Bool.false_ne_true)]

theorem le_wake (n : Nat) (t : Moment) :
    (attemptEnd t (attempt n)).nanos ≤ (p.wake attempt n t).nanos :=
  Moment.nanos_le_wait _ _

theorem run_overflow (cancelAt : Option Nat) (left n : Nat) (t : Moment) (hn : counterMax < n) :
    p.run cancelAt attempt left n t = ⟨.error .counterOverflow, t, []⟩ := by
  rw [run, if_pos hn]

theorem run_start_le (cancelAt : Option Nat) (left n : Nat) (t : Moment) :
    t.nanos ≤ (p.run cancelAt attempt left n t).finish.nanos := by
  induction left using Nat.strongRecOn generalizing n t with
  | ind left ih =>
    have hround := p.run_round attempt cancelAt left n t
    generalize p.run cancelAt attempt left n t = r at hround ⊢
    have hend := le_attemptEnd t (attempt n)
    cases hround with
    | overflow _ => exact Nat.le_refl _
    | dropped _ _ => exact Nat.le_refl _
    | cut _ hc hv =>
      -- only a cancellation still ahead of the call can cut it short
      cases cancelAt with
      | none => simp [Moment.overtaken] at hv
      | some c => exact Nat.le_of_lt (Moment.nanos_lt_of_unreached hc)
    | ends _ _ _ _ => exact hend
    | asleep _ _ _ _ _ => exact Nat.le_trans hend (Nat.le_max_left _ _)
    | next left' hl _ _ _ _ _ =>
      have hrest := ih left' (by omega) (n + 1) (p.wake attempt n t)
      have hwake := p.le_wake attempt n t
      simp only [RetryRun.after_finish]
      omega

theorem run_head_start (cancelAt : Option Nat) (left n : Nat) (t : Moment) :
    ∀ x ∈ (p.run cancelAt attempt left n t).calls.head?, x.start = t := by
  have hround := p.run_round attempt cancelAt left n t
  generalize p.run cancelAt attempt left n t = r at hround ⊢
  cases hround <;> simp

/-- The pacing of the loop: the call after `x` starts when `x` was answered and the loop slept
its backoff. -/
def Paced (x y : Call) : Prop := y.start = p.wake attempt x.n x.start

/-- Each call after the first starts when the one before it was answered and the loop slept
that attempt's backoff, with or without a cancellation. -/
theorem run_paced (cancelAt : Option Nat) (left n : Nat) (t : Moment) :
    (p.run cancelAt attempt left n t).calls.IsChain (p.Paced attempt) := by
  induction left using Nat.strongRecOn generalizing n t with
  | ind left ih =>
    have hround := p.run_round attempt cancelAt left n t
    generalize p.run cancelAt attempt left n t = r at hround ⊢
    cases hround
    case next left' hl _ _ _ _ _ =>
      rw [RetryRun.after_calls, List.isChain_cons]
      exact ⟨p.run_head_start attempt cancelAt left' (n + 1) _, ih left' (by omega) _ _⟩
    all_goals simp

/-- Without a cancellation a round ends the loop, goes on with the next attempt, or finds the
counter overflowed. -/
theorem run_none_cases (left n : Nat) (t : Moment) :
    (counterMax < n ∧ p.run none attempt left n t = ⟨.error .counterOverflow, t, []⟩) ∨
    (n ≤ counterMax ∧
      p.sleeps none left (attemptEnd t (attempt n)) (attempt n).outcome = false ∧
      p.run none attempt left n t = ⟨(attempt n).outcome.mapError (.ofAttempt n),
        attemptEnd t (attempt n), [⟨n, t, true, some (attempt n).outcome, none⟩]⟩) ∨
    (n ≤ counterMax ∧
      p.sleeps none left (attemptEnd t (attempt n)) (attempt n).outcome = true ∧
      ∃ left', left = left' + 1 ∧
        p.run none attempt left n t = (p.run none attempt left' (n + 1) (p.wake attempt n t)).after
          ⟨n, t, true, some (attempt n).outcome, some (p.delay n)⟩) := by
  have hround := p.run_round attempt none left n t
  generalize p.run none attempt left n t = r at hround ⊢
  cases hround with
  | overflow hn => exact .inl ⟨hn, rfl⟩
  | dropped _ hc => simp [Moment.reached] at hc
  | cut _ _ hv => simp [Moment.overtaken] at hv
  | ends hn _ _ hs => exact .inr (.inl ⟨hn, hs, rfl⟩)
  | asleep _ _ _ _ hw => simp [Moment.reached] at hw
  | next left' hl hn _ _ hs _ => exact .inr (.inr ⟨hn, hs, left', hl, rfl⟩)

/-- Attempt `n` is where the loop without a cancellation stops: each attempt before it failed
in a way that is tried again, and attempt `n` does not. -/
def StopsAt (n : Nat) : Prop :=
  1 ≤ n ∧ (∀ i, 1 ≤ i → i < n → p.again i (attempt i).outcome = true) ∧
    p.again n (attempt n).outcome = false

/-- The calls of a run without a cancellation from attempt `n` to attempt `m`, starting at `t`:
those attempts in order, each polled to its outcome and followed by a sleep of its backoff
exactly when it is tried again, each starting when the one before it was answered and the loop
slept. -/
def Tried (n m : Nat) (t : Moment) (calls : List Call) : Prop :=
  calls.map Call.n = List.range' n (m + 1 - n) ∧ (∀ x ∈ calls.head?, x.start = t) ∧
    calls.IsChain (p.Paced attempt) ∧
    ∀ x ∈ calls, x.polled = true ∧ x.outcome = some (attempt x.n).outcome ∧
      x.sleep = if p.again x.n (attempt x.n).outcome then some (p.delay x.n) else none

/-- Without a cancellation the loop sleeps exactly after the attempts it tries again; `left`
counts down the retries as the attempt number counts up. -/
theorem sleeps_none {left n : Nat} (t1 : Moment) (o : Except TransportError Response)
    (hl : n + left = p.maxRetries + 1) : p.sleeps none left t1 o = p.again n o := by
  cases o with
  | ok r => rfl
  | error e =>
    have hleft : 0 < left ↔ n ≤ p.maxRetries := by omega
    simp [sleeps, again, Moment.reached, hleft]

theorem tried_last {m : Nat} (t : Moment) (h : p.again m (attempt m).outcome = false) :
    p.Tried attempt m m t [⟨m, t, true, some (attempt m).outcome, none⟩] := by
  simp [Tried, h]

theorem tried_none {n m : Nat} (t : Moment) (h : m < n) : p.Tried attempt n m t [] := by
  simp [Tried, show m + 1 - n = 0 by omega]

theorem Tried.cons {n m : Nat} {t : Moment} {calls : List Call}
    (h : p.Tried attempt (n + 1) m (p.wake attempt n t) calls) (hnm : n ≤ m)
    (hagain : p.again n (attempt n).outcome = true) :
    p.Tried attempt n m t (⟨n, t, true, some (attempt n).outcome, some (p.delay n)⟩ :: calls) := by
  obtain ⟨hnums, hhead, hpaced, hcalls⟩ := h
  refine ⟨?_, by simp, List.isChain_cons.2 ⟨fun y hy => hhead y hy, hpaced⟩, ?_⟩
  · have hlen : m + 1 - n = m + 1 - (n + 1) + 1 := by omega
    rw [List.map_cons, hnums, hlen, List.range'_succ]
  · intro x hx
    rcases List.mem_cons.1 hx with rfl | hx
    · simp [hagain]
    · exact hcalls x hx

/-- Without a cancellation the loop either stops at the first attempt from `n` on that is not
tried again, with that attempt's outcome, or, when it tries again every attempt up to the
counter's largest value, overflows the counter. Either way it polls every attempt up to there,
sleeping between them. -/
theorem run_none_ends (left n : Nat) (t : Moment) (hl : n + left = p.maxRetries + 1) :
    (∃ m, n ≤ m ∧ m ≤ p.maxRetries + 1 ∧ m ≤ counterMax ∧
      (∀ i, n ≤ i → i < m → p.again i (attempt i).outcome = true) ∧
      p.again m (attempt m).outcome = false ∧
      (p.run none attempt left n t).result = (attempt m).outcome.mapError (.ofAttempt m) ∧
      p.Tried attempt n m t (p.run none attempt left n t).calls) ∨
    (counterMax ≤ p.maxRetries ∧
      (∀ i, n ≤ i → i ≤ counterMax → p.again i (attempt i).outcome = true) ∧
      (p.run none attempt left n t).result = .error .counterOverflow ∧
      p.Tried attempt n counterMax t (p.run none attempt left n t).calls) := by
  induction left using Nat.strongRecOn generalizing n t with
  | ind left ih =>
    rcases p.run_none_cases attempt left n t with
      ⟨hn, hr⟩ | ⟨hn, hs, hr⟩ | ⟨hn, hs, left', rfl, hr⟩
    · -- attempt `n` cannot be counted: the counter overflows before it is made
      refine .inr ⟨by omega, fun i h1 h2 => absurd h2 (by omega), by rw [hr], ?_⟩
      rw [hr]
      exact p.tried_none attempt t hn
    · -- attempt `n` is not tried again: the loop stops there
      rw [p.sleeps_none _ _ hl] at hs
      refine .inl ⟨n, Nat.le_refl n, by omega, hn, fun i h1 h2 => absurd h2 (by omega), hs,
        by rw [hr], ?_⟩
      rw [hr]
      exact p.tried_last attempt t hs
    · -- attempt `n` is tried again: the rest of the loop starts at attempt `n + 1`
      rw [p.sleeps_none _ _ hl] at hs
      have hbefore : ∀ {k : Nat → Prop},
          (∀ i, n + 1 ≤ i → k i → p.again i (attempt i).outcome = true) →
          ∀ i, n ≤ i → k i → p.again i (attempt i).outcome = true := by
        intro k hk i h1 h2
        rcases Nat.eq_or_lt_of_le h1 with rfl | h1
        · exact hs
        · exact hk i h1 h2
      rw [hr, RetryRun.after_result, RetryRun.after_calls]
      rcases ih left' (by omega) (n + 1) (p.wake attempt n t) (by omega) with
        ⟨m, hnm, hmR, hmc, hall, hstop, hres, htried⟩ | ⟨hR, hall, hres, htried⟩
      · exact .inl ⟨m, by omega, hmR, hmc, hbefore hall, hstop, hres,
          htried.cons p attempt (by omega) hs⟩
      · exact .inr ⟨hR, hbefore hall, hres, htried.cons p attempt hn hs⟩

-- two retries against a request that always times out: three attempts
example :
    ((ofConfig (RetryConfig.withRetries 2)).begin none
      (fun _ => .now (.error ⟨.send, none, [], true, false⟩)) Moment.start).calls.map Call.n =
      [1, 2, 3] := by
  decide +kernel

/-- Whether the caller has cancelled by the time an attempt was answered decides nothing when
the cancellation is still ahead. -/
theorem sleeps_unreached {c left : Nat} {t1 : Moment} (o : Except TransportError Response)
    (h : t1.reached (some c) = false) : p.sleeps (some c) left t1 o = p.sleeps none left t1 o := by
  cases o with
  | ok r => rfl
  | error e =>
    simp only [sleeps, h]
    rfl

/-- No attempt is polled once the caller has cancelled: every call polled was made before the
cancellation. -/
theorem run_polled_before (c left n : Nat) (t : Moment) :
    ∀ x ∈ (p.run (some c) attempt left n t).calls, x.polled = true → x.start.nanos < c := by
  induction left using Nat.strongRecOn generalizing n t with
  | ind left ih =>
    have hround := p.run_round attempt (some c) left n t
    generalize p.run (some c) attempt left n t = r at hround ⊢
    cases hround with
    | overflow _ => simp
    | dropped _ _ => simp
    | cut _ hc _ => simpa using Moment.nanos_lt_of_unreached hc
    | ends _ hc _ _ => simpa using Moment.nanos_lt_of_unreached hc
    | asleep _ hc _ _ _ => simpa using Moment.nanos_lt_of_unreached hc
    | next left' hl _ hc _ _ _ =>
      intro x hx
      rcases List.mem_cons.1 hx with rfl | hx
      · exact fun _ => Moment.nanos_lt_of_unreached hc
      · exact ih left' (by omega) (n + 1) _ x hx

/-- An attempt answered at or after the cancellation is the last one: every call that another
call follows was answered before the cancellation. -/
theorem run_answered_before (c left n : Nat) (t : Moment) :
    (p.run (some c) attempt left n t).calls.IsChain
      (fun x _ => (attemptEnd x.start (attempt x.n)).nanos < c) := by
  induction left using Nat.strongRecOn generalizing n t with
  | ind left ih =>
    have hround := p.run_round attempt (some c) left n t
    generalize p.run (some c) attempt left n t = r at hround ⊢
    cases hround
    case next left' hl _ _ _ _ hw =>
      -- the loop went on only because it woke before the cancellation
      have hwake := Moment.nanos_lt_of_unreached hw
      have hend := p.le_wake attempt n t
      rw [RetryRun.after_calls, List.isChain_cons]
      exact ⟨fun _ _ => Nat.lt_of_le_of_lt hend hwake, ih left' (by omega) _ _⟩
    all_goals simp

-- an attempt answered after 10 ns, cancelled at 5 ns: the attempt is cut short
example :
    ((ofConfig (RetryConfig.withRetries 2)).begin (some 5)
      (fun _ => ⟨.error ⟨.send, none, [], true, false⟩, 10⟩) Moment.start).result =
      .error (.cancelled 1) := by
  decide +kernel

-- cancelled at the very instant of the answer: the policy sees it and gives up
example :
    ((ofConfig (RetryConfig.withRetries 2)).begin (some 10)
      (fun _ => ⟨.error ⟨.send, none, [], true, false⟩, 10⟩) Moment.start).result =
      .error (.ofAttempt 1 ⟨.send, none, [], true, false⟩) := by
  decide +kernel

/-- A run with `left` retries left makes at most `left + 1` calls. -/
theorem run_calls_length_le (cancelAt : Option Nat) (left n : Nat) (t : Moment) :
    (p.run cancelAt attempt left n t).calls.length ≤ left + 1 := by
  induction left using Nat.strongRecOn generalizing n t with
  | ind left ih =>
    have hround := p.run_round attempt cancelAt left n t
    generalize p.run cancelAt attempt left n t = r at hround ⊢
    cases hround
    case next left' hl _ _ _ _ _ =>
      have := ih left' (by omega) (n + 1) (p.wake attempt n t)
      simp only [RetryRun.after_calls, List.length_cons]
      omega
    all_goals simp

/-- An error reports the attempts made from `n` on: its count is the number of the last call. -/
theorem run_attempts (cancelAt : Option Nat) (left n : Nat) (t : Moment) (hn : n ≤ counterMax + 1)
    (e : HttpError) (he : (p.run cancelAt attempt left n t).result = .error e) :
    e.attempts + 1 = n + (p.run cancelAt attempt left n t).calls.length := by
  induction left using Nat.strongRecOn generalizing n t with
  | ind left ih =>
    have hround := p.run_round attempt cancelAt left n t
    generalize p.run cancelAt attempt left n t = r at hround he ⊢
    cases hround with
    | overflow hc =>
      cases he
      simp only [HttpError.attempts, List.length_nil]
      omega
    | dropped _ _ => cases he; rfl
    | cut _ _ _ => cases he; rfl
    | ends _ _ _ _ =>
      cases ho : (attempt n).outcome with
      | ok r => simp [ho, mapError_ok] at he
      | error x =>
        simp only [ho, mapError_error, Except.error.injEq] at he
        subst he
        rfl
    | asleep _ _ _ _ _ => cases he; rfl
    | next left' hl hc _ _ _ _ =>
      have := ih left' (by omega) (n + 1) _ (by omega) he
      simp only [RetryRun.after_calls, List.length_cons]
      omega

/-- A run that ended before the cancellation is the run without it: every check of the
cancellation it made found it still ahead. -/
theorem run_uncancelled (c left n : Nat) (t : Moment)
    (h : (p.run (some c) attempt left n t).finish.nanos < c) :
    p.run (some c) attempt left n t = p.run none attempt left n t := by
  induction left using Nat.strongRecOn generalizing n t with
  | ind left ih =>
    have hround := p.run_round attempt (some c) left n t
    generalize p.run (some c) attempt left n t = r at hround h ⊢
    cases hround with
    | overflow hn => rw [p.run_overflow attempt none left n t hn]
    | dropped _ hc =>
      simp only [Moment.reached, decide_eq_true_eq] at hc
      exact absurd h (Nat.not_lt.2 hc)
    | cut _ _ _ => exact absurd h (Nat.lt_irrefl c)
    | ends hn _ _ hs =>
      rw [p.sleeps_unreached _ (Moment.unreached_of_lt (by omega))] at hs
      rcases p.run_none_cases attempt left n t with ⟨hn', -⟩ | ⟨-, -, hr⟩ | ⟨-, hs', -⟩
      · omega
      · rw [hr]
      · simp [hs] at hs'
    | asleep _ _ _ _ _ => exact absurd h (Nat.not_lt.2 (Nat.le_max_right _ _))
    | next left' hl hn _ _ hs _ =>
      rw [RetryRun.after_finish] at h
      have hrest := ih left' (by omega) (n + 1) _ h
      have hstart := p.run_start_le attempt (some c) left' (n + 1) (p.wake attempt n t)
      have hwake := p.le_wake attempt n t
      rw [p.sleeps_unreached _ (Moment.unreached_of_lt (by omega))] at hs
      rcases p.run_none_cases attempt left n t with ⟨hn', -⟩ | ⟨-, hs', -⟩ | ⟨-, -, left'', hl', hr⟩
      · omega
      · simp [hs] at hs'
      · obtain rfl : left'' = left' := by omega
        rw [hr, hrest]

/-- The client's loop is the loop with the settings' policy and backoff. -/
theorem attemptFrom_eq_run (retry : RetryConfig) (cancelAt : Option Nat) :
    ∀ (left n : Nat) (t : Moment), attemptFrom retry cancelAt attempt left n t =
      (((ofConfig retry).run cancelAt attempt left n t).result,
        ((ofConfig retry).run cancelAt attempt left n t).finish)
  | left, n, t => by
    rw [attemptFrom, run]
    by_cases hn : counterMax < n
    · rw [if_pos hn, if_pos hn]
    rw [if_neg hn, if_neg hn]
    by_cases hc : t.reached cancelAt = true
    · rw [if_pos hc, if_pos hc]
    rw [if_neg hc, if_neg hc]
    dsimp only
    by_cases hv : (attemptEnd t (attempt n)).overtaken cancelAt = true
    · rw [if_pos hv, if_pos hv]
    rw [if_neg hv, if_neg hv]
    cases (attempt n).outcome with
    | ok resp => rfl
    | error e =>
      cases left with
      | zero => rfl
      | succ left =>
        dsimp only [ofConfig]
        by_cases hp :
            Failure.shouldRetry ((attemptEnd t (attempt n)).reached cancelAt) (classify e) = false
        · simp only [hp, Bool.not_false, ↓reduceIte]
        rw [Bool.not_eq_false] at hp
        simp only [hp, Bool.not_true, Bool.false_eq_true, ↓reduceIte]
        by_cases hw : ((attemptEnd t (attempt n)).wait (retry.delay n).nanos).reached cancelAt = true
        · simp only [hw, ↓reduceIte]
        simp only [hw, Bool.false_eq_true, ↓reduceIte, RetryRun.after_result, RetryRun.after_finish]
        exact attemptFrom_eq_run retry cancelAt left (n + 1) _

/-- What the client's loop returns is the result of the loop with the settings' policy and
backoff. -/
theorem executeWith_result (retry : RetryConfig) (cancelAt : Option Nat) (start : Moment) :
    (executeWith retry cancelAt attempt start).1 =
      ((ofConfig retry).begin cancelAt attempt start).result := by
  rw [executeWith, attemptFrom_eq_run]
  rfl

end RetryPlan

open RetryPlan

/-- A request that cannot be built, or whose body is a stream, is sent at most once whatever the
client's retry settings: an error reports one attempt. -/
theorem send_once (client : Client) (net : Network) (draft : Draft) (cancelAt : Option Nat)
    (start : Moment) (h : ∀ r, draft = .ok r → r.body.isStream = true) (e : HttpError)
    (he : (send client net draft cancelAt start).1 = .error e) : e.attempts = 1 := by
  cases draft with
  | error x => cases he; rfl
  | ok r =>
    simp only [send, h r rfl, ↓reduceIte, attemptFrom_eq_run] at he
    have hround := (ofConfig client.retry).run_round (fun _ => execute net r) cancelAt 0 1 start
    generalize (ofConfig client.retry).run cancelAt (fun _ => execute net r) 0 1 start = run
      at hround he
    cases hround with
    | overflow hn => exact absurd hn (by decide)
    | dropped _ _ => cases he; rfl
    | cut _ _ _ => cases he; rfl
    | ends _ _ _ _ =>
      cases ho : (execute net r).outcome with
      | ok resp => simp [ho, mapError_ok] at he
      | error x =>
        simp only [ho, mapError_error, Except.error.injEq] at he
        subst he
        rfl
    | asleep _ _ _ _ _ => cases he; rfl
    | next left' hl _ _ _ _ _ => omega

/-- A send through the loop makes at most one attempt more than the retries allowed. -/
theorem attempts_le (retry : RetryConfig) (cancelAt : Option Nat) (attempt : Nat → Answer)
    (start : Moment) (e : HttpError) (h : (executeWith retry cancelAt attempt start).1 = .error e) :
    e.attempts ≤ retry.maxRetries + 1 := by
  rw [executeWith_result] at h
  have hcount := (ofConfig retry).run_attempts attempt cancelAt _ 1 start (by decide) e h
  have hcalls := (ofConfig retry).run_calls_length_le attempt cancelAt retry.maxRetries 1 start
  -- the plan of the settings keeps their retry count
  have hR : (ofConfig retry).maxRetries = retry.maxRetries := rfl
  rw [hR] at hcount
  omega

/-- The retry loop for every policy, backoff, retry count and timing of the attempts. Without a
cancellation it polls attempts `1, …, n`, `n` the first not tried again, sleeping each earlier
attempt's backoff after it, and ends with attempt `n`'s response or its failure counted `n`;
or, when it tries again every attempt its 32-bit counter can count, which takes `2^32 - 1`
retries, it overflows the counter after those calls. With a cancellation it polls no attempt
once the cancellation has happened, an attempt answered at or after it is the last, an error
counts the calls made, and a run that ended before the cancellation is the run without it. The
client's loop is this loop with its settings' policy and backoff; a request that cannot be
built, or whose body is a stream, is sent once. -/
theorem retry_loop_attempts (p : RetryPlan) (attempt : Nat → Answer) (start : Moment) :
    ((∃ n, p.StopsAt attempt n ∧ n ≤ p.maxRetries + 1 ∧ n ≤ counterMax ∧
        (p.begin none attempt start).result = (attempt n).outcome.mapError (.ofAttempt n) ∧
        p.Tried attempt 1 n start (p.begin none attempt start).calls) ∨
      (counterMax ≤ p.maxRetries ∧
        (∀ i, 1 ≤ i → i ≤ counterMax → p.again i (attempt i).outcome = true) ∧
        (p.begin none attempt start).result = .error .counterOverflow ∧
        p.Tried attempt 1 counterMax start (p.begin none attempt start).calls)) ∧
    (∀ c, (∀ x ∈ (p.begin (some c) attempt start).calls, x.polled = true → x.start.nanos < c) ∧
      (p.begin (some c) attempt start).calls.IsChain
        (fun x _ => (attemptEnd x.start (attempt x.n)).nanos < c) ∧
      (∀ e, (p.begin (some c) attempt start).result = .error e →
        e.attempts = (p.begin (some c) attempt start).calls.length) ∧
      ((p.begin (some c) attempt start).finish.nanos < c →
        p.begin (some c) attempt start = p.begin none attempt start)) ∧
    (∀ retry cancelAt, executeWith retry cancelAt attempt start =
      (((ofConfig retry).begin cancelAt attempt start).result,
        ((ofConfig retry).begin cancelAt attempt start).finish)) ∧
    ∀ (client : Client) (net : Network) (draft : Draft) (cancelAt : Option Nat),
      (∀ r, draft = .ok r → r.body.isStream = true) →
      ∀ e, (send client net draft cancelAt start).1 = .error e → e.attempts = 1 := by
  refine ⟨?ends, fun c => ⟨p.run_polled_before attempt c _ _ _,
    p.run_answered_before attempt c _ _ _, fun e he => ?count, p.run_uncancelled attempt c _ _ _⟩,
    fun retry cancelAt => attemptFrom_eq_run attempt retry cancelAt _ _ _,
    fun client net draft cancelAt h => send_once client net draft cancelAt start h⟩
  case ends =>
    rcases p.run_none_ends attempt p.maxRetries 1 start (by omega) with
      ⟨n, hn, hnR, hnc, hbefore, hstop, hres, htried⟩ | hover
    · exact .inl ⟨n, ⟨hn, hbefore, hstop⟩, hnR, hnc, hres, htried⟩
    · exact .inr hover
  case count =>
    -- the loop starts at attempt 1, so the count is the number of calls
    have := p.run_attempts attempt (some c) _ _ _ (by decide) e he
    simp only [begin] at this ⊢
    omega

/-- With `2^32 - 1` retries, the largest count of its attempt counter, and attempts that always
time out, the client's loop does not stop after attempt `2^32`: it overflows the counter. -/
theorem retry_counter_overflow :
    (executeWith (RetryConfig.withRetries counterMax) none
      (fun _ => .now (.error ⟨.send, none, [], true, false⟩)) Moment.start).1 =
      .error .counterOverflow := by
  have hretry : Failure.shouldRetry false (classify ⟨.send, none, [], true, false⟩) = true := by
    decide
  -- the loop is only ever read through lemmas: evaluating it would take `2^32` rounds
  rw [executeWith_result, begin]
  rcases (ofConfig (RetryConfig.withRetries counterMax)).run_none_ends
      (fun _ => .now (.error ⟨.send, none, [], true, false⟩)) _ 1 Moment.start (Nat.add_comm _ _)
    with ⟨m, -, -, hmc, -, hstop, -⟩ | ⟨-, -, hres, -⟩
  · -- every attempt the counter can count is tried again, so the loop stops at none of them
    have hagain : (ofConfig (RetryConfig.withRetries counterMax)).again m
        (.error ⟨.send, none, [], true, false⟩) = true := by
      simp only [again, ofConfig, RetryConfig.withRetries, hretry, Bool.and_true]
      exact decide_eq_true hmc
    exact absurd hstop (by rw [Bool.not_eq_false]; exact hagain)
  · exact hres

end FunctionHost.Transport
