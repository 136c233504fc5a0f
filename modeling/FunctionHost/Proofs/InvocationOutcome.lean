import FunctionHost.Server.Router
/-!
# How an invocation answers

`POST /` reads the body, then runs the function once in a race against the termination of
in-flight invocations and the write deadline, and answers by how the race went. `Answers` states
the answer of each way a run can go, apart from the code that computes it:

* termination, when it comes no later than the run's end and the deadline, is `500 Transient`
  `function terminated: server shutting down`;
* otherwise a run that ends after the deadline is `500 Transient`
  `function timed out after <timeout>`;
* otherwise the run decides: a response is `200 {"data": response}`; an error chain that holds a
  failure is `500` with the chain's envelope, which keeps the kind, data and trace of that first
  failure; any other chain is `500 Failed` with the chain's whole message and a trace; a panic is
  `500 Failed` `Panic in function: <payload>` with a trace; a task that died is `500 Transient`
  `invocation aborted`.

A body that does not end within the read timeout is `408`; one over the limit, a broken stream,
or a body that holds no request is `400 Invalid input`. Neither runs the function or makes an
activity log.

The one way an invocation with a good body does not answer at all: the log filter the server
reads stops at a cut inside a character (a level such as ` é=x`), and the invocation's task stops
with it, before the function runs.

**Results.**
* `readRequest_eq_none_iff`: a body holds no request exactly when it is neither blanks, nor
  `null`, nor an object.
* `race_answers`: the race's answer is one that `Answers` allows, and there is none exactly when
  the run's task died within its time.
* `serveRequest_runs`: unless the filter reading stops, the function runs once, the reply is the
  race's answer, and the activity log is dropped exactly when the task died.
* `invoke_outcome`: every invocation, by its body and the run of the function.
-/
namespace FunctionHost.Fault

/-- The failure carries a stack trace with at least one frame. -/
def HasTrace (f : Fault) : Prop := ∃ frames, f.stackTrace = some frames ∧ frames ≠ []

theorem failedWithTrace_hasTrace (message : String) : (failedWithTrace message).HasTrace :=
  ⟨capturedTrace, rfl, by simp [capturedTrace]⟩

end FunctionHost.Fault

namespace FunctionHost.Server

open Json Logging

/-- A body that holds a request: ASCII blanks only, the document `null`, or an object. -/
def HoldsRequest (body : List UInt8) : Prop :=
  body.all isBodyBlank ∨ readBytes body = .ok .null ∨ ∃ ms, readBytes body = .ok (.object ms)

theorem readRequest_eq_none_iff (body : List UInt8) :
    readRequest body = none ↔ ¬ HoldsRequest body := by
  unfold readRequest HoldsRequest
  by_cases hb : body.all isBodyBlank
  · simp [hb]
  · rcases hr : readBytes body with e | v
    · simp [hb]
    · cases v <;> simp [hb]

/-- A body is refused when its stream breaks or it goes over the limit, whether it ends or not. -/
theorem readBody_eq_refused_iff (limit : Nat) (body : Arrival) :
    readBody limit body = .refused ↔
      body = .broken ∨ ∃ b, (body = .whole b ∨ body = .stalled b) ∧ limit < b.length := by
  cases body with
  | whole b => by_cases h : b.length ≤ limit <;> simp [readBody, h] <;> omega
  | stalled b => by_cases h : b.length ≤ limit <;> simp [readBody, h] <;> omega
  | broken => simp [readBody]

theorem intoEnvelope_tagged {c : Fault.Chain} {f : Fault} (h : c.find = some f) :
    intoEnvelope c = c.toFault := by
  simp [intoEnvelope, h]

theorem intoEnvelope_untagged {c : Fault.Chain} (h : c.find = none) :
    intoEnvelope c = Fault.failedWithTrace c.toFault.message := by
  simp [intoEnvelope, h]

namespace FunctionServer

/-- The instant by which an invocation that starts at `start` must have answered. -/
def deadline (s : FunctionServer) (start : Moment) : Nat :=
  start.nanos + s.settings.writeTimeout.nanos

/-- Termination of in-flight invocations comes no later than the run's end and the deadline. -/
def Terminates (s : FunctionServer) (start : Moment) (run : Run) : Prop :=
  ∃ c, s.terminateAt = some c ∧ c ≤ run.finish.nanos ∧ c ≤ s.deadline start

/-- Neither termination nor the deadline comes first: the run's own outcome decides. -/
def InTime (s : FunctionServer) (start : Moment) (run : Run) : Prop :=
  ¬ s.Terminates start run ∧ run.finish.passes (s.deadline start) = false

/-- The answer of an invocation whose function ran, by how the run went (see the module doc). -/
inductive Answers (s : FunctionServer) (start : Moment) (run : Run) : Reply → Prop
  | terminated : s.Terminates start run →
      Answers s start run
        (Reply.json 500 (Fault.transient "function terminated: server shutting down").toValue)
  | timedOut : ¬ s.Terminates start run → run.finish.passes (s.deadline start) = true →
      Answers s start run (Reply.json 500
        (Fault.transient ("function timed out after " ++ s.settings.writeTimeout.text)).toValue)
  | replied (response : Members) : s.InTime start run → run.outcome = .reply response →
      Answers s start run (Reply.json 200 (Value.objectOf [("data", .object response)]))
  | tagged (c : Fault.Chain) (f : Fault) : s.InTime start run → run.outcome = .fail c →
      c.find = some f → c.toFault.kind = f.kind → c.toFault.data = f.data →
      c.toFault.stackTrace = f.stackTrace →
      Answers s start run (Reply.json 500 c.toFault.toValue)
  | untagged (c : Fault.Chain) (e : Fault) : s.InTime start run → run.outcome = .fail c →
      c.find = none → e.kind = .failed → e.message = c.toFault.message → e.HasTrace →
      Answers s start run (Reply.json 500 e.toValue)
  | panicked (p : PanicPayload) (e : Fault) : s.InTime start run → run.outcome = .panic p →
      e.kind = .failed → e.message = "Panic in function: " ++ p.text → e.HasTrace →
      Answers s start run (Reply.json 500 e.toValue)
  | aborted : s.InTime start run → run.outcome = .abort →
      Answers s start run (Reply.json 500 (Fault.transient "invocation aborted").toValue)

section Race

variable (s : FunctionServer) (start : Moment)

/-- The race once termination is out of it: the deadline, then the run's outcome. -/
theorem raceFunction_answers (run : Run) (notes : Nat → List (Nat × Record))
    (hin : ¬ s.Terminates start run) :
    let raced := race.raceFunction run s.settings.writeTimeout (s.deadline start) notes
    (raced.answer = none ↔ s.InTime start run ∧ run.outcome = .abort) ∧
      ∀ a, raced.answer = some a → Answers s start run (Reply.ofAnswer a) := by
  intro raced
  unfold raced race.raceFunction
  by_cases hp : run.finish.passes (s.deadline start) = true
  · rw [if_pos hp]
    refine ⟨?_, ?_⟩
    · simp only [reduceCtorEq, false_iff]
      exact fun h => absurd h.1.2 (by simp [hp])
    · rintro a ⟨⟩
      exact .timedOut hin hp
  · have hit : s.InTime start run := ⟨hin, by simpa using hp⟩
    rw [if_neg hp]
    -- within its time the run's outcome is the answer, and only a dead task gives none
    cases ho : run.outcome with
    | reply r => exact ⟨by simp, fun a ha => by cases ha; exact .replied r hit ho⟩
    | fail c =>
      refine ⟨by simp, fun a ha => ?_⟩
      cases ha
      cases hf : c.find with
      | some f =>
        obtain ⟨hk, ht, hd⟩ := Fault.toFaultFrom_of_find hf ""
        rw [intoEnvelope_tagged hf]
        exact .tagged c f hit ho hf hk hd ht
      | none =>
        rw [intoEnvelope_untagged hf]
        exact .untagged c _ hit ho hf rfl rfl (Fault.failedWithTrace_hasTrace _)
    | panic p =>
      refine ⟨by simp, fun a ha => ?_⟩
      cases ha
      exact .panicked p _ hit ho rfl rfl (Fault.failedWithTrace_hasTrace _)
    | abort => exact ⟨by simp [hit], fun a ha => by cases ha⟩

theorem race_answers (ctx : Context) (request : Members) (hc : ctx.cancelAt = s.terminateAt) :
    let run := s.handler ctx request start
    ((s.race ctx request start).answer = none ↔ s.InTime start run ∧ run.outcome = .abort) ∧
      ∀ a, (s.race ctx request start).answer = some a → Answers s start run (Reply.ofAnswer a) := by
  intro run
  unfold race
  rw [hc]
  cases ht : s.terminateAt with
  | none =>
    have hin : ¬ s.Terminates start run := fun ⟨c, hcs, _⟩ => by simp [ht] at hcs
    exact raceFunction_answers s start run _ hin
  | some c =>
    dsimp only
    by_cases hle : c ≤ run.finish.nanos ∧ c ≤ start.nanos + s.settings.writeTimeout.nanos
    · have hT : s.Terminates start run := ⟨c, ht, hle⟩
      rw [if_pos hle]
      refine ⟨?_, fun a ha => ?_⟩
      · simp only [reduceCtorEq, false_iff]
        exact fun h => h.1.1 hT
      · cases ha
        exact .terminated hT
    · have hin : ¬ s.Terminates start run := by
        rintro ⟨c', hc', hle'⟩
        simp only [ht, Option.some.injEq] at hc'
        exact hle (hc' ▸ hle')
      rw [if_neg hle]
      exact raceFunction_answers s start run _ hin

end Race

/-- The function's run in an invocation with these headers and request object. -/
def runOf (s : FunctionServer) (h : InvocationHeaders) (request : Members) (start : Moment) :
    Run :=
  s.handler (s.invocationContext h start) (h.withMetadata request) start

theorem serveRequest_stopped (s : FunctionServer) (h : InvocationHeaders) (request : Members)
    (start : Moment) (hs : (choose s.logSpec s.settings.logLevel).stopped.isSome = true) :
    (s.serveRequest h request start).reply = none ∧ (s.serveRequest h request start).calls = 0 := by
  simp [serveRequest, hs]

theorem serveRequest_runs (s : FunctionServer) (h : InvocationHeaders) (request : Members)
    (start : Moment) (hs : (choose s.logSpec s.settings.logLevel).stopped.isSome = false) :
    let served := s.serveRequest h request start
    let raced := s.race (s.invocationContext h start) (h.withMetadata request) start
    served.reply =
        some (Reply.ofAnswer (raced.answer.getD (.error (Fault.transient "invocation aborted")))) ∧
      served.calls = 1 ∧ ∀ a ∈ served.activity, (a.ending = .dropped ↔ raced.answer = none) := by
  intro served raced
  unfold served serveRequest
  simp only [hs, Bool.false_eq_true, if_false]
  -- the answer decides the reply; the writer, if any, is closed unless the task died
  cases hr : (s.race (s.invocationContext h start) (h.withMetadata request) start).answer <;>
    cases s.activityWriter h start <;> simp

/-- With a request object, the invocation answers unless the filter reading stops; its answer is
one `Answers` allows, after exactly one run. -/
theorem serveRequest_outcome (s : FunctionServer) (h : InvocationHeaders) (request : Members)
    (start : Moment) :
    let served := s.serveRequest h request start
    let run := s.runOf h request start
    (served.reply = none ↔ (choose s.logSpec s.settings.logLevel).stopped.isSome) ∧
      (served.reply = none → served.calls = 0) ∧
      ∀ r, served.reply = some r → served.calls = 1 ∧ Answers s start run r ∧
        ∀ a ∈ served.activity, (a.ending = .dropped ↔ s.InTime start run ∧ run.outcome = .abort) := by
  intro served run
  cases hs : (choose s.logSpec s.settings.logLevel).stopped.isSome with
  | true =>
    obtain ⟨hreply, hcalls⟩ := serveRequest_stopped s h request start hs
    simp [served, hreply, hcalls]
  | false =>
    obtain ⟨hreply, hcalls, hact⟩ := serveRequest_runs s h request start hs
    obtain ⟨hnone, hsome⟩ := race_answers s start (s.invocationContext h start)
      (h.withMetadata request) rfl
    refine ⟨by simp [served, hreply], by simp [served, hreply], fun r hr => ⟨hcalls, ?_, ?_⟩⟩
    · rw [show served.reply = _ from hreply, Option.some.injEq] at hr
      subst hr
      -- a dead task answers `invocation aborted`; any other answer is the race's own
      cases ha : (s.race (s.invocationContext h start) (h.withMetadata request) start).answer with
      | none => exact .aborted (hnone.1 ha).1 (hnone.1 ha).2
      | some a => exact hsome a ha
    · exact fun a ha => (hact a ha).trans hnone

theorem invoke_refused (s : FunctionServer) (headers : List (String × List UInt8))
    (body : Arrival) (start : Moment) (h : readBody s.settings.maxBodyBytes body = .refused) :
    s.invoke headers body start = ⟨some invalidInput, 0, none, start⟩ := by
  simp [invoke, h]

theorem invoke_request (s : FunctionServer) (headers : List (String × List UInt8))
    (b : List UInt8) (request : Members) (start : Moment) (hb : b.length ≤ s.settings.maxBodyBytes)
    (hr : readRequest b = some request) :
    s.invoke headers (.whole b) start =
      s.serveRequest (InvocationHeaders.ofHeaders headers) request start := by
  simp [invoke, readBody, hb, hr]

/-- Every invocation: a body that does not end in time is `408`; a body over the limit, a broken
stream, or one that holds no request is `400`; neither runs the function nor makes an activity
log. With a request, the invocation answers unless the log filter reading stops (and then the
function does not run); when it answers, the function ran once, the answer is one `Answers`
allows for that run, and the activity log, if one was made, is dropped exactly when the run's task
died within its time and closed otherwise. -/
theorem invoke_outcome (s : FunctionServer) (headers : List (String × List UInt8))
    (body : Arrival) (start : Moment) :
    let served := s.invoke headers body start
    let limit := s.settings.maxBodyBytes
    ((∃ b, body = .stalled b ∧ b.length ≤ limit) →
      served.reply = some requestTimeout ∧ served.calls = 0 ∧ served.activity = none) ∧
    (body = .broken ∨ (∃ b, (body = .whole b ∨ body = .stalled b) ∧ limit < b.length) ∨
        (∃ b, body = .whole b ∧ b.length ≤ limit ∧ ¬ HoldsRequest b) →
      served.reply = some invalidInput ∧ served.calls = 0 ∧ served.activity = none) ∧
    (∀ b request, body = .whole b → b.length ≤ limit → readRequest b = some request →
      let run := s.runOf (InvocationHeaders.ofHeaders headers) request start
      (served.reply = none ↔ (choose s.logSpec s.settings.logLevel).stopped.isSome) ∧
      (served.reply = none → served.calls = 0) ∧
      ∀ r, served.reply = some r → served.calls = 1 ∧ Answers s start run r ∧
        ∀ a ∈ served.activity, (a.ending = .dropped ↔ s.InTime start run ∧ run.outcome = .abort)) := by
  intro served limit
  refine ⟨?_, ?_, ?_⟩
  · rintro ⟨b, rfl, hb⟩
    simp [served, invoke, readBody, limit, hb]
  · -- refused by the reader of the stream, or read and holding no request
    rintro (hbroken | hover | ⟨b, rfl, hb, hr⟩)
    · simp [served, invoke_refused s headers body start
        ((readBody_eq_refused_iff _ body).2 (.inl hbroken))]
    · simp [served, invoke_refused s headers body start
        ((readBody_eq_refused_iff _ body).2 (.inr hover))]
    · have hnone : readRequest b = none := (readRequest_eq_none_iff b).2 hr
      simp [served, invoke, readBody, limit, hb, hnone]
  · rintro b request rfl hb hr
    simp only [served, invoke_request s headers b request start hb hr]
    exact serveRequest_outcome s _ request start

-- a configured level is cut at the byte offsets of its trimmed text but in the text as given,
-- so with a leading blank the cut after `aé` in ` aé=x` falls at byte 3, inside `é`: the
-- reading of the filter stops, and a request read whole gets no reply
example : (choose none " aé=x").stopped = some ⟨" aé=x", 3, 2, 'é'⟩ := by
  decide

end FunctionServer

end FunctionHost.Server
