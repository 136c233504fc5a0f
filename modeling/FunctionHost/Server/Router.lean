import FunctionHost.Server.Handler
import FunctionHost.Server.Invocation
import FunctionHost.Server.Settings
import FunctionHost.ActivityLog.Writer
/-!
# Routes and invocations

A server hosts one function. It answers two routes, matched on the path without its query:

* `POST /` invokes the function; any other method there is refused with `405`;
* `GET /_/ready` (and `HEAD`) reports `{"ready", "num_connections"}`, where the server is ready
  while its listener accepts connections; any other method there is refused with `405`;
* every other path is `404`. Refusals carry no body and no content type.

An invocation goes as follows.

1. The body is read within the read timeout and up to the body limit. A body that goes over the
   limit, or whose stream fails, is `400 Invalid input`; one that does not end in time is
   `408 Request timeout`. A body that is not the request object (see `readRequest`) is
   `400 Invalid input`. In all these cases the function does not run and no activity log is made.
2. The request's `metadata` is replaced by the one the headers give, and an activity log is made
   when the headers name a collector whose URL reads. Then the log filter is read; a reading that
   stops at a cut inside a character stops the request's task: no reply comes, and the activity
   log is dropped with nothing in it.
3. The invocation logs `invoking function` in its span, then runs the function. Three things
   race: the termination of in-flight invocations, the write timeout, and the function. A tie
   goes to termination first, then to the function unless its work ends just after the
   deadline. Termination answers `Transient` `function terminated: server shutting down`; the
   timeout answers `Transient` `function timed out after <timeout>`; a panic answers `Failed`
   `Panic in function: <payload>` with a trace; an error chain answers as the first failure it
   holds when there is one, else `Failed` with its whole message and a trace.
4. The activity log is closed, on every path where the function's task survives. When the task
   itself dies the log is dropped and the answer is `Transient` `invocation aborted`.
5. Success is `200 {"data": response}`; a failure is `500` with the failure's wire form.

Results:
* `invoke_refused_body`: a body over the limit is refused without running the function.
-/
namespace FunctionHost.Server

open Json Logging

/-- How the body of a request arrives. -/
inductive Arrival where
  /-- These bytes, then the end. -/
  | whole (bytes : List UInt8)
  /-- These bytes, then nothing more and no end. -/
  | stalled (bytes : List UInt8)
  /-- The stream fails. -/
  | broken
  deriving DecidableEq, Repr

/-- What reading a body within the limits gives. -/
inductive BodyRead where
  | bytes (b : List UInt8)
  /-- Over the limit, or the stream failed. -/
  | refused
  /-- The body did not end within the read timeout. -/
  | timedOut
  deriving DecidableEq, Repr

/-- Reads a body of at most `limit` bytes. -/
def readBody (limit : Nat) : Arrival → BodyRead
  | .whole b => if b.length ≤ limit then .bytes b else .refused
  | .stalled b => if b.length ≤ limit then .timedOut else .refused
  | .broken => .refused

/-- A reply: status, content type, and body bytes. -/
structure Reply where
  status : Nat
  contentType : Option String
  body : List UInt8
  deriving DecidableEq, Repr

namespace Reply

def bare (status : Nat) : Reply := ⟨status, none, []⟩

def text (status : Nat) (s : String) : Reply :=
  ⟨status, some "text/plain; charset=utf-8", s.toUTF8.toList⟩

def json (status : Nat) (v : Value) : Reply := ⟨status, some "application/json", v.write.toUTF8.toList⟩

/-- The reply to a function's answer: `200 {"data": response}`, or `500` with the failure. -/
def ofAnswer : Except Fault Members → Reply
  | .ok data => json 200 (Value.objectOf [("data", .object data)])
  | .error f => json 500 f.toValue

end Reply

/-- The answer to a body that is not a request. -/
def invalidInput : Reply := Reply.text 400 "Invalid input"

/-- The answer to a body that did not arrive in time. -/
def requestTimeout : Reply := Reply.text 408 "Request timeout"

/-- A request to the server. -/
structure Incoming where
  method : String
  /-- The path, with its query if any. -/
  target : String
  headers : List (String × List UInt8)
  body : Arrival

/-- A server hosting one function. -/
structure FunctionServer where
  settings : Settings
  handler : Handler
  client : Transport.Client
  net : Transport.Network
  /-- The log filter specification the environment gives, if any. -/
  logSpec : Option String
  /-- Whether the listener accepts connections. -/
  accepting : Bool
  /-- When shutdown began, if it has. -/
  shutdownAt : Option Nat
  /-- When in-flight invocations are terminated, if they are. -/
  terminateAt : Option Nat

def loggerTarget : String := "runfn_sdk::telemetry"

def serverTarget : String := "runfn_sdk::server"

/-- The request object handed to the function: the body's object with its metadata replaced by
the one the headers give. -/
def InvocationHeaders.withMetadata (h : InvocationHeaders) (request : Members) : Members :=
  insertMember Payload.metadataKey (.object h.metadata) request

def invocationSpan (h : InvocationHeaders) : Span :=
  ⟨"invocation", serverTarget, .info,
    [("activity_id", h.activityId), ("environment_id", h.environmentId),
     ("environment_name", h.environmentName)]⟩

/-- Classifies an error chain: its first failure when it has one, else `Failed` with the whole
message and a trace. Mirrors `into_envelope`. -/
def intoEnvelope (c : Fault.Chain) : Fault :=
  match c.find with
  | some _ => c.toFault
  | none => Fault.failedWithTrace c.toFault.message

/-- How an invocation's activity log ended: closed with an outcome, or dropped. -/
inductive LogEnd where
  | closed (result : Except ActivityLog.LogError Unit)
  | dropped

/-- An invocation's activity log: the lines written to it and how it ended. -/
structure Activity where
  lines : List String
  ending : LogEnd

/-- What serving a request did: the reply (none when the request's task stopped before it
answered), how many times the function ran, the activity log if one was made, and when the
reply was ready. -/
structure Served where
  reply : Option Reply
  calls : Nat
  activity : Option Activity
  finish : Moment

/-- What the race around a function gives: the answer (none when the task died), the records
logged in the invocation with their instants, and when it ended. -/
structure Raced where
  answer : Option (Except Fault Members)
  records : List (Nat × Record)
  finish : Moment

namespace FunctionServer

/-- A server for a function, with an outbound client built from its settings. -/
def new (settings : Settings) (handler : Handler) (net : Transport.Network)
    (logSpec : Option String) : Except Transport.HttpError FunctionServer :=
  (Transport.Client.build settings.clientConfig).map fun client =>
    ⟨settings, handler, client, net, logSpec, false, none, none⟩

def withClient (s : FunctionServer) (client : Transport.Client) : FunctionServer :=
  { s with client }

def readyValue (s : FunctionServer) : Value :=
  Value.objectOf [("ready", .bool s.accepting),
    ("num_connections", .number (.nat (if s.accepting then 1 else 0)))]

/-- The race between termination, the write timeout and the function. -/
def race (s : FunctionServer) (ctx : Context) (request : Members) (start : Moment) : Raced :=
  let run := s.handler ctx request start
  let timeout := s.settings.writeTimeout
  let deadline := start.nanos + timeout.nanos
  let notes (upTo : Nat) := (run.logs.filter (·.instant ≤ upTo)).map fun n =>
    (n.instant, Record.mk n.level loggerTarget n.message [])
  match ctx.cancelAt with
  | some c =>
    if c ≤ run.finish.nanos ∧ c ≤ deadline then
      let at_ := Nat.max c start.nanos
      ⟨some (.error (Fault.transient "function terminated: server shutting down")),
        notes at_ ++ [(at_, ⟨.warn, loggerTarget, "function terminated during shutdown", []⟩)],
        ⟨at_, false⟩⟩
    else raceFunction run timeout deadline notes
  | none => raceFunction run timeout deadline notes
where
  /-- The race without termination. -/
  raceFunction (run : Run) (timeout : Duration) (deadline : Nat)
      (notes : Nat → List (Nat × Record)) : Raced :=
    if run.finish.passes deadline then
      ⟨some (.error (Fault.transient ("function timed out after " ++ timeout.text))),
        notes deadline ++ [(deadline, ⟨.warn, loggerTarget,
          "function exceeded its deadline of " ++ timeout.text, []⟩)], ⟨deadline, false⟩⟩
    else
      let logged := notes run.finish.nanos
      let at_ := run.finish.nanos
      match run.outcome with
      | .reply r => ⟨some (.ok r), logged, run.finish⟩
      | .fail c =>
        let f := intoEnvelope c
        ⟨some (.error f), logged ++ [(at_, ⟨.error, serverTarget, "function returned an error",
          [("code", toString f.kind.code), ("error", f.message)]⟩)], run.finish⟩
      | .panic p =>
        ⟨some (.error (Fault.failedWithTrace ("Panic in function: " ++ p.text))),
          logged ++ [(at_, ⟨.error, serverTarget, "panic in function", [("panic", p.text)]⟩)],
          run.finish⟩
      | .abort => ⟨none, logged, run.finish⟩

/-- Writes records to an activity log as they come, each as one line. -/
def logRecords (filter : Filter) (span : Span) : List (Nat × Record) → ActivityLog.Writer →
    List String × ActivityLog.Writer
  | [], w => ([], w)
  | (t, r) :: rest, w =>
    match emit filter [span] false r with
    | some line =>
      let w := (w.advance t).write (line ++ "\n").toUTF8.toList |>.2
      let (more, w) := logRecords filter span rest w
      (line :: more, w)
    | none => logRecords filter span rest (w.advance t)

/-- The context a function runs in: the server's client and network, the invocation's
identifiers, cancelled when in-flight invocations are terminated. -/
def invocationContext (s : FunctionServer) (h : InvocationHeaders) (start : Moment) : Context :=
  { client := s.client, net := s.net, activityId := h.activityId,
    environmentId := h.environmentId, environmentName := h.environmentName,
    cancelAt := s.terminateAt, shuttingDown := start.reached s.shutdownAt }

/-- The activity log of an invocation: made when the headers name a collector whose URL reads. -/
def activityWriter (s : FunctionServer) (h : InvocationHeaders) (start : Moment) :
    Option ActivityLog.Writer :=
  h.activityLogUrl.bind fun url =>
    (ActivityLog.Writer.make url h.workflowToken s.settings.logSettings s.client s.net
      start.nanos).toOption

/-- Runs the function on a request object, with what the headers say, from a moment on. Mirrors the
rest of `invoke` once the request is read: the metadata put into the request, the activity log
writer, and `run_handler`. -/
def serveRequest (s : FunctionServer) (h : InvocationHeaders) (request : Members)
    (start : Moment) : Served :=
  let writer := s.activityWriter h start
  let reading := choose s.logSpec s.settings.logLevel
  if reading.stopped.isSome then ⟨none, 0, writer.map fun _ => ⟨[], .dropped⟩, start⟩ else
  let filter := reading.kept
  let span := invocationSpan h
  let raced := s.race (s.invocationContext h start) (h.withMetadata request) start
  let records := (start.nanos, ⟨.info, loggerTarget, "invoking function", []⟩) :: raced.records
  match raced.answer with
  | none =>
    let activity := writer.map fun w =>
      ⟨(logRecords filter span records w).1, .dropped⟩
    ⟨some (Reply.ofAnswer (.error (Fault.transient "invocation aborted"))), 1, activity,
      raced.finish⟩
  | some answer =>
    match writer with
    | none => ⟨some (Reply.ofAnswer answer), 1, none, raced.finish⟩
    | some w =>
      let logged := logRecords filter span records w
      let closed := (logged.2.advance raced.finish.nanos).close
      let finish :=
        if closed.2.now ≤ raced.finish.nanos then raced.finish else ⟨closed.2.now, false⟩
      ⟨some (Reply.ofAnswer answer), 1, some ⟨logged.1, .closed closed.1⟩, finish⟩

/-- Invokes the function with a body and headers, from a moment on. Mirrors the handler of `POST /`,
`invoke`. -/
def invoke (s : FunctionServer) (headers : List (String × List UInt8)) (body : Arrival)
    (start : Moment) : Served :=
  match readBody s.settings.maxBodyBytes body with
  | .refused => ⟨some invalidInput, 0, none, start⟩
  | .timedOut => ⟨some requestTimeout, 0, none, start.wait s.settings.readTimeout.nanos⟩
  | .bytes b =>
    match readRequest b with
    | none => ⟨some invalidInput, 0, none, start⟩
    | some request => s.serveRequest (InvocationHeaders.ofHeaders headers) request start

/-- Serves one request, from a moment on. Mirrors the routes `serve` sets up. -/
def route (s : FunctionServer) (req : Incoming) (start : Moment) : Served :=
  let path := String.ofList (req.target.toList.takeWhile (· ≠ '?'))
  if path = "/" then
    if req.method = "POST" then s.invoke req.headers req.body start
    else ⟨some (Reply.bare 405), 0, none, start⟩
  else if path = "/_/ready" then
    if req.method = "GET" then ⟨some (Reply.json 200 s.readyValue), 0, none, start⟩
    else if req.method = "HEAD" then
      ⟨some { Reply.json 200 s.readyValue with body := [] }, 0, none, start⟩
    else ⟨some (Reply.bare 405), 0, none, start⟩
  else ⟨some (Reply.bare 404), 0, none, start⟩

end FunctionServer

theorem invoke_refused_body (s : FunctionServer) (headers : List (String × List UInt8))
    (b : List UInt8) (t : Moment) (h : s.settings.maxBodyBytes < b.length) :
    (s.invoke headers (.whole b) t).calls = 0 ∧ (s.invoke headers (.whole b) t).activity = none := by
  have : ¬ b.length ≤ s.settings.maxBodyBytes := by omega
  simp [FunctionServer.invoke, readBody, this]

end FunctionHost.Server
