import FunctionHost.Server.Router
/-!
# Serving and shutting down

A server serves on a listener until its root token is cancelled. Serving runs alongside a
shutdown watcher and the connections the listener accepts; which of them moves next is not
under the server's control, so the lifecycle is a machine over events, each event one step of
one of them:

* `start`: serving raises the readiness flag and spawns the watcher, before it accepts anything;
* `cancel`: someone cancels the root token (also before serving starts);
* `observe`: the watcher sees the cancelled root, lowers the flag and signals shutdown, which
  stops the listener and lets in-flight invocations finish;
* `expire`: the grace period after the watcher's observation is over; the watcher terminates the
  invocations still in flight;
* `drain`: serving ends after the shutdown signal, or `crash`: serving fails; either way serving
  lowers the flag and aborts the watcher;
* `probe`: a connection asks `/_/ready` and is told the flag;
* `wait`: time passes.

An event that cannot happen in a state leaves the state as it is.

Binding the listener comes first: a port that is taken ends the run with the server error of the
bind. The process also answers a shutdown signal: `SIGINT` or `SIGTERM` ends the wait for it,
with a note saying which came.

Results:
* `step_returned`: once serving has returned with the flag down, no event raises it again.
* `quiet_after`: a quiet run ends with the flag down.
-/
namespace FunctionHost.Server

/-- What `/_/ready` reads: whether the listener accepts connections. -/
structure Readiness where
  accepting : Bool
  deriving DecidableEq, Repr

namespace Readiness

/-- One while the listener accepts connections, zero otherwise. -/
def connections (r : Readiness) : Nat := if r.accepting then 1 else 0

/-- Whether the server is ready. -/
def ready (r : Readiness) : Bool := r.connections > 0

end Readiness

/-- Where serving is. -/
inductive ServePhase where
  | idle
  | serving
  | returned
  deriving DecidableEq, Repr

/-- Where the shutdown watcher is. -/
inductive WatchPhase where
  /-- Not spawned yet. -/
  | unborn
  /-- Waiting for the root token. -/
  | waiting
  /-- Sleeping through the grace period it entered at this instant. -/
  | draining (since : Nat)
  /-- Done: in-flight invocations were terminated. -/
  | finished
  | aborted
  deriving DecidableEq, Repr

/-- One step of serving, of the watcher, of a connection, or of the clock. -/
inductive Event where
  | wait (d : Nat)
  | cancel
  | start
  | observe
  | expire
  | drain
  | crash
  | probe
  deriving DecidableEq, Repr

/-- The state of a server's lifecycle. -/
structure Lifecycle where
  now : Nat
  /-- The grace period between shutdown and termination. -/
  grace : Nat
  readiness : Readiness
  /-- When the root token was cancelled, if it was. -/
  rootAt : Option Nat
  /-- Whether shutdown has been signalled. -/
  shutdown : Bool
  /-- When in-flight invocations were terminated, if they were. -/
  terminateAt : Option Nat
  serve : ServePhase
  watcher : WatchPhase
  /-- What each probe was told, in order. -/
  answers : List Bool
  deriving DecidableEq, Repr

namespace Lifecycle

def new (grace : Nat) : Lifecycle := ⟨0, grace, ⟨false⟩, none, false, none, .idle, .unborn, []⟩

def step (s : Lifecycle) : Event → Lifecycle
  | .wait d => { s with now := s.now + d }
  | .cancel => { s with rootAt := s.rootAt.orElse fun _ => some s.now }
  | .start =>
    if s.serve = .idle then { s with readiness := ⟨true⟩, watcher := .waiting, serve := .serving }
    else s
  | .observe =>
    if s.watcher = .waiting ∧ s.rootAt.isSome then
      { s with readiness := ⟨false⟩, shutdown := true, watcher := .draining s.now }
    else s
  | .expire =>
    match s.watcher with
    | .draining since =>
      if since + s.grace ≤ s.now then { s with terminateAt := some s.now, watcher := .finished }
      else s
    | _ => s
  | .drain =>
    if s.serve = .serving ∧ s.shutdown then
      { s with readiness := ⟨false⟩, serve := .returned,
               watcher := if s.watcher = .finished then .finished else .aborted }
    else s
  | .crash =>
    if s.serve = .serving then
      { s with readiness := ⟨false⟩, serve := .returned,
               watcher := if s.watcher = .finished then .finished else .aborted }
    else s
  | .probe =>
    if s.serve = .serving then { s with answers := s.answers ++ [s.readiness.ready] } else s

def steps (s : Lifecycle) (events : List Event) : Lifecycle := events.foldl step s

/-- A run with nothing in flight: serving starts, the root is cancelled `after` nanoseconds
later, the watcher observes it, and serving drains. -/
def quiet (grace after : Nat) : Lifecycle :=
  (new grace).steps [.start, .wait after, .cancel, .observe, .drain]

end Lifecycle

/-- Why the server could not run. -/
inductive SdkError where
  | config (e : ConfigError)
  | http (e : Transport.HttpError)
  /-- The listener could not be bound, or serving failed. -/
  | io (reason : String)

def SdkError.message : SdkError → String
  | .config e => "configuration error: " ++ e.message
  | .http e => "http client error: " ++ e.message
  | .io reason => "server error: " ++ reason

def addressInUse : String := "Address already in use (os error 98)"

/-- A run on all interfaces: what readiness said while it ran, how it ended, and readiness after.
Binding a taken port ends it at once. -/
structure RunReport where
  readyWhileRunning : Bool
  result : Except SdkError Unit
  after : Readiness

/-- Runs a server whose root is cancelled `after` nanoseconds into serving. -/
def runServer (grace after : Nat) (portFree : Bool) : RunReport :=
  if portFree then
    let running := (Lifecycle.new grace).step .start
    ⟨running.readiness.ready, .ok (), (Lifecycle.quiet grace after).readiness⟩
  else ⟨(Lifecycle.new grace).readiness.ready, .error (.io addressInUse), (Lifecycle.new grace).readiness⟩

/-- A signal that ends the wait for shutdown. -/
inductive Signal where
  | interrupt
  | terminate
  deriving DecidableEq, Repr

def Signal.notice : Signal → String
  | .interrupt => "received SIGINT, shutting down"
  | .terminate => "received SIGTERM, shutting down"

/-- Waits for shutdown through the signals that arrive: the first one ends the wait. -/
def awaitShutdown (arrived : List Signal) : Option Signal := arrived.head?

theorem step_returned (s : Lifecycle) (e : Event) (hs : s.serve = .returned)
    (hr : s.readiness.accepting = false) :
    (s.step e).serve = .returned ∧ (s.step e).readiness.accepting = false := by
  cases e <;> simp only [Lifecycle.step] <;> (repeat' split) <;> simp_all

theorem quiet_after (grace after : Nat) : (Lifecycle.quiet grace after).readiness.accepting = false := by
  simp [Lifecycle.quiet, Lifecycle.steps, Lifecycle.step, Lifecycle.new]

end FunctionHost.Server
