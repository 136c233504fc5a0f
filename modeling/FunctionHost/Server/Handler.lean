import FunctionHost.State.Store
import FunctionHost.Fault.Chain
import FunctionHost.Logging.Record
/-!
# Functions and what they see

A function is handed its invocation context and the request, and runs from a moment on. The
context holds the outbound client, the network it reaches, the invocation's identifiers, the
instant of its cancellation if it comes, and whether the server is shutting down. A function
reaches the state store through the binding its request's metadata gives.

A function ends in one of four ways: a response, an error chain, a panic, or the death of the
task that ran it. A panic's payload reads as its text when it is a string, and as
`unknown panic payload` otherwise. What a function logs is kept with its instant and level.

A logger is the span its records are made in, if any; its debugging text shows the span.
-/
namespace FunctionHost.Server

open Json

/-- What a function sees of its invocation. -/
structure Context where
  client : Transport.Client
  net : Transport.Network
  activityId : String
  environmentId : String
  environmentName : String
  /-- The instant of the invocation's cancellation, if it comes. -/
  cancelAt : Option Nat
  shuttingDown : Bool

namespace Context

def new (client : Transport.Client) (net : Transport.Network) : Context :=
  ⟨client, net, "", "", "", none, false⟩

/-- Whether the invocation has been cancelled by a moment. -/
def cancelled (c : Context) (t : Moment) : Bool := t.reached c.cancelAt

/-- A store client bound through the request's metadata, cancelled with the invocation. -/
def state (c : Context) (request : Members) : Except Fault State.Store :=
  (State.Binding.ofRequest request).map fun b =>
    { State.Store.new b c.client c.net with cancelAt := c.cancelAt }

end Context

/-- What a panic carried. -/
inductive PanicPayload where
  /-- A string fixed in the program. -/
  | literal (text : String)
  /-- A string built at run time. -/
  | owned (text : String)
  /-- Anything else. -/
  | other
  deriving DecidableEq, Repr

def PanicPayload.text : PanicPayload → String
  | .literal s => s
  | .owned s => s
  | .other => "unknown panic payload"

/-- How a function ended. -/
inductive Outcome where
  | reply (response : Members)
  | fail (chain : Fault.Chain)
  | panic (payload : PanicPayload)
  /-- The task running the function died. -/
  | abort

def Outcome.response? : Outcome → Option Members
  | .reply r => some r
  | _ => none

/-- A line a function logged: when, at what level, and what. -/
structure Note where
  instant : Nat
  level : Logging.Level
  message : String
  deriving DecidableEq, Repr

/-- A function's run: how it ended, what it logged, and when it ended. -/
structure Run where
  outcome : Outcome
  logs : List Note
  finish : Moment

/-- A function. -/
abbrev Handler := Context → Members → Moment → Run

/-- A logger: the span its records are made in, if any. -/
structure Logger where
  span : Option Logging.Span

def Logger.text (l : Logger) : String :=
  match l.span with
  | none => "Logger \x7b span: Span \x7b none: true \x7d \x7d"
  | some s => "Logger \x7b span: Span \x7b name: " ++ Json.debugQuote s.name ++ ", level: Level(" ++
      (match s.level with
        | .error => "Error" | .warn => "Warn" | .info => "Info" | .debug => "Debug"
        | .trace => "Trace") ++ "), target: " ++ Json.debugQuote s.target ++ " \x7d \x7d"

end FunctionHost.Server
