import FunctionHost.Server.Handler
import FunctionHost.Payload.Access
/-!
# The greeting function

The host's own function greets, echoes its request and keeps two counters in the state store.

1. It reads the previous counter at `previous.counter` as a float: missing is 0, anything else
   that cannot be read fails with the context `reading previous counter`.
2. The response holds `output: "Hello World"` and the request without its metadata.
3. When the request names a state store, it binds to it in the environment scope, writes the
   counter under `counter` (context `storing counter`), then increments `counter` inside the
   object under `payload` (context `updating payload`); the response gains both numbers.
4. It reads `count` as an integer (missing is 0, unreadable is the final failure
   `count is not an integer`) and logs that many iterations, one second apart.
5. A top-level `error` makes it fail on purpose: `execute_again` asks to be run again with the
   counter one higher unless the counter is above 1, `transient` and `failed` fail with that
   kind, and anything else (a non-string reads as empty) fails with `unknown error: <text>`.

Results:
* `hello_empty`: an empty request is greeted with itself.
-/
namespace FunctionHost.Greeter

open Json Server

/-- A float as a document value; a value that is not finite has no number and is `null`. -/
def floatValue (x : Binary64) : Value := if x.isFinite then .number (.float x) else .null

def one : Binary64 := Binary64.ofNat 1

/-- The next payload: its `counter` as a float, 0 when missing, plus one. -/
def bumpPayload (old : Option Value) : Value :=
  let previous := match old.bind (·.get? "counter") with
    | some (.number n) => n.toBinary64
    | _ => Binary64.ofNat 0
  Value.objectOf [("counter", floatValue (previous.add one))]

/-- The failure on purpose a request's `error` asks for, if any. -/
def chosenFailure (request : Members) (counter : Binary64) : Option Fault.Chain :=
  match lookup "error" request with
  | none => none
  | some kind =>
    match kind.asString?.getD "" with
    | "execute_again" =>
      if one.lt counter then none
      else some (Fault.Chain.ofFault (Fault.executeAgain "execute_again" (some (membersOf
        [("rkey", .string "rvalue"), ("counter", floatValue (counter.add one))]))))
    | "transient" => some (Fault.Chain.ofFault (Fault.transient "transient"))
    | "failed" => some (Fault.Chain.ofFault (Fault.failed "failed"))
    | other => some (Fault.Chain.ofMessage ("unknown error: " ++ other))

/-- The counters kept in the store: the response's new members, the log lines, and the moment
the writes ended. -/
def keepCounters (ctx : Context) (request : Members) (counter : Binary64) (t : Moment) :
    Except Fault.Chain (List (String × Value) × List Note) × Moment :=
  match ctx.state request >>= fun s => s.withScope s.binding.environmentScope with
  | .error f => (.error (Fault.Chain.ofFault f), t)
  | .ok bound =>
    let first := bound.set "counter" (fun _ _ => .ok (floatValue counter)) t
    match first.result with
    | .error f => (.error ((Fault.Chain.ofFault f).context "storing counter"), first.finish)
    | .ok _ =>
      let second := bound.set "payload" (fun _ old => .ok (bumpPayload old)) first.finish
      match second.result with
      | .error f => (.error ((Fault.Chain.ofFault f).context "updating payload"), second.finish)
      | .ok payload =>
        let c := (payload.get? "counter").getD .null
        (.ok ([("counter", floatValue counter), ("payload", c)],
          [⟨second.finish.nanos, .info, "incremented counter within payload to " ++ c.write⟩]),
          second.finish)

/-- The greeting function. Mirrors the example's `handle`. -/
def hello : Handler := fun ctx request start =>
  let failWith (chain : Fault.Chain) (logs : List Note) (t : Moment) : Run := ⟨.fail chain, logs, t⟩
  let note (message : String) : Note := ⟨start.nanos, .info, message⟩
  let read := Payload.getFloat request ["previous", "counter"]
  let counterRead : Except Fault.Chain (Binary64 × List Note) := match read with
    | .ok c => .ok (c, [note ("previous counter " ++ Binary64.display c)])
    | .error (.keyNotFound _) => .ok (Binary64.ofNat 0, [])
    | .error e => .error ((Fault.Chain.ofMessage e.message).context "reading previous counter")
  match counterRead with
  | .error chain => failWith chain [] start
  | .ok (counter, logs) =>
    let echoed := eraseMember Payload.metadataKey request
    let logs := logs ++ [note ("received request " ++ (Value.object echoed).write)]
    let base := [("output", Value.string "Hello World"), ("request", Value.object echoed)]
    let stored : Except Fault.Chain (List (String × Value) × List Note) × Moment :=
      if (Payload.metaStr request "stateStoreUrl").isSome then keepCounters ctx request counter start
      else (.ok ([], []), start)
    match stored with
    | (.error chain, t) => failWith chain logs t
    | (.ok (extra, more), t) =>
      let logs := logs ++ more
      let count : Except Fault.Chain Int := match Payload.getInt request ["count"] with
        | .ok n => .ok n
        | .error (.keyNotFound _) => .ok 0
        | .error _ => .error (Fault.Chain.ofFault (Fault.failed "count is not an integer"))
      match count with
      | .error chain => failWith chain logs t
      | .ok n =>
        let rounds := n.toNat
        let logs := logs ++ (List.range rounds).map fun i =>
          ⟨t.nanos + i * Duration.nanosPerSecond, .info, "log iteration number=" ++ toString i⟩
        let t := t.wait (rounds * Duration.nanosPerSecond)
        match chosenFailure request counter with
        | some chain => failWith chain logs t
        | none => ⟨.reply (membersOf (base ++ extra)), logs, t⟩

theorem hello_empty (ctx : Context) (t : Moment) :
    (hello ctx [] t).outcome.response? =
      some (membersOf [("output", .string "Hello World"), ("request", .object [])]) := by
  rfl

end FunctionHost.Greeter
