import FunctionHost.State.Scope
import FunctionHost.Transport.Client
import FunctionHost.Json.Stream
import FunctionHost.Json.Writer
/-!
# Reading and writing state

A store holds, per scope and key, a value and its version. Four operations reach it:

* `get` asks with `GET` at the base URL with the query pairs `organization_id`, `key`, then
  `project_id` and `environment_id` when the scope has them. `200` carries the entry
  (`{"value": v, "version": n}`, the value `null` when missing, the version a 32-bit count), and
  a body that cannot be read to its end is a transient failure; `404` means the key is not
  there; anything else fails with the status and the body.
* `setKv` writes a value at a version with `PUT` at the base URL; `200` is success, `409` a lost
  race (a conflict), anything else fails with the body.
* `delete` removes a key with `DELETE` at the base URL; only `200` is success.
* `set` reads, updates and writes: the update sees the current value (none when the key is not
  there, reading it at version 0), and a write that loses a race starts over, at most
  `maxSetAttempts` times. The update is called once per round; its failure ends the operation.

Every request carries the store token, the three identifiers of the binding and the content
type. A request that fails for good (a permanent failure class) is a final failure; a request
that could not get through, or was cancelled, is transient.

Results:
* `transportFault_cancelled`: a cancelled request is a transient failure.
* `setFrom_calls`: a read-modify-write calls its update at most once per round.
-/
namespace FunctionHost.State

open Json Transport

/-- A value held in the store, with its version. -/
structure Entry where
  value : Value
  version : Nat
  deriving Repr

def entryShape : Shape :=
  .record "StateEntry" [("value", [], .any, true), ("version", [], .unsigned 32, false)]

def entryOf (v : Value) : Entry :=
  ⟨(v.get? "value").getD .null, match v.get? "version" with
    | some (.number (.nat n)) => n
    | _ => 0⟩

/-- The failure a request that did not get a response turns into. Mirrors `transport_error`. -/
def transportFault (e : HttpError) : Fault :=
  match e with
  | .request _ f _ =>
    if f.isPermanent then Fault.failed ("state store request failed: " ++ e.message)
    else Fault.transient ("state store unavailable: " ++ e.message)
  | _ => Fault.transient ("state store unavailable: " ++ e.message)

/-- A client of the store for one invocation. -/
structure Store where
  client : Client
  net : Network
  binding : Binding
  maxSetAttempts : Nat
  /-- The instant the invocation's cancellation comes, if it does. -/
  cancelAt : Option Nat

namespace Store

/-- A store client with five rounds for a read-modify-write and no cancellation. -/
def new (binding : Binding) (client : Client) (net : Network) : Store :=
  ⟨client, net, binding, 5, none⟩

/-- Sets the rounds of a read-modify-write; there is always at least one. -/
def withMaxSetAttempts (s : Store) (n : Nat) : Store := { s with maxSetAttempts := Nat.max n 1 }

def withCancellation (s : Store) (c : Nat) : Store := { s with cancelAt := some c }

end Store

/-- A store client in one scope. -/
structure Scoped where
  store : Store
  base : Url
  scope : Scope

/-- Puts a store client in a scope; the base URL must parse. -/
def Store.withScope (s : Store) (scope : Scope) : Except Fault Scoped :=
  match Url.parse s.binding.baseUrl with
  | .ok u => .ok ⟨s, u, scope⟩
  | .error e =>
    .error (Fault.failed ("invalid state store url " ++ s.binding.baseUrl ++ ": " ++ e.message))

def scopeText (s : Scope) : String :=
  "\x7b\"organization_id\":" ++ writeString s.organizationId ++
    (s.projectId.map fun p => ",\"project_id\":" ++ writeString p).getD "" ++
    (s.environmentId.map fun e => ",\"environment_id\":" ++ writeString e).getD "" ++ "\x7d"

namespace Scoped

/-- A draft with the binding's headers added: the store token, the three identifiers and the
content type. -/
def stamp (s : Scoped) (d : Draft) : Draft :=
  let b := s.store.binding
  ((((d.headerText "X-Eaas-State-Token" b.token).headerText "X-Organization-ID"
    b.organizationId).headerText "X-Project-ID" b.projectId).headerText "X-Environment-ID"
    b.environmentId).headerText "content-type" "application/json"

/-- Sends a drafted request with the binding's headers: a response, or the error the transport
ended in. -/
def transport (s : Scoped) (d : Draft) (t : Moment) : Except HttpError Response × Moment :=
  send s.store.client s.store.net (s.stamp d) s.store.cancelAt t

/-- Sends a drafted request with the binding's headers; a transport error becomes a fault. -/
def exchange (s : Scoped) (d : Draft) (t : Moment) : Except Fault Response × Moment :=
  let (r, t1) := s.transport d t
  (r.mapError transportFault, t1)

/-- A request with a body given as text in a document. -/
def jsonDraft (m : Method) (u : Url) (body : String) : Draft :=
  ((Draft.ofUrl m u).headerText "content-type" "application/json").withBody
    (.bytes body.toUTF8.toList)

/-- The URL that reads a key. -/
def getUrl (s : Scoped) (key : String) : Url :=
  s.base.appendPairs ([("organization_id", s.scope.organizationId), ("key", key)] ++
    (s.scope.projectId.map fun p => [("project_id", p)]).getD [] ++
    (s.scope.environmentId.map fun e => [("environment_id", e)]).getD [])

def readDraft (s : Scoped) (key : String) : Draft := Draft.ofUrl .get (s.getUrl key)

/-- What the answer to a read of `key` says: the entry on `200` (a transient failure when the
body cannot be read), that the key is not there on `404`, a failure otherwise. -/
def readReply (key : String) : Except Fault Response → Except Fault Entry
  | .error f => .error f
  | .ok resp =>
    if resp.status = 200 then
      match resp.bodyFailure with
      | some e => .error (Fault.transient ("reading state store response: " ++ e.text))
      | none =>
        match decodeBytes entryShape resp.body with
        | .ok v => .ok (entryOf v)
        | .error e => .error (Fault.failed e.message)
    else if resp.status = 404 then .error (Fault.notFound ("key not found: " ++ key))
    else .error (Fault.failed ("get kv state failed (" ++ statusText resp.status ++ "): " ++
      resp.text))

/-- Reads a key. Mirrors the scoped client's `get`. -/
def get (s : Scoped) (key : String) (t : Moment) : Except Fault Entry × Moment :=
  let (r, t1) := s.exchange (s.readDraft key) t
  (readReply key r, t1)

/-- The request that writes a value at a version. -/
def writeDraft (s : Scoped) (key : String) (value : Value) (version : Nat) : Draft :=
  jsonDraft .put s.base ("\x7b\"scope\":" ++ scopeText s.scope ++ ",\"key\":" ++
    writeString key ++ ",\"value\":" ++ value.write ++ ",\"version\":" ++ toString version ++
    "\x7d")

/-- What the answer to a write says: success on `200`, a lost race on `409`, a failure otherwise. -/
def writeReply : Except Fault Response → Except Fault Unit
  | .error f => .error f
  | .ok resp =>
    if resp.status = 200 then .ok ()
    else if resp.status = 409 then .error (Fault.conflict "version conflict on set")
    else .error (Fault.failed ("set failed: " ++ resp.text))

/-- Writes a value at a version. Mirrors `set_kv`. -/
def setKv (s : Scoped) (key : String) (value : Value) (version : Nat) (t : Moment) :
    Except Fault Unit × Moment :=
  let (r, t1) := s.exchange (s.writeDraft key value version) t
  (writeReply r, t1)

def deleteDraft (s : Scoped) (key : String) : Draft :=
  jsonDraft .delete s.base
    ("\x7b\"scope\":" ++ scopeText s.scope ++ ",\"key\":" ++ writeString key ++ "\x7d")

/-- What the answer to a removal says: success on `200`, a failure otherwise. -/
def deleteReply : Except Fault Response → Except Fault Unit
  | .error f => .error f
  | .ok resp =>
    if resp.status = 200 then .ok () else .error (Fault.failed ("delete failed: " ++ resp.text))

/-- Removes a key. Mirrors the scoped client's `delete`. -/
def delete (s : Scoped) (key : String) (t : Moment) : Except Fault Unit × Moment :=
  let (r, t1) := s.exchange (s.deleteDraft key) t
  (deleteReply r, t1)

/-- What a round of a read-modify-write found: the current value, if any, and its version. -/
def current (r : Except Fault Entry) : Except Fault (Option Value × Nat) :=
  match r with
  | .ok e => .ok (some e.value, e.version)
  | .error f => if f.kind = .notFound then .ok (none, 0) else .error f

/-- The outcome of a read-modify-write: the value written, the values the update saw, and the
moment it ended. -/
structure SetOutcome where
  result : Except Fault Value
  calls : List (Option Value)
  finish : Moment

/-- The rounds of a read-modify-write from round `n` on, `left` rounds still allowed; the update
gets the round number and the current value. -/
def setFrom (s : Scoped) (key : String) (update : Nat → Option Value → Except Fault Value) :
    Nat → Nat → Moment → List (Option Value) → SetOutcome
  | 0, _, t, calls =>
    ⟨.error (Fault.transient "set failed after max retries due to version conflicts"), calls, t⟩
  | left + 1, n, t, calls =>
    let (g, t1) := s.get key t
    match current g with
    | .error f => ⟨.error f, calls, t1⟩
    | .ok (cur, version) =>
      match update n cur with
      | .error f => ⟨.error f, calls ++ [cur], t1⟩
      | .ok next =>
        let (w, t2) := s.setKv key next version t1
        match w with
        | .ok () => ⟨.ok next, calls ++ [cur], t2⟩
        | .error f =>
          if f.kind = .conflict then s.setFrom key update left (n + 1) t2 (calls ++ [cur])
          else ⟨.error f, calls ++ [cur], t2⟩

/-- Reads, updates and writes a key, starting over when the write loses a race. Mirrors the scoped
client's `set`. -/
def set (s : Scoped) (key : String) (update : Nat → Option Value → Except Fault Value)
    (t : Moment) : SetOutcome :=
  s.setFrom key update s.store.maxSetAttempts 1 t []

end Scoped

theorem transportFault_cancelled (n : Nat) :
    (transportFault (.cancelled n)).kind = .transient := rfl

theorem setFrom_calls (s : Scoped) (key : String) (update : Nat → Option Value → Except Fault Value) :
    ∀ (left n : Nat) (t : Moment) (calls : List (Option Value)),
      (s.setFrom key update left n t calls).calls.length ≤ calls.length + left := by
  intro left
  induction left with
  | zero => intro n t calls; simp [Scoped.setFrom]
  | succ k ih =>
    intro n t calls
    simp only [Scoped.setFrom]
    split
    · simp
    · split
      · simp
      · split
        · simp
        · split
          · refine Nat.le_trans (ih _ _ _) ?_
            simp
            omega
          · simp

end FunctionHost.State
