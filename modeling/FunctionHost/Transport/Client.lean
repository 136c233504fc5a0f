import FunctionHost.Transport.Exchange
import FunctionHost.Transport.Settings
import FunctionHost.Time.Moment
/-!
# The retrying client

A client is built from its settings. Building fails only for a proxy that is not a URL with a
host, even after `http://` is put in front of it; that second reading is tried only when the
first found no scheme or no host.

Sending a request goes through a retry loop (`execute_with`). Attempt `n` (counted from 1) is
first counted on a 32-bit counter: the count past its largest value overflows, which stops the
program where overflow is checked. The attempt then starts with a look at the caller's
cancellation: once it has happened the loop stops, cancelled after `n` attempts. Otherwise the
attempt's answer comes after the time the network takes; a cancellation strictly before that
instant cuts the attempt short, cancelled after `n` attempts. A cancellation at the very instant
of the answer comes after the loop has taken it, and is what the check that follows sees. A
failed attempt is classified; the loop gives up with that failure when the retries are used up
or when the failure should not be retried (it is permanent, or the caller has cancelled by
then). Otherwise it sleeps for the backoff of attempt `n`, and stops cancelled after `n`
attempts if the cancellation comes first. A request that could not be built fails at once; an
answer from the network is taken just after its instant.

A request that could not be built fails after one attempt. A request whose body is a stream is
sent once (`send`): the loop with no retry left. Every other request is sent again as it was on
each attempt.

Results:
* `proxyUrl_plain`: a proxy given as a URL with a host is kept as it was read.
* `attemptFrom_cancelled`: a cancellation that has already happened stops the loop before the
  attempt.
-/
namespace FunctionHost.Transport


/-- The largest count of the client's 32-bit attempt counter. -/
def counterMax : Nat := Nat.pow 2 32 - 1

/-- Why a client could not be built or a request failed. -/
inductive HttpError where
  /-- The client could not be built. -/
  | build (e : TransportError)
  /-- The last attempt failed, after `attempts` attempts. -/
  | request (attempts : Nat) (failure : Failure) (e : TransportError)
  /-- The caller cancelled, after `attempts` attempts. -/
  | cancelled (attempts : Nat)
  /-- The attempt counter ran past its largest value: the program stops there where overflow is
  checked, and otherwise counts again from 0, which no bound on the retries ever passes. -/
  | counterOverflow
  deriving DecidableEq, Repr

namespace HttpError

def message : HttpError → String
  | .build e => "failed to build http client: " ++ e.text
  | .request n _ e => "request failed after " ++ toString n ++ " attempt(s): " ++ e.text
  | .cancelled n => "request cancelled after " ++ toString n ++ " attempt(s)"
  | .counterOverflow => "attempt to add with overflow"

def attempts : HttpError → Nat
  | .build _ => 0
  | .request n _ _ => n
  | .cancelled n => n
  | .counterOverflow => counterMax

def failure? : HttpError → Option Failure
  | .request _ f _ => some f
  | _ => none

/-- Whether the last attempt ran out of time. -/
def isTimeout (e : HttpError) : Bool := e.failure? == some .timeout

/-- A failed request after `n` attempts, classified. -/
def ofAttempt (n : Nat) (e : TransportError) : HttpError := .request n (classify e) e

end HttpError

theorem mapError_ok {ε ε' α : Type} (f : ε → ε') (a : α) :
    (Except.ok a : Except ε α).mapError f = .ok a := rfl

theorem mapError_error {ε ε' α : Type} (f : ε → ε') (e : ε) :
    (Except.error e : Except ε α).mapError f = .error (f e) := rfl

/-- A URL with a host read from text, if it is one. -/
def hostedUrl (s : String) : Option Url :=
  match Url.parse s with
  | .ok u => if u.hasHost then some u else none
  | .error _ => none

/-- The URL of a proxy: read as it is, else with `http://` in front when the first reading
found no scheme or no host. -/
def proxyUrl (s : String) : Option Url :=
  match Url.parse s with
  | .ok u => if u.hasHost then some u else hostedUrl ("http://" ++ s)
  | .error .relativeUrlWithoutBase => hostedUrl ("http://" ++ s)
  | .error _ => none

/-- A client ready to send. -/
structure Client where
  config : ClientConfig
  proxy : Option Url

namespace Client

/-- Builds a client; a proxy that is not a URL with a host is refused. -/
def build (c : ClientConfig) : Except HttpError Client :=
  match c.proxy with
  | none => .ok ⟨c, none⟩
  | some p =>
    match proxyUrl p with
    | some u => .ok ⟨c, some u⟩
    | none => .error (.build (.invalid "invalid proxy url"))

def retry (c : Client) : RetryConfig := c.config.retry

end Client

/-- The moment the loop takes the answer of an attempt called at `t`: at once when the request
could not be built, otherwise just after the instant the answer comes. -/
def attemptEnd (t : Moment) (a : Answer) : Moment :=
  match a.outcome with
  | .error e => if e.stage = .build then t else (t.wait a.takes).settle
  | .ok _ => (t.wait a.takes).settle

theorem le_attemptEnd (t : Moment) (a : Answer) : t.nanos ≤ (attemptEnd t a).nanos := by
  unfold attemptEnd
  split
  · split
    · exact Nat.le_refl _
    · exact Moment.nanos_le_wait t a.takes
  · exact Moment.nanos_le_wait t a.takes

/-- The retry loop from attempt `n` on, with `left` retries still allowed, starting at `t`;
`cancelAt` is the instant of the caller's cancellation, if any. This is the loop of `execute_with`.
-/
def attemptFrom (retry : RetryConfig) (cancelAt : Option Nat) (attempt : Nat → Answer) :
    Nat → Nat → Moment → Except HttpError Response × Moment
  | left, n, t =>
    if counterMax < n then (.error .counterOverflow, t)
    else if t.reached cancelAt then (.error (.cancelled n), t)
    else
      let a := attempt n
      let t1 := attemptEnd t a
      if t1.overtaken cancelAt then (.error (.cancelled n), ⟨cancelAt.getD 0, false⟩)
      else
        match a.outcome with
        | .ok resp => (.ok resp, t1)
        | .error e =>
          let f := classify e
          match left with
          | 0 => (.error (.request n f e), t1)
          | left + 1 =>
            if !f.shouldRetry (t1.reached cancelAt) then (.error (.request n f e), t1)
            else
              let t2 := t1.wait (retry.delay n).nanos
              if t2.reached cancelAt then
                (.error (.cancelled n), ⟨Nat.max t1.nanos (cancelAt.getD 0), false⟩)
              else attemptFrom retry cancelAt attempt left (n + 1) t2

/-- Runs attempts until one succeeds or the loop gives up. Mirrors `execute_with`. -/
def executeWith (retry : RetryConfig) (cancelAt : Option Nat) (attempt : Nat → Answer)
    (start : Moment) : Except HttpError Response × Moment :=
  attemptFrom retry cancelAt attempt retry.maxRetries 1 start

/-- Sends a drafted request: a draft that could not be built fails after one attempt, a stream is
sent once, any other request goes through the retry loop. Mirrors the client's `send`. -/
def send (client : Client) (net : Network) (draft : Draft) (cancelAt : Option Nat)
    (start : Moment) : Except HttpError Response × Moment :=
  match draft with
  | .error e => (.error (.ofAttempt 1 e), start)
  | .ok r =>
    if r.body.isStream then attemptFrom client.retry cancelAt (fun _ => execute net r) 0 1 start
    else executeWith client.retry cancelAt (fun _ => execute net r) start

theorem proxyUrl_plain (s : String) (u : Url) (h : Url.parse s = .ok u) (hh : u.hasHost = true) :
    proxyUrl s = some u := by
  simp [proxyUrl, h, hh]

theorem attemptFrom_cancelled (retry : RetryConfig) (c : Nat) (attempt : Nat → Answer)
    (left n : Nat) (t : Moment) (hn : n ≤ counterMax) (h : c ≤ t.nanos) :
    attemptFrom retry (some c) attempt left n t = (.error (.cancelled n), t) := by
  rw [attemptFrom, if_neg (Nat.not_lt.2 hn)]
  simp [Moment.reached, h]

end FunctionHost.Transport
