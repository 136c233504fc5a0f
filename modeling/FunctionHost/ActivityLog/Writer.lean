import FunctionHost.ActivityLog.Settings
import FunctionHost.Transport.Client
/-!
# The activity log writer

An activity log collects the bytes an invocation writes and ships them to a collector. Bytes
are appended to a buffer, by the writer itself or through sinks that share the buffer; a write
always takes all its bytes. A flush takes the whole buffer: an empty one ships nothing, any
other is posted as the `content` part (file name `stdout`) of a multipart form to the upload
URL, which is the log's URL with the pair `append=true` added to its query. The workflow token,
when there is a non-empty one, goes in the `X-Workflow-Token` header. The collector must answer
`200`; one shipment, retries included, may take at most the upload timeout.

Besides explicit flushes the log flushes itself on a ticker, every flush interval (never more
often than every 10 ms), from one interval after it was made. A flush on the ticker that fails
is dropped. Flushes take turns: one that starts while another is still shipping waits for it.
Closing stops the ticker, waits for a flush it is in, and flushes once more. Dropping the writer
stops the ticker; what is written afterwards through a sink stays in the buffer and is never
shipped.

Time is a clock in nanoseconds. Writing takes no time; a shipment takes as long as its retries
wait. A writer keeps the shipments it has made, in the order they started: what the collector
was sent, and when.

Results:
* `write_count`: a write reports the number of its bytes.
* `flush_empty`: flushing an empty buffer ships nothing and succeeds at once.
-/
namespace FunctionHost.ActivityLog

open Transport

/-- Why an activity log could not be made or shipped. -/
inductive LogError where
  /-- The log's URL could not be read. -/
  | invalidUrl (url reason : String)
  /-- The shipment failed without an answer. -/
  | upload (e : HttpError)
  /-- The collector answered with a status other than `200`. -/
  | rejected (status : Nat) (body : String)
  /-- The shipment took longer than allowed. -/
  | timedOut (limit : Duration)

def LogError.message : LogError → String
  | .invalidUrl url reason => "invalid activity log url " ++ url ++ ": " ++ reason
  | .upload e => "activity log upload failed: " ++ e.message
  | .rejected status body =>
    "activity log upload rejected with status " ++ statusText status ++ ": " ++ body
  | .timedOut d => "activity log upload timed out after " ++ d.text

/-- The shortest time between two flushes on the ticker, in nanoseconds. -/
def minFlushInterval : Nat := 10000000

/-- How late a tick may come and still keep the ticker's rhythm, in nanoseconds. -/
def tickSlack : Nat := 5000000

/-- A shipment: the bytes a flush took, and when shipping them started and ended. -/
structure Shipment where
  data : List UInt8
  start : Nat
  finish : Nat
  deriving DecidableEq, Repr

/-- An activity log writer. -/
structure Writer where
  uploadUrl : Url
  token : Option String
  client : Client
  net : Network
  uploadTimeout : Duration
  /-- The time between two flushes on the ticker. -/
  period : Nat
  /-- Bytes written and not yet taken by a flush. -/
  buffer : List UInt8
  /-- The clock. -/
  now : Nat
  /-- When the ticker flushes next; none once it has stopped. -/
  nextTick : Option Nat
  /-- When the flush that is shipping ends. -/
  busyUntil : Nat
  /-- The shipments made so far, in the order they started. -/
  shipped : List Shipment

namespace Writer

/-- A writer for the log at the URL `u`, made at time `now`: nothing written, nothing shipped. -/
def fresh (u : Url) (token : Option String) (settings : Settings) (client : Client)
    (net : Network) (now : Nat) : Writer :=
  let period := Nat.max settings.flushInterval.nanos minFlushInterval
  { uploadUrl := u.appendPairs [("append", "true")]
    token := token.filter (fun t => !t.isEmpty)
    client, net, uploadTimeout := settings.uploadTimeout, period
    buffer := [], now, nextTick := some (now + period), busyUntil := now, shipped := [] }

/-- Makes a writer at time `now`; the URL must parse. -/
def make (url : String) (token : Option String) (settings : Settings) (client : Client)
    (net : Network) (now : Nat) : Except LogError Writer :=
  match Url.parse url with
  | .error e => .error (.invalidUrl url e.message)
  | .ok u => .ok (fresh u token settings client net now)

def formBody (data : List UInt8) : List UInt8 :=
  "--log-boundary\r\nContent-Disposition: form-data; name=\"content\"; filename=\"stdout\"\r\n\r\n".toUTF8.toList ++
    data ++ "\r\n--log-boundary--\r\n".toUTF8.toList

def uploadDraft (w : Writer) (data : List UInt8) : Draft :=
  let d := ((Draft.ofUrl .post w.uploadUrl).headerText "content-type"
    "multipart/form-data; boundary=log-boundary").withBody (.stream (formBody data))
  match w.token with
  | some t => d.headerText "X-Workflow-Token" t
  | none => d

/-- Ships some bytes starting at `start`: the outcome and when it ends. Mirrors `upload`. -/
def ship (w : Writer) (data : List UInt8) (start : Nat) : Except LogError Unit × Nat :=
  let (r, finish) := executeWith w.client.retry none
    (fun _ => executeDraft w.net (w.uploadDraft data)) ⟨start, false⟩
  let deadline := start + w.uploadTimeout.nanos
  if finish.passes deadline then (.error (.timedOut w.uploadTimeout), deadline)
  else match r with
    | .error e => (.error (.upload e), finish.nanos)
    | .ok resp =>
      if resp.status = 200 then (.ok (), finish.nanos)
      else (.error (.rejected resp.status resp.text), finish.nanos)

/-- A flush that may start at `t`: it waits for the one shipping, takes the buffer and ships it.
Gives the outcome and the writer when the flush has ended. Mirrors the writer's `flush`. -/
def flushAt (w : Writer) (t : Nat) : Except LogError Unit × Writer :=
  let start := Nat.max t w.busyUntil
  if w.buffer.isEmpty then (.ok (), { w with busyUntil := start })
  else
    let (r, finish) := w.ship w.buffer start
    (r, { w with buffer := [], busyUntil := finish,
                 shipped := w.shipped ++ [⟨w.buffer, start, finish⟩] })

/-- Runs the ticker's flushes due by `target`, at most `fuel` of them. Mirrors `flush_loop`. -/
def tickUntil (target : Nat) : Nat → Writer → Writer
  | 0, w => w
  | fuel + 1, w =>
    match w.nextTick with
    | some due =>
      if due ≤ target then
        let fired := Nat.max due w.busyUntil
        let (_, w1) := w.flushAt fired
        let next := if fired > due + tickSlack then fired + w.period else due + w.period
        tickUntil target fuel { w1 with nextTick := some next }
      else w
    | none => w

/-- Lets the clock run to `target`, flushing on the ticker on the way. -/
def advance (w : Writer) (target : Nat) : Writer :=
  let w := tickUntil target (target / w.period + 1) w
  { w with now := Nat.max w.now target }

/-- Appends bytes; all of them are taken. Mirrors `append`. -/
def write (w : Writer) (bytes : List UInt8) : Nat × Writer :=
  (bytes.length, { w with buffer := w.buffer ++ bytes })

/-- Flushes now, after the ticker's flushes that are due; the clock runs to the flush's end. -/
def flush (w : Writer) : Except LogError Unit × Writer :=
  let w := w.advance w.now
  let (r, w1) := w.flushAt w.now
  (r, { w1 with now := Nat.max w1.now w1.busyUntil })

/-- Closes: stops the ticker, waits for a flush it is in, and flushes once more. Mirrors the
writer's `close`. -/
def close (w : Writer) : Except LogError Unit × Writer :=
  let w := w.advance w.now
  let (r, w1) := { w with nextTick := none }.flushAt w.now
  (r, { w1 with now := Nat.max w1.now w1.busyUntil })

/-- Drops the writer: the ticker stops and nothing more is shipped. -/
def drop (w : Writer) : Writer := { w.advance w.now with nextTick := none }

def sleep (w : Writer) (d : Nat) : Writer := w.advance (w.now + d)

end Writer

theorem write_count (w : Writer) (bytes : List UInt8) : (w.write bytes).1 = bytes.length := rfl

theorem flush_empty (w : Writer) (t : Nat) (h : w.buffer = []) : (w.flushAt t).1 = .ok () := by
  simp [Writer.flushAt, h]

end FunctionHost.ActivityLog
