import FunctionHost.Host.Dotenv
import FunctionHost.Server.Lifecycle
import FunctionHost.Logging.Record
/-!
# Starting the host

What the host prints on its error stream while it starts, and whether it keeps serving. The
stream is kept as its lines, so a message with line feeds in it spans several.

1. It loads the environment file, if there is one, over its environment.
2. It reads its settings from the environment. A bad setting ends the run with exit code 1 and
   the single line `Error: <message>`, before logging is set up; a duration that adds up past
   the largest one stops it with the runtime's report and exit code 101.
3. It sets up logging: the filter comes from `RUST_LOG` when that is set and reads strictly,
   else from the configured level read leniently (each directive it ignores is reported on a
   line of its own). Lines name their targets. A reading that cuts a directive inside a
   character stops the host with the runtime's report and exit code 101, after the lines of the
   directives ignored before it.
4. It logs a warning when the environment file could not be loaded, then the start line with the
   port and the three timeouts, then a warning when outbound certificates are not checked.
5. It binds `0.0.0.0:<port>`. When the port is taken the run ends with exit code 1 and the
   report of the failure with its cause; otherwise it logs that it listens, inside the
   `function_server` span, and goes on serving.
-/
namespace FunctionHost.Host

open Logging

/-- How a run ended: still serving, or with an exit code. -/
inductive Exit where
  | serving
  | code (n : Nat)
  deriving DecidableEq, Repr

/-- What a run printed on its error stream, and how it ended. -/
structure Transcript where
  lines : List String
  exit : Exit
  deriving DecidableEq, Repr

/-- The lines of what was written: a written text with line feeds in it spans several lines. -/
def textLines (written : List String) : List String :=
  written.flatMap fun t => (t.toList.splitOn '\n').map String.ofList

def hostTarget : String := "runfn_example"

def serverSpan : Span := ⟨"function_server", "runfn_sdk::server", .info, []⟩

/-- What the runtime prints when a duration setting adds up past the largest duration, which
stops the host. -/
def overflowReport : List String :=
  ["thread \x27main\x27 panicked at library/core/src/time.rs:", "overflow in Duration::new",
    "note: run with \x60RUST_BACKTRACE=1\x60 environment variable to display a backtrace"]

/-- What the runtime prints when reading the log filter cuts a directive inside a character,
which stops the host. -/
def splitReport (p : SplitChar) : List String :=
  ["thread \x27main\x27 panicked at src/filter/env/directive.rs:", p.message,
    "note: run with \x60RUST_BACKTRACE=1\x60 environment variable to display a backtrace"]

def bindFailure : List String :=
  ["Error: " ++ (Server.SdkError.io Server.addressInUse).message, "", "Caused by:",
    "    " ++ Server.addressInUse]

/-- Starts the host over an environment and an environment file, if any; `portFree` says
whether the listening port can be bound. -/
def launch (env : String → Option String) (dotenv : Option String) (portFree : Bool) :
    Transcript :=
  let (added, loadError) := loadDotenv env dotenv
  let merged (name : String) : Option String :=
    match added.find? (·.1 = name) with
    | some (_, v) => some v
    | none => env name
  match Server.fromEnv merged with
  | .error (.config e) => ⟨["Error: " ++ e.message], .code 1⟩
  | .error (.durationOverflow _) => ⟨overflowReport, .code 101⟩
  | .ok s =>
    let reading := choose (merged "RUST_LOG") s.logLevel
    match reading.stopped with
    | some p => ⟨textLines (reading.notes ++ splitReport p), .code 101⟩
    | none =>
    let filter := reading.kept
    let notes := reading.notes
    let emitted (spans : List Span) (r : Record) : List String :=
      (emit filter spans true r).toList
    let early := notes ++
      (match loadError with
        | some e => emitted [] ⟨.warn, hostTarget, "No .env file loaded: " ++ e.message, []⟩
        | none => []) ++
      emitted [] ⟨.info, hostTarget, "Starting runfn example",
        [("port", toString s.port), ("read_timeout", s.readTimeout.text),
         ("write_timeout", s.writeTimeout.text), ("shutdown_timeout", s.shutdownTimeout.text)]⟩ ++
      (if s.skipTlsVerify then
        emitted [] ⟨.warn, "runfn_http::client",
          "TLS certificate verification is disabled for outbound requests", []⟩
      else [])
    if portFree then
      ⟨textLines (early ++ emitted [serverSpan] ⟨.info, "runfn_sdk::server",
        "function server listening", [("addr", s.listenAddr)]⟩), .serving⟩
    else ⟨textLines (early ++ bindFailure), .code 1⟩

-- a bad setting is reported alone
example :
    launch (fun n => if n = "RUNFN_PORT" then some "x" else none) none true =
      ⟨["Error: invalid value for RUNFN_PORT: must be a valid port number"], .code 1⟩ := by
  decide

end FunctionHost.Host
