import FunctionHost.Host.Launch
/-!
# The host's command line

The command line starts the host over the process environment and the environment file `.env`
of the working directory, prints what it reports on standard error, and ends with its exit
code. A host that started keeps running until its standard input closes, which stands for the
shutdown signal.

The environment is read for the names a start can look at: the settings, the log filter, and
every word of the environment file, which holds the keys it sets and the names it substitutes.
-/
namespace FunctionHost.Host

def settingNames : List String :=
  ["RUNFN_PORT", "RUNFN_READ_TIMEOUT", "RUNFN_WRITE_TIMEOUT", "RUNFN_SHUTDOWN_TIMEOUT",
   "RUNFN_MAX_BODY_BYTES", "RUNFN_LOG_LEVEL", "RUNFN_LOG_FLUSH_INTERVAL",
   "RUNFN_LOG_UPLOAD_TIMEOUT", "RUNFN_HTTP_RETRY_COUNT", "RUNFN_SKIP_TLS_VERIFY", "RUST_LOG"]

/-- Whether a character may be part of a key or a substituted name. -/
def isVariableChar (c : Char) : Bool := Dotenv.isKeyChar c || Dotenv.isNameChar c

def words (text : String) : List String :=
  ((text.toList.splitBy fun a b => isVariableChar a == isVariableChar b).filter fun run =>
    run.any isVariableChar).map String.ofList

def variableNames (dotenv : Option String) : List String :=
  settingNames ++ (dotenv.map words).getD []

/-- Waits until a stream ends. -/
partial def waitForEnd (stream : IO.FS.Stream) : IO Unit := do
  let line ← stream.getLine
  if line.isEmpty then pure () else waitForEnd stream

end FunctionHost.Host

open FunctionHost.Host in
def main : IO UInt32 := do
  let dotenv ← try (some <$> IO.FS.readFile ".env") catch _ => pure none
  let values ← (variableNames dotenv).mapM fun n => do pure (n, ← IO.getEnv n)
  let env (name : String) : Option String := (values.find? (·.1 == name)).bind (·.2)
  let report := launch env dotenv true
  let stderr ← IO.getStderr
  for line in report.lines do
    stderr.putStrLn line
  stderr.flush
  match report.exit with
  | .code n => pure n.toUInt32
  | .serving =>
    waitForEnd (← IO.getStdin)
    pure 0
