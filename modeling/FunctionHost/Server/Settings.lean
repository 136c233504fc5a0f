import FunctionHost.Time.Phrase
import FunctionHost.Transport.Settings
import FunctionHost.ActivityLog.Settings
/-!
# Server settings

The settings of the invocation server, with their defaults, and how they are read from the
environment. Every variable is optional; they are read in a fixed order and the first bad one
is reported:

1. `RUNFN_PORT`, a 16-bit port;
2. `RUNFN_READ_TIMEOUT`, `RUNFN_WRITE_TIMEOUT`, then `RUNFN_SHUTDOWN_TIMEOUT` (which defaults to
   the write timeout), durations;
3. `RUNFN_MAX_BODY_BYTES`, a 64-bit count; `RUNFN_LOG_LEVEL`, taken as it is;
4. `RUNFN_LOG_FLUSH_INTERVAL` and `RUNFN_LOG_UPLOAD_TIMEOUT`, durations;
5. `RUNFN_HTTP_RETRY_COUNT`, a 32-bit count; `RUNFN_SKIP_TLS_VERIFY`, true exactly when it is
   `true` or `1`;

and last, a zero flush interval is refused. Numbers may have blanks around them and a leading
`+`; durations are whole seconds or phrases. A duration phrase that adds up past the largest
duration stops the reading altogether.

Results:
* `fromEnv_zero_flush`: a zero flush interval is always refused.
-/
namespace FunctionHost.Server

/-- Settings of the invocation server. -/
structure Settings where
  port : Nat
  readTimeout : Duration
  writeTimeout : Duration
  shutdownTimeout : Duration
  maxBodyBytes : Nat
  logLevel : String
  logFlushInterval : Duration
  logUploadTimeout : Duration
  httpRetryCount : Nat
  skipTlsVerify : Bool
  deriving DecidableEq, Repr

namespace Settings

/-- Port 8082, ten-second timeouts, bodies up to 16 MiB, level `info`, a flush every second,
ten seconds per log shipment, three retries, certificates checked. -/
def default : Settings :=
  { port := 8082, readTimeout := Duration.ofSecs 10, writeTimeout := Duration.ofSecs 10,
    shutdownTimeout := Duration.ofSecs 10, maxBodyBytes := 16 * 1024 * 1024, logLevel := "info",
    logFlushInterval := Duration.ofSecs 1, logUploadTimeout := Duration.ofSecs 10,
    httpRetryCount := 3, skipTlsVerify := false }

def listenAddr (s : Settings) : String := "0.0.0.0:" ++ toString s.port

def clientConfig (s : Settings) : Transport.ClientConfig :=
  { Transport.ClientConfig.withRetries s.httpRetryCount with tlsSkipVerify := s.skipTlsVerify }

/-- Settings of each invocation's activity log. -/
def logSettings (s : Settings) : ActivityLog.Settings :=
  { flushInterval := s.logFlushInterval, uploadTimeout := s.logUploadTimeout,
    skipTlsVerify := s.skipTlsVerify }

end Settings

/-- A bad environment variable and what is wrong with it. -/
structure ConfigError where
  name : String
  reason : String
  deriving DecidableEq, Repr

def ConfigError.message (e : ConfigError) : String :=
  "invalid value for " ++ e.name ++ ": " ++ e.reason

/-- Why reading the settings stops: a bad variable, or a duration variable whose terms add up
past the largest duration, which stops the program. -/
inductive SettingsError where
  | config (e : ConfigError)
  | durationOverflow (name : String)
  deriving DecidableEq, Repr

/-- A variable holding a duration. Mirrors `duration_var`. -/
def durationVar (env : String → Option String) (name : String) (fallback : Duration) :
    Except SettingsError Duration :=
  match env name with
  | some v =>
    match Time.parseSetting v with
    | .ok d => .ok d
    | .error .invalid => .error (.config ⟨name, "must be seconds or a duration like 1500ms"⟩)
    | .error .overflow => .error (.durationOverflow name)
  | none => .ok fallback

/-- A variable holding an unsigned number of `bits` bits. Mirrors `parse_var`. -/
def numberVar (env : String → Option String) (name : String) (bits : Nat) (fallback : Nat)
    (reason : String) : Except SettingsError Nat :=
  match env name with
  | some v =>
    match Text.readUnsigned? bits (Text.trim v) with
    | some n => .ok n
    | none => .error (.config ⟨name, reason⟩)
  | none => .ok fallback

/-- Reads every variable, in order, without the final check. -/
def readVars (env : String → Option String) : Except SettingsError Settings := do
  let d := Settings.default
  let port ← numberVar env "RUNFN_PORT" 16 d.port "must be a valid port number"
  let readTimeout ← durationVar env "RUNFN_READ_TIMEOUT" d.readTimeout
  let writeTimeout ← durationVar env "RUNFN_WRITE_TIMEOUT" d.writeTimeout
  let shutdownTimeout ← durationVar env "RUNFN_SHUTDOWN_TIMEOUT" writeTimeout
  let maxBodyBytes ← numberVar env "RUNFN_MAX_BODY_BYTES" 64 d.maxBodyBytes
    "must be a positive integer"
  let logLevel := (env "RUNFN_LOG_LEVEL").getD d.logLevel
  let logFlushInterval ← durationVar env "RUNFN_LOG_FLUSH_INTERVAL" d.logFlushInterval
  let logUploadTimeout ← durationVar env "RUNFN_LOG_UPLOAD_TIMEOUT" d.logUploadTimeout
  let httpRetryCount ← numberVar env "RUNFN_HTTP_RETRY_COUNT" 32 d.httpRetryCount
    "must be a non-negative integer"
  let skipTlsVerify := (env "RUNFN_SKIP_TLS_VERIFY").any fun v => v == "true" || v == "1"
  return {
    port := port, readTimeout := readTimeout, writeTimeout := writeTimeout,
    shutdownTimeout := shutdownTimeout, maxBodyBytes := maxBodyBytes, logLevel := logLevel,
    logFlushInterval := logFlushInterval, logUploadTimeout := logUploadTimeout,
    httpRetryCount := httpRetryCount, skipTlsVerify := skipTlsVerify }

/-- Reads the settings from the environment, `env` giving each variable's value if set. Mirrors
`from_env`. -/
def fromEnv (env : String → Option String) : Except SettingsError Settings := do
  let s ← readVars env
  if s.logFlushInterval.isZero then
    throw (.config ⟨"RUNFN_LOG_FLUSH_INTERVAL", "must be greater than zero"⟩)
  return s

-- with no variables set, the settings are the defaults
example : fromEnv (fun _ => none) = .ok Settings.default := by
  rfl

theorem fromEnv_zero_flush (env : String → Option String) (s : Settings)
    (h : fromEnv env = .ok s) : s.logFlushInterval.isZero = false := by
  simp only [fromEnv, bind, Except.bind] at h
  split at h
  · cases h
  · split at h
    · cases h
    · cases h
      simp_all

end FunctionHost.Server
