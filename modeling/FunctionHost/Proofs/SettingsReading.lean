import FunctionHost.Server.Settings
/-!
# Reading the server settings from the environment

Eight variables can stop the reading, each read by its own rule and checked in a fixed order:
the port, the read, write and shutdown timeouts, the body limit, the flush interval, the upload
timeout and the retry count (`checkedVars`). A count is read after trimming as an unsigned
number of a fixed width, a duration as whole seconds or a phrase. The first variable that is
set and refused decides the outcome (`firstFault`); a duration phrase that adds up past the
largest duration stops the program there. When none is refused, a zero flush interval is
refused last, and otherwise every field is its variable's value or its default, the shutdown
timeout defaulting to the write timeout that was read (`fromVars`).

The body limit is read as a 64-bit count, so `0` is accepted although its refusal says the
limit must be positive.

Results:
* `numberVar_eq`, `durationVar_eq`: one variable, as its fault or its value.
* `unlessFault_findSome`: failing on the first fault of a list is failing on each in turn.
* `fromEnv_eq`: the whole reading, as the first fault, then the zero-flush check, then the
  settings the variables give.
* `parseSetting_eq`, `skipTlsVerify_iff`: the duration rule and the flag's two spellings.
* `settings_from_env`: all of it.
-/
namespace FunctionHost.Server

open Time

/-- How a checked variable is read. -/
inductive VarRule where
  /-- An unsigned number of `bits` bits after trimming, refused with `reason`. -/
  | count (bits : Nat) (reason : String)
  /-- Whole seconds or a duration phrase. -/
  | duration

/-- What stops the reading at a count of the variable `name`: a value that does not read. -/
def countFault (name reason : String) : Option Nat → Option SettingsError
  | some _ => none
  | none => some (.config ⟨name, reason⟩)

/-- What stops the reading at a duration of the variable `name`: a refusal naming the variable,
or for a phrase past the largest duration the stop. -/
def durationFault (name : String) : Except DurationError Duration → Option SettingsError
  | .ok _ => none
  | .error .invalid => some (.config ⟨name, "must be seconds or a duration like 1500ms"⟩)
  | .error .overflow => some (.durationOverflow name)

/-- What stops the reading at a value of the variable `name` under a rule, if anything. -/
def VarRule.fault (name : String) : VarRule → String → Option SettingsError
  | .count bits reason, v => countFault name reason (Text.readUnsigned? bits (Text.trim v))
  | .duration, v => durationFault name (parseSetting v)

/-- The variables that can stop the reading, in the order they are read. -/
def checkedVars : List (String × VarRule) :=
  [("RUNFN_PORT", .count 16 "must be a valid port number"),
    ("RUNFN_READ_TIMEOUT", .duration), ("RUNFN_WRITE_TIMEOUT", .duration),
    ("RUNFN_SHUTDOWN_TIMEOUT", .duration),
    ("RUNFN_MAX_BODY_BYTES", .count 64 "must be a positive integer"),
    ("RUNFN_LOG_FLUSH_INTERVAL", .duration), ("RUNFN_LOG_UPLOAD_TIMEOUT", .duration),
    ("RUNFN_HTTP_RETRY_COUNT", .count 32 "must be a non-negative integer")]

/-- The fault of a variable under its rule; none when it is unset. -/
def varFault (env : String → Option String) (name : String) (rule : VarRule) :
    Option SettingsError :=
  (env name).bind (rule.fault name)

/-- The first variable, in reading order, that is set and refused. -/
def firstFault (env : String → Option String) : Option SettingsError :=
  checkedVars.findSome? fun v => varFault env v.1 v.2

/-- A count variable's value, or the fallback when it is unset. -/
def countOr (env : String → Option String) (name : String) (bits fallback : Nat) : Nat :=
  match env name with
  | some v => (Text.readUnsigned? bits (Text.trim v)).getD fallback
  | none => fallback

/-- A duration variable's value, or the fallback when it is unset. -/
def durationOr (env : String → Option String) (name : String) (fallback : Duration) : Duration :=
  match env name with
  | some v =>
    match parseSetting v with
    | .ok d => d
    | .error _ => fallback
  | none => fallback

/-- The settings the variables give when none is refused: each field its variable's value or
its default, the shutdown timeout defaulting to the write timeout read before it, the level
taken as it is. -/
def fromVars (env : String → Option String) : Settings :=
  let d := Settings.default
  let write := durationOr env "RUNFN_WRITE_TIMEOUT" d.writeTimeout
  { port := countOr env "RUNFN_PORT" 16 d.port
    readTimeout := durationOr env "RUNFN_READ_TIMEOUT" d.readTimeout
    writeTimeout := write
    shutdownTimeout := durationOr env "RUNFN_SHUTDOWN_TIMEOUT" write
    maxBodyBytes := countOr env "RUNFN_MAX_BODY_BYTES" 64 d.maxBodyBytes
    logLevel := (env "RUNFN_LOG_LEVEL").getD d.logLevel
    logFlushInterval := durationOr env "RUNFN_LOG_FLUSH_INTERVAL" d.logFlushInterval
    logUploadTimeout := durationOr env "RUNFN_LOG_UPLOAD_TIMEOUT" d.logUploadTimeout
    httpRetryCount := countOr env "RUNFN_HTTP_RETRY_COUNT" 32 d.httpRetryCount
    skipTlsVerify := (env "RUNFN_SKIP_TLS_VERIFY").any fun v => v == "true" || v == "1" }

/-- Fails with the fault if there is one, and goes on otherwise. -/
def unlessFault {α : Type} (f : Option SettingsError) (next : Except SettingsError α) :
    Except SettingsError α :=
  match f with
  | some e => .error e
  | none => next

section Steps

variable {α β : Type}

theorem unlessFault_bind (f : Option SettingsError) (next : Except SettingsError α)
    (k : α → Except SettingsError β) : unlessFault f next >>= k = unlessFault f (next >>= k) := by
  cases f <;> rfl

theorem unlessFault_findSome {γ : Type} (g : γ → Option SettingsError) (a : γ) (l : List γ)
    (next : Except SettingsError α) :
    unlessFault ((a :: l).findSome? g) next = unlessFault (g a) (unlessFault (l.findSome? g) next) := by
  rw [List.findSome?_cons]
  cases g a <;> rfl

theorem unlessFault_nil {γ : Type} (g : γ → Option SettingsError) (next : Except SettingsError α) :
    unlessFault (([] : List γ).findSome? g) next = next := rfl

end Steps

/-- A count variable is its fault if it has one, and its value otherwise. -/
theorem numberVar_eq (env : String → Option String) (name : String) (bits fallback : Nat)
    (reason : String) :
    numberVar env name bits fallback reason =
      unlessFault (varFault env name (.count bits reason)) (pure (countOr env name bits fallback)) := by
  unfold numberVar varFault countOr
  cases env name with
  | none => rfl
  | some v =>
    simp only [Option.bind_some, VarRule.fault]
    cases Text.readUnsigned? bits (Text.trim v) with
    | none => rfl
    | some n => rfl

/-- A duration variable is its fault if it has one, and its value otherwise. -/
theorem durationVar_eq (env : String → Option String) (name : String) (fallback : Duration) :
    durationVar env name fallback =
      unlessFault (varFault env name .duration) (pure (durationOr env name fallback)) := by
  unfold durationVar varFault durationOr
  cases env name with
  | none => rfl
  | some v =>
    simp only [Option.bind_some, VarRule.fault]
    cases parseSetting v with
    | ok d => rfl
    | error e => cases e <;> rfl

/-- The reading is the first fault, in reading order, if there is one; then the zero-flush
check; then the settings the variables give. -/
theorem fromEnv_eq (env : String → Option String) :
    fromEnv env =
      unlessFault (firstFault env)
        (if (fromVars env).logFlushInterval.isZero then
          .error (.config ⟨"RUNFN_LOG_FLUSH_INTERVAL", "must be greater than zero"⟩)
        else .ok (fromVars env)) := by
  -- each variable becomes "its fault, or go on with its value"; the faults then line up with
  -- the list that `firstFault` searches
  simp only [fromEnv, readVars, numberVar_eq, durationVar_eq, unlessFault_bind, pure_bind,
    firstFault, checkedVars, unlessFault_findSome, unlessFault_nil]
  rfl

/-- A duration setting is whole seconds when its trimmed text reads as a 64-bit count, and a
phrase otherwise. -/
theorem parseSetting_eq (s : String) :
    parseSetting s =
      ((Text.readUnsigned? 64 (Text.trim s)).map fun n => .ok (Duration.ofSecs n)).getD
        (parsePhrase (Text.trim s)) := by
  unfold parseSetting
  dsimp only
  cases Text.readUnsigned? 64 (Text.trim s) with
  | none => simp only [Option.map_none, Option.getD_none]
  | some n => simp only [Option.map_some, Option.getD_some]

theorem skipTlsVerify_iff (env : String → Option String) :
    (fromVars env).skipTlsVerify = true ↔
      env "RUNFN_SKIP_TLS_VERIFY" = some "true" ∨ env "RUNFN_SKIP_TLS_VERIFY" = some "1" := by
  simp only [fromVars]
  cases env "RUNFN_SKIP_TLS_VERIFY" <;> simp

/-- Reading the settings: the first variable, in the order port, read, write and shutdown
timeouts, body limit, flush interval, upload timeout, retry count, whose value its rule refuses
decides the outcome; then a zero flush interval is refused; otherwise each field is its
variable's value or its default, the shutdown timeout defaulting to the write timeout, the flag
set exactly by `true` and `1`. A duration is whole seconds when its trimmed text is a 64-bit
count, and a phrase otherwise. -/
theorem settings_from_env (env : String → Option String) :
    fromEnv env =
      unlessFault (firstFault env)
        (if (fromVars env).logFlushInterval.isZero then
          .error (.config ⟨"RUNFN_LOG_FLUSH_INTERVAL", "must be greater than zero"⟩)
        else .ok (fromVars env)) ∧
    ((fromVars env).skipTlsVerify = true ↔
      env "RUNFN_SKIP_TLS_VERIFY" = some "true" ∨ env "RUNFN_SKIP_TLS_VERIFY" = some "1") ∧
    ∀ s, parseSetting s =
      ((Text.readUnsigned? 64 (Text.trim s)).map fun n => .ok (Duration.ofSecs n)).getD
        (parsePhrase (Text.trim s)) :=
  ⟨fromEnv_eq env, skipTlsVerify_iff env, parseSetting_eq⟩

example : fromEnv (fun n => if n = "RUNFN_MAX_BODY_BYTES" then some "0" else none) =
    .ok { Settings.default with maxBodyBytes := 0 } := by
  rfl

end FunctionHost.Server
