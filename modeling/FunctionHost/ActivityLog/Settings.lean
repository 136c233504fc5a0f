import FunctionHost.Time.Duration
/-!
# Activity log settings

How often an activity log is shipped, how long one shipment may take with its retries, and
whether a client the log builds for itself checks server certificates.
-/
namespace FunctionHost.ActivityLog

/-- Settings of an activity log writer. -/
structure Settings where
  flushInterval : Duration
  uploadTimeout : Duration
  skipTlsVerify : Bool
  deriving DecidableEq, Repr

/-- Flush every second, allow ten seconds per shipment, check certificates. -/
def Settings.default : Settings :=
  { flushInterval := Duration.ofSecs 1, uploadTimeout := Duration.ofSecs 10, skipTlsVerify := false }

end FunctionHost.ActivityLog
