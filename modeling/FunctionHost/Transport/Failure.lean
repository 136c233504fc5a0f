/-!
# Transport failures and whether to retry them

A failed request attempt falls in one of seven classes. Four are permanent: they come from the
request or the configuration and would fail the same way on every attempt, so they are never
retried. The others are retried unless the caller has cancelled.

A failure's message alone can reveal two permanent classes: a refused URL scheme and an untrusted
certificate. The phrases are matched anywhere in the message, ignoring case.

Results:
* `shouldRetry_iff`: an attempt is retried exactly when the caller has not cancelled and the
  failure is not permanent.
* `classifyMessage_permanent`: what a message reveals is always permanent.
-/
namespace FunctionHost.Transport

/-- Why a request attempt failed. -/
inductive Failure where
  /-- The redirect limit was exceeded. -/
  | tooManyRedirects
  /-- The URL scheme is not `http` or `https`. -/
  | unsupportedScheme
  /-- The server's certificate was not trusted. -/
  | untrustedCertificate
  /-- The request could not be built. -/
  | invalidRequest
  /-- Connecting or the whole request took too long. -/
  | timeout
  /-- No connection could be made. -/
  | connect
  /-- Anything else. -/
  | other
  deriving DecidableEq, Repr, Inhabited

namespace Failure

def name : Failure → String
  | tooManyRedirects => "TooManyRedirects"
  | unsupportedScheme => "UnsupportedScheme"
  | untrustedCertificate => "UntrustedCertificate"
  | invalidRequest => "InvalidRequest"
  | timeout => "Timeout"
  | connect => "Connect"
  | other => "Other"

def ofName? : String → Option Failure
  | "TooManyRedirects" => some tooManyRedirects
  | "UnsupportedScheme" => some unsupportedScheme
  | "UntrustedCertificate" => some untrustedCertificate
  | "InvalidRequest" => some invalidRequest
  | "Timeout" => some timeout
  | "Connect" => some connect
  | "Other" => some other
  | _ => none

/-- Failures that would repeat identically on every attempt. Mirrors `is_permanent`. -/
def isPermanent : Failure → Bool
  | tooManyRedirects | unsupportedScheme | untrustedCertificate | invalidRequest => true
  | timeout | connect | other => false

/-- Whether a failed attempt is tried again: never after cancellation, never when permanent. Mirrors
the default policy's `should_retry`. -/
def shouldRetry (cancelled : Bool) (f : Failure) : Bool :=
  !cancelled && !f.isPermanent

end Failure

/-- A character with case ignored: ASCII letters in lower case, and the Kelvin sign and the
long s, which fold to `k` and `s`. -/
def foldCase (c : Char) : Char :=
  if c.toNat = 0x212A then 'k'
  else if c.toNat = 0x17F then 's'
  else c.toLower

def occursIn (needle : List Char) : List Char → Bool
  | [] => needle.isEmpty
  | c :: rest => needle.isPrefixOf (c :: rest) || occursIn needle rest

/-- Whether one of the phrases, in lower case, occurs in a message, ignoring case. -/
def mentions (message : String) (phrases : List String) : Bool :=
  let folded := message.toList.map foldCase
  phrases.any fun p => occursIn p.toList folded

/-- Phrases of a refused URL scheme. -/
def schemePhrases : List String :=
  ["url scheme is not allowed", "unsupported protocol scheme"]

/-- Phrases of an untrusted certificate. -/
def certificatePhrases : List String :=
  ["invalid peer certificate", "unknownissuer", "unknown issuer", "certificate verify failed",
    "self-signed certificate", "self signed certificate", "certificate is not trusted",
    "certificate signed by unknown authority"]

/-- The permanent failure a message reveals, if any; a refused scheme is checked first. -/
def classifyMessage (message : String) : Option Failure :=
  if mentions message schemePhrases then some .unsupportedScheme
  else if mentions message certificatePhrases then some .untrustedCertificate
  else none

theorem shouldRetry_iff (cancelled : Bool) (f : Failure) :
    f.shouldRetry cancelled = true ↔ cancelled = false ∧ f.isPermanent = false := by
  cases cancelled <;> cases f <;> simp [Failure.shouldRetry, Failure.isPermanent]

theorem classifyMessage_permanent (m : String) (f : Failure) (h : classifyMessage m = some f) :
    f.isPermanent = true := by
  unfold classifyMessage at h
  split at h
  · cases h; rfl
  · split at h
    · cases h; rfl
    · cases h

end FunctionHost.Transport
