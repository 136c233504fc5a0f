import FunctionHost.Transport.Retry
import FunctionHost.Json.Error
/-!
# Client settings

What an outbound client is built from: timeouts, the connection pool, whether server
certificates are checked, an extra trusted certificate, a proxy, whether host names go to a
custom resolver, and the retry settings.

Results:
* `withRetries_maxRetries`: the retry count given is the one kept.
-/
namespace FunctionHost.Transport

/-- Settings of an outbound client. -/
structure ClientConfig where
  connectTimeout : Duration
  keepAlive : Duration
  idleTimeout : Duration
  maxIdleConnections : Nat
  requestTimeout : Option Duration
  tlsSkipVerify : Bool
  caCertPem : Option String
  proxy : Option String
  customResolver : Bool
  retry : RetryConfig

namespace ClientConfig

/-- Connect within 30 s, keep connections 120 s alive and 90 s idle, at most 20 idle, no
request timeout, certificates checked, no retries. -/
def default : ClientConfig :=
  { connectTimeout := Duration.ofSecs 30, keepAlive := Duration.ofSecs 120,
    idleTimeout := Duration.ofSecs 90, maxIdleConnections := 20, requestTimeout := none,
    tlsSkipVerify := false, caCertPem := none, proxy := none, customResolver := false,
    retry := RetryConfig.default }

def withRetries (n : Nat) : ClientConfig := { default with retry := RetryConfig.withRetries n }

def optionText {α : Type} (f : α → String) : Option α → String
  | some a => "Some(" ++ f a ++ ")"
  | none => "None"

/-- The settings as a debugging text; a certificate shows as `<pem>` and a resolver as
`<custom>`. -/
def text (c : ClientConfig) : String :=
  "HttpClientConfig \x7b connect_timeout: " ++ c.connectTimeout.text ++
    ", keep_alive: " ++ c.keepAlive.text ++
    ", idle_timeout: " ++ c.idleTimeout.text ++
    ", max_idle_connections: " ++ toString c.maxIdleConnections ++
    ", request_timeout: " ++ optionText Duration.text c.requestTimeout ++
    ", tls_skip_verify: " ++ toString c.tlsSkipVerify ++
    ", ca_cert_pem: " ++ optionText (fun _ => "\"<pem>\"") c.caCertPem ++
    ", proxy: " ++ optionText Json.debugQuote c.proxy ++
    ", dns_resolver: " ++ (if c.customResolver then "Some(\"<custom>\")" else "None") ++
    ", retry: " ++ c.retry.text ++ " \x7d"

end ClientConfig

theorem withRetries_maxRetries (n : Nat) : (ClientConfig.withRetries n).retry.maxRetries = n := rfl

end FunctionHost.Transport
