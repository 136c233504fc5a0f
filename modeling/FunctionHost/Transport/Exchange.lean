import FunctionHost.Transport.Failure
import FunctionHost.Url.Parse
import FunctionHost.Text.Base64
import FunctionHost.Text.Utf8
/-!
# Requests, responses and why an exchange failed

A request is drafted step by step: a method and a URL, then headers, then a body. The first
step that goes wrong spoils the draft and later steps leave it as it is, so a draft ends as a
request or as the first reason it could not be built.

* A URL must parse and must have a host. A text that does not parse is refused without naming
  a URL; a URL without a host is refused with the URL and the cause "URL scheme is not allowed".
  A user name and password in the URL are taken out of it and sent as a basic authorization
  header, unless the name does not percent-decode to UTF-8.
* A header name is one or more token characters (letters, digits and ``!#$%&'*+-.^_`|~``), kept
  in lower case. A header value is made of bytes from space on, other than DEL, and tabs.

An exchange fails with a `TransportError`: the stage that failed, the URL when it is known, and
the texts of the underlying causes, outermost first. Its text is the stage's text followed by
` for url (U)`. `classify` puts it in a failure class: a redirect failure first, then a URL
whose scheme is not `http` or `https`, then whatever the texts reveal, then the stage and the
kind of cause.

A response comes with its status and headers; reading its body may still fail part way, and
then its text is taken as empty.

The network answers each request with an outcome, after a time of its own. Executing a request
refuses a scheme other than `http` and `https` at once, before the network sees it; so does a
draft that could not be built.

Results:
* `classify_scheme`: a failure for a URL of another scheme is an unsupported scheme.
* `execute_refusing`: on a network that refuses every connection, executing an `http` request
  fails while connecting.
-/
namespace FunctionHost.Transport


/-- A request method. -/
inductive Method where
  | get
  | post
  | put
  | delete
  deriving DecidableEq, Repr

def Method.name : Method → String
  | .get => "GET"
  | .post => "POST"
  | .put => "PUT"
  | .delete => "DELETE"

/-- A request body: none, bytes that can be sent again, or a stream that can be sent once. -/
inductive Body where
  | empty
  | bytes (data : List UInt8)
  | stream (data : List UInt8)
  deriving DecidableEq, Repr

def Body.isStream : Body → Bool
  | .stream _ => true
  | _ => false

/-- A request ready to be sent. -/
structure Request where
  method : Method
  url : Url
  headers : List (String × List UInt8)
  body : Body
  deriving DecidableEq, Repr

def reasonPhrase : Nat → Option String
  | 100 => some "Continue" | 101 => some "Switching Protocols" | 102 => some "Processing"
  | 103 => some "Early Hints"
  | 200 => some "OK" | 201 => some "Created" | 202 => some "Accepted"
  | 203 => some "Non Authoritative Information" | 204 => some "No Content"
  | 205 => some "Reset Content" | 206 => some "Partial Content" | 207 => some "Multi-Status"
  | 208 => some "Already Reported" | 226 => some "IM Used"
  | 300 => some "Multiple Choices" | 301 => some "Moved Permanently" | 302 => some "Found"
  | 303 => some "See Other" | 304 => some "Not Modified" | 305 => some "Use Proxy"
  | 307 => some "Temporary Redirect" | 308 => some "Permanent Redirect"
  | 400 => some "Bad Request" | 401 => some "Unauthorized" | 402 => some "Payment Required"
  | 403 => some "Forbidden" | 404 => some "Not Found" | 405 => some "Method Not Allowed"
  | 406 => some "Not Acceptable" | 407 => some "Proxy Authentication Required"
  | 408 => some "Request Timeout" | 409 => some "Conflict" | 410 => some "Gone"
  | 411 => some "Length Required" | 412 => some "Precondition Failed"
  | 413 => some "Payload Too Large" | 414 => some "URI Too Long"
  | 415 => some "Unsupported Media Type" | 416 => some "Range Not Satisfiable"
  | 417 => some "Expectation Failed" | 418 => some "I\x27m a teapot"
  | 421 => some "Misdirected Request" | 422 => some "Unprocessable Entity" | 423 => some "Locked"
  | 424 => some "Failed Dependency" | 425 => some "Too Early" | 426 => some "Upgrade Required"
  | 428 => some "Precondition Required" | 429 => some "Too Many Requests"
  | 431 => some "Request Header Fields Too Large"
  | 451 => some "Unavailable For Legal Reasons"
  | 500 => some "Internal Server Error" | 501 => some "Not Implemented"
  | 502 => some "Bad Gateway" | 503 => some "Service Unavailable" | 504 => some "Gateway Timeout"
  | 505 => some "HTTP Version Not Supported" | 506 => some "Variant Also Negotiates"
  | 507 => some "Insufficient Storage" | 508 => some "Loop Detected" | 510 => some "Not Extended"
  | 511 => some "Network Authentication Required"
  | _ => none

/-- A status code with its reason phrase, as in `404 Not Found`. -/
def statusText (n : Nat) : String :=
  toString n ++ " " ++ (reasonPhrase n).getD "<unknown status code>"

/-- The stage of an exchange that failed. -/
inductive Stage where
  /-- The request could not be built. -/
  | build
  /-- The request could not be sent or no response came. -/
  | send
  /-- A redirect could not be followed. -/
  | redirect
  /-- The body of the request or of the response failed. -/
  | body
  deriving DecidableEq, Repr

def Stage.text : Stage → String
  | .build => "builder error"
  | .send => "error sending request"
  | .redirect => "error following redirect"
  | .body => "request or response body error"

/-- Why an exchange failed. -/
structure TransportError where
  stage : Stage
  url : Option Url
  /-- The texts of the underlying causes, outermost first. -/
  causes : List String
  /-- Whether a timer ran out. -/
  timedOut : Bool
  /-- Whether the failure came while connecting. -/
  connecting : Bool
  deriving DecidableEq, Repr

namespace TransportError

def text (e : TransportError) : String :=
  e.stage.text ++ (match e.url with
    | some u => " for url (" ++ u.text ++ ")"
    | none => "")

/-- A request that could not be built, for a reason that names no URL. -/
def invalid (cause : String) : TransportError := ⟨.build, none, [cause], false, false⟩

def badScheme (u : Url) : TransportError :=
  ⟨.build, some u, ["URL scheme is not allowed"], false, false⟩

def refused (u : Url) : TransportError :=
  ⟨.send, some u, ["client error (Connect)", "tcp connect error",
    "Connection refused (os error 111)"], false, true⟩

end TransportError

/-- A response: its status and headers, the bytes of its body that arrived, and why reading the
body to its end failed, if it did. -/
structure Response where
  status : Nat
  headers : List (String × String)
  body : List UInt8
  bodyFailure : Option TransportError
  deriving DecidableEq, Repr

/-- The body of a response as text, ill-formed UTF-8 replaced; empty when the body could not be
read to its end. -/
def Response.text (r : Response) : String :=
  match r.bodyFailure with
  | some _ => ""
  | none => Text.decodeLossy r.body

/-- The first failure class revealed by one of the texts. -/
def classifyTexts : List String → Option Failure
  | [] => none
  | t :: rest => (classifyMessage t).orElse fun _ => classifyTexts rest

/-- Whether a URL's scheme is one a client does not send to. -/
def foreignScheme (u : Url) : Bool := u.scheme != "http" && u.scheme != "https"

/-- The failure class of a failed exchange. -/
def classify (e : TransportError) : Failure :=
  if e.stage = .redirect then .tooManyRedirects
  else if e.url.any foreignScheme then .unsupportedScheme
  else match classifyTexts (e.text :: e.causes) with
    | some f => f
    | none =>
      if e.stage = .build then .invalidRequest
      else if e.timedOut then .timeout
      else if e.connecting then .connect
      else .other

/-! ## Drafting requests -/

/-- Whether a byte may appear in a header name. -/
def isTokenByte (b : UInt8) : Bool :=
  (48 ≤ b ∧ b ≤ 57) || (65 ≤ b ∧ b ≤ 90) || (97 ≤ b ∧ b ≤ 122) ||
    [33, 35, 36, 37, 38, 39, 42, 43, 45, 46, 94, 95, 96, 124, 126].contains b

/-- Whether a byte may appear in a header value. -/
def isValueByte (b : UInt8) : Bool := (32 ≤ b && b != 127) || b == 9

def headerName (name : String) : Option String :=
  let bytes := name.toUTF8.toList
  if !bytes.isEmpty && bytes.all isTokenByte then some name.toLower else none

/-- The user name and password a URL carries, percent-decoded: nothing when the name does not
decode as UTF-8 or there is neither a name nor a password. A password that does not decode
counts as none. -/
def credentials (u : Url) : Option (String × Option String) :=
  let decode (s : String) : Option String :=
    String.fromUTF8? (ByteArray.mk (FunctionHost.Url.percentDecode s.toUTF8.toList).toArray)
  match decode u.username with
  | none => none
  | some name =>
    let password := if u.password.isEmpty then none else decode u.password
    if name.isEmpty && password.isNone then none else some (name, password)

/-- The value of a basic authorization header: `Basic` and the base64 of `name:password`. -/
def basicAuth (name : String) (password : Option String) : List UInt8 :=
  ("Basic " ++ Text.Base64.encode (name ++ ":" ++ password.getD "").toUTF8.toList).toUTF8.toList

/-- A request being drafted: the request so far, or the first reason it cannot be built. -/
abbrev Draft := Except TransportError Request

namespace Draft

/-- A draft for a URL, which must have a host. User information in the URL moves into a basic
authorization header. -/
def ofUrl (m : Method) (u : Url) : Draft :=
  if u.hasHost then
    match credentials u with
    | some (name, password) =>
      .ok ⟨m, { u with username := "", password := "" }, [("authorization", basicAuth name password)],
        .empty⟩
    | none => .ok ⟨m, u, [], .empty⟩
  else .error (.badScheme u)

def start (m : Method) (url : String) : Draft :=
  match Url.parse url with
  | .ok u => ofUrl m u
  | .error e => .error (.invalid e.message)

/-- Adds a header; a bad name or value spoils the draft. -/
def header (d : Draft) (name : String) (value : List UInt8) : Draft := do
  let r ← d
  match headerName name with
  | none => throw (.invalid "invalid HTTP header name")
  | some n =>
    if value.all isValueByte then return { r with headers := r.headers ++ [(n, value)] }
    else throw (.invalid "failed to parse header value")

def headerText (d : Draft) (name value : String) : Draft := d.header name value.toUTF8.toList

def withBody (d : Draft) (b : Body) : Draft := d.map fun r => { r with body := b }

end Draft

/-! ## The network -/

/-- What comes back for a request: the outcome, and how many nanoseconds after the request went
out it came. -/
structure Answer where
  outcome : Except TransportError Response
  takes : Nat

/-- An answer that comes at once. -/
def Answer.now (o : Except TransportError Response) : Answer := ⟨o, 0⟩

/-- What the network does with a request. -/
abbrev Network := Request → Answer

/-- A network on which every connection is refused at once. -/
def Network.refusing : Network := fun r => .now (.error (.refused r.url))

/-- Executes a request: a scheme other than `http` and `https` is refused before the network
sees the request. -/
def execute (net : Network) (r : Request) : Answer :=
  if foreignScheme r.url then .now (.error (.badScheme r.url)) else net r

/-- Executes a draft: one that could not be built fails at once. -/
def executeDraft (net : Network) : Draft → Answer
  | .ok r => execute net r
  | .error e => .now (.error e)

theorem classify_scheme (e : TransportError) (u : Url) (hu : e.url = some u)
    (hs : foreignScheme u = true) (hr : e.stage ≠ .redirect) :
    classify e = .unsupportedScheme := by
  simp [classify, hu, hs, hr]

theorem execute_refusing (r : Request) (h : r.url.scheme = "http") :
    execute Network.refusing r = .now (.error (.refused r.url)) := by
  simp [execute, foreignScheme, h, Network.refusing]

end FunctionHost.Transport
