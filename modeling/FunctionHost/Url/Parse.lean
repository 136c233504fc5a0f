import FunctionHost.Url.Host
/-!
# URLs

A URL read from text the way a web client reads it, without a base: surrounding controls and
spaces are ignored and tabs and line breaks inside are dropped; a scheme (a letter, then letters,
digits, `+`, `-` or `.`, lower-cased) and a colon come first.

* The special schemes `http`, `https`, `ws`, `wss`, `ftp` take any number of slashes or
  backslashes, then an authority (`user:password@host:port`) that must have a host; a default
  port is dropped.
* `file` takes an optional host after two slashes (`localhost` counts as none). A Windows drive
  letter (an ASCII letter, then `:` or `|`) where the host would be is the first path segment,
  and the host is empty; after a host, a drive letter that is the first segment drops the host.
  A drive letter read as the first segment is written with `:`. A file path keeps a single
  leading slash.
* Other schemes have an authority only after `//`, else a path that starts with `/`, else an
  opaque path.

The path is read one segment at a time, each written after a slash as it comes. A segment `.`
(also `%2e`) adds nothing but makes the path end in a slash; `..` (also percent-encoded) removes
the last segment, but not the root slash and not a segment that is a drive letter (`C:` or
`C|`), in any scheme. Each part is percent-encoded with its own set (see `Url.Encode`). The written form is
`scheme:` then `//authority` when there is a host, the path, `?query` and `#fragment`.

Results:
* `appendPairs_query`: appending pairs to a URL without a query gives the pairs as the query.
-/
namespace FunctionHost.Url

/-- The path of a URL: an opaque text, or segments each written after a slash. -/
inductive Path where
  | plain (text : String)
  | segments (items : List String)
  deriving DecidableEq, Repr

end FunctionHost.Url

namespace FunctionHost

/-- A URL; its functions live in the namespace `Url` beside it. -/
structure Url where
  scheme : String
  username : String
  password : String
  host : Option Url.Host
  port : Option Nat
  path : Url.Path
  query : Option String
  fragment : Option String
  deriving DecidableEq, Repr

end FunctionHost

namespace FunctionHost.Url

def defaultPort : String → Option Nat
  | "http" | "ws" => some 80
  | "https" | "wss" => some 443
  | "ftp" => some 21
  | _ => none

def isSpecial (scheme : String) : Bool :=
  ["http", "https", "ws", "wss", "ftp", "file"].contains scheme

def text (u : Url) : String :=
  let authority := match u.host with
    | some h =>
      let creds :=
        if u.username.isEmpty ∧ u.password.isEmpty then ""
        else u.username ++ (if u.password.isEmpty then "" else ":" ++ u.password) ++ "@"
      "//" ++ creds ++ h.text ++ (match u.port with | some p => ":" ++ toString p | none => "")
    | none => ""
  let path := match u.path with
    | .plain t => t
    | .segments items =>
      let dot := match u.host, items with
        | none, "" :: _ :: _ => "/."
        | _, _ => ""
      dot ++ String.join (items.map ("/" ++ ·))
  u.scheme ++ ":" ++ authority ++ path ++
    (match u.query with | some q => "?" ++ q | none => "") ++
    (match u.fragment with | some f => "#" ++ f | none => "")

def hasHost (u : Url) : Bool :=
  match u.host with
  | some (.domain "") => false
  | some _ => true
  | none => false

/-- Appends `name=value` pairs in form encoding to the query, joined by `&`. -/
def appendPairs (u : Url) (pairs : List (String × String)) : Url :=
  let q := pairs.foldl (fun acc (k, v) =>
    (if acc.isEmpty then acc else acc ++ "&") ++ formEncode k ++ "=" ++ formEncode v)
    (u.query.getD "")
  { u with query := some q }

/-! ## Reading -/

def endsAuthority (special : Bool) (c : Char) : Bool :=
  c = '/' || c = '?' || c = '#' || (special && c = '\\')

/-- Whether a segment is `..`, possibly percent-encoded. -/
def isDoubleDot (s : String) : Bool :=
  let l := s.toLower
  l = ".." || l = ".%2e" || l = "%2e." || l = "%2e%2e"

/-- Whether a segment is `.`, possibly percent-encoded. -/
def isSingleDot (s : String) : Bool := s = "." || s.toLower = "%2e"

/-- Whether two characters are a Windows drive letter (`C:` or `C|`). -/
def isDriveLetter (cs : List Char) : Bool :=
  match cs with
  | [c, d] => c.toNat < 0x80 && c.isAlpha && (d = ':' || d = '|')
  | _ => false

/-- Whether a segment is a normalized Windows drive letter (`C:`). -/
def isNormalizedDriveLetter (cs : List Char) : Bool :=
  match cs with
  | [c, ':'] => c.toNat < 0x80 && c.isAlpha
  | _ => false

/-- Whether text starts with a drive letter that ends there or at a slash, backslash, `?` or
`#`. -/
def startsWithDriveLetter (cs : List Char) : Bool :=
  match cs with
  | c :: d :: rest =>
    c.toNat < 0x80 && c.isAlpha && (d = ':' || d = '|') &&
      (match rest with
        | [] => true
        | e :: _ => e = '/' || e = '\\' || e = '?' || e = '#')
  | _ => false

/-- Whether a written path, from a slash on, starts with a drive letter after that slash. -/
def slashThenDriveLetter (cs : List Char) : Bool :=
  match cs with
  | c :: rest => (c = '/' || c = '\\' || c = '?' || c = '#') && startsWithDriveLetter rest
  | [] => false

/-- The position of the last slash of a written path, if it has one. -/
def lastSlash (cs : List Char) : Option Nat :=
  (cs.zipIdx.filter (·.1 = '/')).getLast?.map (·.2)

/-- Whether the slash that ends a written path may go when a `..` drops the segment before it:
not when it is the root slash, and not when it ends a drive letter. -/
def slashRemovable (written : List Char) : Bool :=
  match lastSlash written.dropLast with
  | some i => !slashThenDriveLetter (written.drop i)
  | none => false

/-- Drops the last segment of a written path, unless it is a normalized drive letter of a file
URL. -/
def popSegment (file : Bool) (written : List Char) : List Char :=
  match lastSlash written with
  | some i => if file && isNormalizedDriveLetter (written.drop (i + 1)) then written
    else written.take (i + 1)
  | none => written

/-- Reads one segment: its percent-encoded text, whether a slash ended it, and what follows. -/
def takeSegment (special : Bool) : List Char → List Char × Bool × List Char
  | [] => ([], false, [])
  | c :: rest =>
    if c = '/' || (special && c = '\\') then ([], true, rest)
    else if c = '?' || c = '#' then ([], false, c :: rest)
    else
      let (seg, slash, after) := takeSegment special rest
      (encodeChar pathSet c ++ seg, slash, after)

theorem takeSegment_rest_lt (special : Bool) (l : List Char)
    (h : (takeSegment special l).2.1 = true) : (takeSegment special l).2.2.length < l.length := by
  induction l with
  | nil => simp [takeSegment] at h
  | cons c rest ih =>
    rcases hr : takeSegment special rest with ⟨seg, slash, after⟩
    rw [hr] at ih
    by_cases h1 : (c = '/' || (special && c = '\\')) = true
    · simp only [takeSegment]
      rw [if_pos h1]
      simp
    · by_cases h2 : (c = '?' || c = '#') = true
      · simp only [takeSegment] at h
        rw [if_neg h1, if_pos h2] at h
        simp at h
      · simp only [takeSegment] at h ⊢
        rw [if_neg h1, if_neg h2, hr] at h ⊢
        have := ih h
        simp only [List.length_cons] at this ⊢
        omega

/-- The written path after one more segment, and whether a drive letter was written as the
first segment of a file path. A `..` drops the segment before it, but never the slash after a
drive letter nor the drive letter itself; a `.` is dropped; a drive letter first in a file path
is written with a colon. -/
def addSegment (file : Bool) (written seg : List Char) (slash : Bool) : List Char × Bool :=
  if isDoubleDot (String.ofList seg) then
    let w := if written.getLast? = some '/' && slashRemovable written then written.dropLast
      else written
    let w := if w.isEmpty then w else popSegment file w
    ((if slash && w.getLast? != some '/' then w ++ ['/'] else w), false)
  else if isSingleDot (String.ofList seg) then
    ((if written.getLast? = some '/' then written else written ++ ['/']), false)
  else if file && written.length = 1 && isDriveLetter seg then
    (written ++ seg.take 1 ++ [':'] ++ (if slash then ['/'] else []), true)
  else (written ++ seg ++ (if slash then ['/'] else []), false)

/-- Reads a path onto what is written of it already, up to `?`, `#` or the end: the written
path, whether a drive letter came first in a file path, and the rest. -/
def readPath (special file : Bool) (written : List Char) (drive : Bool) :
    List Char → List Char × Bool × List Char
  | [] => let (w, d) := addSegment file written [] false; (w, drive || d, [])
  | c :: cs =>
    match h : takeSegment special (c :: cs) with
    | (seg, slash, after) =>
      let (w, d) := addSegment file written seg slash
      if hs : slash = true then
        have hlt : after.length < cs.length + 1 := by
          have := takeSegment_rest_lt special (c :: cs) (by rw [h]; exact hs)
          rw [h] at this
          simpa only [List.length_cons] using this
        readPath special file w (drive || d) after
      else (w, drive || d, after)
termination_by cs => cs.length
decreasing_by
  all_goals
    try simp only [List.length_cons] at *
    omega

def segmentsOf (written : List Char) : List String :=
  match written with
  | [] => []
  | _ :: rest => (rest.splitOn '/').map String.ofList

/-- Reads the query and fragment after the path. -/
def readTail (special : Bool) (rest : List Char) : Option String × Option String :=
  let readFragment := fun (cs : List Char) => String.ofList (cs.flatMap (encodeChar fragmentSet))
  match rest with
  | '?' :: more =>
    let q := more.takeWhile (· != '#')
    let after := more.dropWhile (· != '#')
    let set := if special then specialQuerySet else querySet
    (some (String.ofList (q.flatMap (encodeChar set))),
      match after with
      | '#' :: f => some (readFragment f)
      | _ => none)
  | '#' :: f => (none, some (readFragment f))
  | _ => (none, none)

/-- Reads a path onto what is written of it already, then the query and fragment: the path,
whether a drive letter came first in a file path, the query and the fragment. The slashes at the
start of a file path are brought down to one. -/
def readPathAndTail (scheme : String) (written : List Char) (cs : List Char) :
    Path × Bool × Option String × Option String :=
  let special := isSpecial scheme
  let file := scheme = "file"
  let (w, drive, rest) := readPath special file written false cs
  let w := if file then '/' :: w.dropWhile (· = '/') else w
  let (q, f) := readTail special rest
  (.segments (segmentsOf w), drive, q, f)

/-- Splits user information into name and password, percent-encoded. -/
def readUserinfo (creds : List Char) : String × String :=
  let name := creds.takeWhile (· != ':')
  let password := (creds.dropWhile (· != ':')).drop 1
  (String.ofList (name.flatMap (encodeChar userinfoSet)),
    String.ofList (password.flatMap (encodeChar userinfoSet)))

/-- Reads a port: digits up to `/`, `\`, `?`, `#` or the end. -/
def readPort (scheme : String) (cs : List Char) : Except ParseError (Option Nat × List Char) :=
  let digits := cs.takeWhile Char.isDigit
  let rest := cs.dropWhile Char.isDigit
  match rest with
  | c :: _ =>
    if c = '/' || c = '\\' || c = '?' || c = '#' then finish digits rest else .error .invalidPort
  | [] => finish digits rest
where
  /-- The port value, dropped when it is the default. -/
  finish (digits rest : List Char) : Except ParseError (Option Nat × List Char) :=
    if digits.isEmpty then .ok (none, rest)
    else
      let v := digits.foldl (fun acc c => acc * 10 + (c.toNat - 48)) 0
      if 65535 < v then .error .invalidPort
      else if defaultPort scheme = some v then .ok (none, rest)
      else .ok (some v, rest)

/-- Splits the host text off: up to `:` outside brackets, or the end of the authority. -/
def splitHost (special : Bool) (inside : Bool) : List Char → List Char × List Char
  | [] => ([], [])
  | c :: rest =>
    if (c = ':' && !inside) || endsAuthority special c then ([], c :: rest)
    else
      let inside' := if c = '[' then true else if c = ']' then false else inside
      let (h, r) := splitHost special inside' rest
      (c :: h, r)

def readAuthority (scheme : String) (cs : List Char) : Except ParseError Url := do
  let special := isSpecial scheme
  let authority := cs.takeWhile fun c => !endsAuthority special c
  let lastAt := authority.length - 1 - ((authority.reverse.findIdx? (· == '@')).getD authority.length)
  let (creds, rest, atSeen) :=
    if authority.contains '@' then (cs.take lastAt, cs.drop (lastAt + 1), true)
    else ([], cs, false)
  let (username, password) := readUserinfo creds
  if atSeen && creds.isEmpty then
    match rest with
    | c :: _ => if endsAuthority special c then throw .emptyHost
    | [] => pure ()
  let (hostText, afterHost) := splitHost special false rest
  if special && hostText.isEmpty then throw .emptyHost
  let host ← if special then parseSpecialHost (String.ofList hostText)
    else parseOpaqueHost (String.ofList hostText)
  if host = .domain "" && afterHost.head? = some ':' then throw .emptyHost
  let (port, afterPort) ← match afterHost with
    | ':' :: more => readPort scheme more
    | _ => pure (none, afterHost)
  if host = .domain "" && !(username.isEmpty && password.isEmpty) then throw .emptyHost
  let (path, _, query, fragment) :=
    if special then
      let input := match afterPort with
        | c :: more => if c = '/' || c = '\\' then more else afterPort
        | [] => []
      readPathAndTail scheme ['/'] input
    else readPathAndTail scheme [] afterPort
  return ⟨scheme, username, password, some host, port, path, query, fragment⟩

/-- Reads what follows `file:`. After two slashes comes a host; an empty one or `localhost` is
none, and the path is then read from the slash that ends the host on, so a drive letter in it
is not the first segment and keeps its form. A drive letter written first after a host drops
the host. -/
def readFile (cs : List Char) : Except ParseError Url := do
  let slash := fun (c : Char) => c = '/' || c = '\\'
  match cs with
  | a :: b :: rest =>
    if slash a && slash b then
      let hostText := rest.takeWhile fun c => !(slash c || c = '?' || c = '#')
      let afterHost := rest.dropWhile fun c => !(slash c || c = '?' || c = '#')
      if isDriveLetter hostText then
        let (path, _, query, fragment) := readPathAndTail "file" ['/'] rest
        return ⟨"file", "", "", some (.domain ""), none, path, query, fragment⟩
      let host ← if hostText.isEmpty then pure (Host.domain "")
        else do
          let h ← parseSpecialHost (String.ofList hostText)
          pure (if h = .domain "localhost" then Host.domain "" else h)
      if host = .domain "" then
        let (path, _, query, fragment) := readPathAndTail "file" ['/'] afterHost
        return ⟨"file", "", "", some host, none, path, query, fragment⟩
      let pathInput := match afterHost with
        | c :: more => if slash c then more else afterHost
        | [] => []
      let (path, drive, query, fragment) := readPathAndTail "file" ['/'] pathInput
      return ⟨"file", "", "", some (if drive then .domain "" else host), none, path, query, fragment⟩
    else readFileNoHost cs
  | _ => readFileNoHost cs
where
  /-- A file URL without `//`. -/
  readFileNoHost (cs : List Char) : Except ParseError Url :=
    let pathInput := match cs with
      | c :: more => if c = '/' || c = '\\' then more else cs
      | [] => []
    let (path, _, query, fragment) := readPathAndTail "file" ['/'] pathInput
    .ok ⟨"file", "", "", some (.domain ""), none, path, query, fragment⟩

/-- Whether a character may appear in a scheme after its first letter. -/
def isSchemeChar (c : Char) : Bool := c.isAlphanum || c = '+' || c = '-' || c = '.'

def parse (s : String) : Except ParseError Url :=
  let trimmed := (s.toList.dropWhile (·.toNat ≤ 0x20)).reverse.dropWhile (·.toNat ≤ 0x20) |>.reverse
  let cs := trimmed.filter fun c => c != '\t' && c != '\n' && c != '\r'
  let schemeChars := cs.takeWhile isSchemeChar
  let rest := cs.drop schemeChars.length
  match schemeChars, rest with
  | c :: _, ':' :: afterColon =>
    if !c.isAlpha then .error .relativeUrlWithoutBase
    else
      let scheme := String.ofList (schemeChars.map Char.toLower)
      if scheme = "file" then readFile afterColon
      else if isSpecial scheme then
        readAuthority scheme (afterColon.dropWhile fun c => c = '/' || c = '\\')
      else match afterColon with
        | '/' :: '/' :: more => readAuthority scheme more
        | '/' :: more =>
          let (path, _, query, fragment) := readPathAndTail scheme [] ('/' :: more)
          .ok ⟨scheme, "", "", none, none, path, query, fragment⟩
        | _ =>
          let body := afterColon.takeWhile fun c => c != '?' && c != '#'
          let (query, fragment) := readTail false (afterColon.drop body.length)
          .ok ⟨scheme, "", "", none, none, .plain (String.ofList (body.flatMap (encodeChar controls))),
            query, fragment⟩
  | _, _ => .error .relativeUrlWithoutBase

-- a text without a scheme is refused as relative
example : parse "/relative/path" = .error .relativeUrlWithoutBase := by
  rfl

theorem appendPairs_query (u : Url) (k v : String) (h : u.query = none) :
    (u.appendPairs [(k, v)]).query = some (formEncode k ++ "=" ++ formEncode v) := by
  simp [Url.appendPairs, h]

end FunctionHost.Url
