import FunctionHost.Url.Encode
import FunctionHost.Url.Idna
/-!
# Hosts

The host of a URL is a domain, an IPv4 address or an IPv6 address. For a special scheme the
host text is percent-decoded and brought to ASCII form; when its last label is a number (all
digits, or a `0x` hexadecimal) the whole host must be an IPv4 address, written in one to four
parts, each decimal, octal (leading `0`) or hexadecimal (`0x`), the last part filling the
remaining bytes. For other schemes the host is opaque: it may not hold the characters that
delimit URL parts and is kept with controls and non-ASCII bytes percent-encoded. A host between
brackets is an IPv6 address in either case.

An IPv6 address is written in lower-case hexadecimal with the first longest run of two or more
zero pieces replaced by `::`.
-/
namespace FunctionHost.Url

/-- Why a URL could not be read. -/
inductive ParseError where
  | emptyHost
  | idnaError
  | invalidPort
  | invalidIpv4Address
  | invalidIpv6Address
  | invalidDomainCharacter
  | relativeUrlWithoutBase
  deriving DecidableEq, Repr

def ParseError.message : ParseError → String
  | .emptyHost => "empty host"
  | .idnaError => "invalid international domain name"
  | .invalidPort => "invalid port number"
  | .invalidIpv4Address => "invalid IPv4 address"
  | .invalidIpv6Address => "invalid IPv6 address"
  | .invalidDomainCharacter => "invalid domain character"
  | .relativeUrlWithoutBase => "relative URL without a base"

/-- The host of a URL. -/
inductive Host where
  | domain (name : String)
  | ipv4 (address : Nat)
  | ipv6 (pieces : List Nat)
  deriving DecidableEq, Repr

/-! ## IPv4 -/

def digitsIn (radix : Nat) (cs : List Char) : Option Nat :=
  cs.foldlM (fun acc c =>
    match hexNibble? c with
    | some d => if d < radix then some (acc * radix + d) else none
    | none => none) 0

/-- One part of an IPv4 address: `none` when it is not a number, `some none` when it is too
large for 32 bits. -/
def ipv4Number (cs : List Char) : Option (Option Nat) :=
  if cs.isEmpty then none
  else
    let (radix, digits) :=
      match cs with
      | '0' :: 'x' :: rest => (16, rest)
      | '0' :: 'X' :: rest => (16, rest)
      | '0' :: rest@(_ :: _) => (8, rest)
      | _ => (10, cs)
    if digits.isEmpty then some (some 0)
    else match digitsIn radix digits with
      | some n => some (if n < Nat.pow 2 32 then some n else none)
      | none => none

/-- Whether a domain's last label (ignoring one trailing dot) is a number. -/
def endsInNumber (s : String) : Bool :=
  let parts := s.toList.splitOn '.'
  let last := match parts.reverse with
    | [] :: prev :: _ => some prev
    | [] :: [] => none
    | l :: _ => some l
    | [] => none
  match last with
  | some l => (!l.isEmpty && l.all Char.isDigit) || (ipv4Number l).isSome
  | none => false

def parseIpv4 (s : String) : Except ParseError Nat := do
  let parts := s.toList.splitOn '.'
  let parts := if parts.getLast? = some [] then parts.dropLast else parts
  if 4 < parts.length then throw .invalidIpv4Address
  let numbers ← parts.mapM fun p =>
    match ipv4Number p with
    | some (some n) => pure n
    | _ => throw ParseError.invalidIpv4Address
  match numbers.reverse with
  | [] => throw .invalidIpv4Address
  | last :: firstRev =>
    let first := firstRev.reverse
    if Nat.pow 256 (4 - first.length) ≤ last then throw .invalidIpv4Address
    if first.any (255 < ·) then throw .invalidIpv4Address
    return (first.zipIdx.foldl (fun acc (n, i) => acc + n * Nat.pow 256 (3 - i)) last)

def ipv4Text (a : Nat) : String :=
  toString (a / Nat.pow 2 24 % 256) ++ "." ++ toString (a / Nat.pow 2 16 % 256) ++ "." ++
    toString (a / Nat.pow 2 8 % 256) ++ "." ++ toString (a % 256)

/-! ## IPv6 -/

def hexPiece (cs : List Char) : Nat × Nat × List Char :=
  let ds := (cs.take 4).takeWhile fun c => (hexNibble? c).isSome
  (ds.foldl (fun acc c => acc * 16 + (hexNibble? c).getD 0) 0, ds.length, cs.drop ds.length)

def ipv4Tail (cs : List Char) : Option (List Nat) := do
  let parts := cs.splitOn '.'
  if parts.length ≠ 4 then none
  let bytes ← parts.mapM fun p =>
    if p.isEmpty ∨ !p.all Char.isDigit then none
    else if p.length > 1 ∧ p.head? = some '0' then none
    else
      let v := p.foldl (fun acc c => acc * 10 + (c.toNat - 48)) 0
      if v ≤ 255 then some v else none
  match bytes with
  | [a, b, c, d] => some [a * 256 + b, c * 256 + d]
  | _ => none

/-- Reads the pieces of an IPv6 address: those before `::` and those after it, and whether
`::` was seen. The `::` takes the place of at least one piece, so at most seven others may stand
beside it, and a dotted tail must start within the first seven places. -/
def ipv6Pieces (before : List Nat) (after : Option (List Nat)) :
    List Char → Nat → Option (List Nat × Option (List Nat))
  | [], _ => some (before, after)
  | _ :: _, 0 => none
  | cs@(c :: rest), fuel + 1 =>
    let count := before.length + (after.map (·.length + 1)).getD 0
    if 8 ≤ count then none
    else if c = ':' then
      if after.isSome then none else ipv6Pieces before (some []) rest fuel
    else
      let (value, len, more) := hexPiece cs
      let push := fun (pieces : List Nat) =>
        match after with
        | some a => (before, some (a ++ pieces))
        | none => (before ++ pieces, none)
      match more with
      | '.' :: _ =>
        if len = 0 ∨ 6 < count then none
        else match ipv4Tail cs with
          | some two => some (push two)
          | none => none
      | ':' :: [] => none
      | ':' :: next =>
        if len = 0 then none
        else
          let (b, a) := push [value]
          ipv6Pieces b a next fuel
      | [] => if len = 0 then none else some (push [value])
      | _ => none

/-- Reads an IPv6 address, the text between the brackets. -/
def parseIpv6 (s : String) : Except ParseError (List Nat) :=
  let cs := s.toList
  let start : Option (List Char × Option (List Nat)) := match cs with
    | ':' :: ':' :: rest => some (rest, some [])
    | ':' :: _ => none
    | _ => some (cs, none)
  match start with
  | none => .error .invalidIpv6Address
  | some (rest, after) =>
    match ipv6Pieces [] after rest (rest.length + 1) with
    | some (before, none) => if before.length = 8 then .ok before else .error .invalidIpv6Address
    | some (before, some a) =>
      if 8 < before.length + a.length then .error .invalidIpv6Address
      else .ok (before ++ List.replicate (8 - before.length - a.length) 0 ++ a)
    | none => .error .invalidIpv6Address

def hexLower (n : Nat) : String := String.ofList (Nat.toDigits 16 n)

/-- The first longest run of zero pieces of length at least two: its start and length. -/
def longestZeroRun (pieces : List Nat) : Option (Nat × Nat) :=
  let step := fun (acc : Option (Nat × Nat) × Nat × Nat) (p : Nat × Nat) =>
    let (best, start, len) := acc
    let (v, i) := p
    if v = 0 then
      let start := if len = 0 then i else start
      let len := len + 1
      let best := match best with
        | some (_, bl) => if bl < len then some (start, len) else best
        | none => some (start, len)
      (best, start, len)
    else (best, start, 0)
  match (pieces.zipIdx.foldl step (none, 0, 0)).1 with
  | some (s, l) => if 2 ≤ l then some (s, l) else none
  | none => none

def ipv6Text (pieces : List Nat) : String :=
  let join := fun (ps : List Nat) => String.intercalate ":" (ps.map hexLower)
  match longestZeroRun pieces with
  | some (s, l) => join (pieces.take s) ++ "::" ++ join (pieces.drop (s + l))
  | none => join pieces

def Host.text : Host → String
  | .domain d => d
  | .ipv4 a => ipv4Text a
  | .ipv6 p => "[" ++ ipv6Text p ++ "]"

/-! ## Reading a host -/

def forbiddenOpaque (c : Char) : Bool :=
  "\x00\t\n\r #/:<>?@[\\]^|".toList.contains c

/-- Reads the host of a URL with a special scheme. -/
def parseSpecialHost (s : String) : Except ParseError Host :=
  if s.startsWith "[" then
    if s.endsWith "]" then (parseIpv6 ((s.drop 1).dropEnd 1).toString).map .ipv6
    else .error .invalidIpv6Address
  else
    let decoded := String.fromUTF8? (ByteArray.mk (percentDecode s.toUTF8.toList).toArray)
    match decoded.bind Idna.toAscii with
    | none => .error .idnaError
    | some d =>
      if d.isEmpty then .error .emptyHost
      else if endsInNumber d then (parseIpv4 d).map .ipv4
      else .ok (.domain d)

/-- Reads the host of a URL whose scheme is not special. -/
def parseOpaqueHost (s : String) : Except ParseError Host :=
  if s.startsWith "[" then
    if s.endsWith "]" then (parseIpv6 ((s.drop 1).dropEnd 1).toString).map .ipv6
    else .error .invalidIpv6Address
  else if s.toList.any forbiddenOpaque then .error .invalidDomainCharacter
  else .ok (.domain (encode controls s))

-- the number `0x7F000001` is written `127.0.0.1`
example : ipv4Text 0x7F000001 = "127.0.0.1" := by
  decide

end FunctionHost.Url
