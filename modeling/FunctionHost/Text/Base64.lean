/-!
# Base64

The standard alphabet of base64: `A`–`Z`, `a`–`z`, `0`–`9`, `+` and `/`. Every three bytes give
four characters, six bits each, the first byte's high bits first; a last group of one or two
bytes is padded with `=` to four characters.

Results:
* `encode_length`: the text has four characters for every group of three bytes, a last short
  group included.
-/
namespace FunctionHost.Text.Base64

def digit (v : Nat) : Char :=
  if v < 26 then Char.ofNat (65 + v)
  else if v < 52 then Char.ofNat (97 + v - 26)
  else if v < 62 then Char.ofNat (48 + v - 52)
  else if v = 62 then '+' else '/'

def group (b0 b1 b2 : Nat) (count : Nat) : List Char :=
  let v := b0 * 65536 + b1 * 256 + b2
  [digit (v / 262144), digit (v / 4096 % 64),
    if 2 ≤ count then digit (v / 64 % 64) else '=',
    if 3 ≤ count then digit (v % 64) else '=']

def encodeList : List UInt8 → List Char
  | [] => []
  | [a] => group a.toNat 0 0 1
  | [a, b] => group a.toNat b.toNat 0 2
  | a :: b :: c :: rest => group a.toNat b.toNat c.toNat 3 ++ encodeList rest

def encode (bytes : List UInt8) : String := String.ofList (encodeList bytes)

theorem encode_length (bytes : List UInt8) :
    (encodeList bytes).length = 4 * ((bytes.length + 2) / 3) := by
  induction bytes using encodeList.induct with
  | case1 => rfl
  | case2 a => simp [encodeList, group]
  | case3 a b => simp [encodeList, group]
  | case4 a b c rest ih =>
    simp only [encodeList, List.length_append, ih, group, List.length_cons, List.length_nil]
    omega

-- the bytes of `user:pass` encode as `dXNlcjpwYXNz`
example :
    encodeList [117, 115, 101, 114, 58, 112, 97, 115, 115] =
      ['d', 'X', 'N', 'l', 'c', 'j', 'p', 'w', 'Y', 'X', 'N', 'z'] := by
  decide

end FunctionHost.Text.Base64
