import ShelfWise.Py.Value
import ShelfWise.Py.Sorted

/-!
# JSON texts and digests

`dumps` is `json.dumps(v, sort_keys=True, separators=(",", ":"))`: keys sorted, no white space, and
everything outside printable ASCII escaped. `sha256` is the hexadecimal digest of the UTF-8 bytes of
a text, computed with natural numbers modulo `2 ^ 32`, so that the kernel can evaluate it.
-/

namespace Py

/-! ## JSON -/

/-- The escape `\uXXXX`. -/
def unicodeEscape (n : ℕ) : List Char :=
  ['\\', 'u', Nat.digitChar (n / 4096 % 16), Nat.digitChar (n / 256 % 16),
    Nat.digitChar (n / 16 % 16), Nat.digitChar (n % 16)]

/-- A character inside a JSON text; one past the basic plane is a surrogate pair. -/
def jsonChar (c : Char) : List Char :=
  let n := c.toNat
  if c = '"' then ['\\', '"']
  else if c = '\\' then ['\\', '\\']
  else if c = '\n' then ['\\', 'n']
  else if c = '\r' then ['\\', 'r']
  else if c = '\t' then ['\\', 't']
  else if n = 12 then ['\\', 'f']
  else if n = 8 then ['\\', 'b']
  else if 32 ≤ n ∧ n ≤ 126 then [c]
  else if n < 0x10000 then unicodeEscape n
  else unicodeEscape (0xd800 + (n - 0x10000) / 0x400) ++
    unicodeEscape (0xdc00 + (n - 0x10000) % 0x400)

/-- A JSON text. -/
def jsonText (s : String) : String :=
  String.ofList ('"' :: (s.toList.flatMap jsonChar ++ ['"']))

/-- A JSON number of a double; the three values JSON lacks get their names. -/
def jsonFloat (f : PyFloat) : String :=
  match f.value with
  | .finite _ => f.repr
  | .infinity negative => if negative then "-Infinity" else "Infinity"
  | .nan => "NaN"

/-- Texts with a comma between any two. -/
def joinCommas : List String → String
  | [] => ""
  | [s] => s
  | s :: t :: rest => s ++ "," ++ joinCommas (t :: rest)

mutual

/-- `json.dumps(v, sort_keys=True, separators=(",", ":"))`. -/
def dumps : Value → String
  | .none => "null"
  | .bool b => if b then "true" else "false"
  | .int n => toString n
  | .float f => jsonFloat f
  | .str s => jsonText s
  | .list items => "[" ++ joinCommas (dumpList items) ++ "]"
  | .dict items => "\x7b" ++ joinCommas ((sortedBy Prod.fst (dumpItems items)).map fun e =>
      jsonText e.1 ++ ":" ++ e.2) ++ "\x7d"

/-- The texts of a list. -/
def dumpList : List Value → List String
  | [] => []
  | v :: rest => dumps v :: dumpList rest

/-- The keys of an object with the texts of their values. -/
def dumpItems : List (String × Value) → List (String × String)
  | [] => []
  | (k, v) :: rest => (k, dumps v) :: dumpItems rest

end

/-! ## SHA-256 -/

/-- A word: a number below this. -/
def wordSize : ℕ := 2 ^ 32

/-- A word rotated to the right. -/
def rotateRight (x n : ℕ) : ℕ := (x >>> n) ||| ((x <<< (32 - n)) % wordSize)

/-- The round constants. -/
def roundConstants : List ℕ :=
  [
    0x428a2f98, 0x71374491, 0xb5c0fbcf, 0xe9b5dba5, 0x3956c25b, 0x59f111f1, 0x923f82a4,
    0xab1c5ed5, 0xd807aa98, 0x12835b01, 0x243185be, 0x550c7dc3, 0x72be5d74, 0x80deb1fe,
    0x9bdc06a7, 0xc19bf174, 0xe49b69c1, 0xefbe4786, 0x0fc19dc6, 0x240ca1cc, 0x2de92c6f,
    0x4a7484aa, 0x5cb0a9dc, 0x76f988da, 0x983e5152, 0xa831c66d, 0xb00327c8, 0xbf597fc7,
    0xc6e00bf3, 0xd5a79147, 0x06ca6351, 0x14292967, 0x27b70a85, 0x2e1b2138, 0x4d2c6dfc,
    0x53380d13, 0x650a7354, 0x766a0abb, 0x81c2c92e, 0x92722c85, 0xa2bfe8a1, 0xa81a664b,
    0xc24b8b70, 0xc76c51a3, 0xd192e819, 0xd6990624, 0xf40e3585, 0x106aa070, 0x19a4c116,
    0x1e376c08, 0x2748774c, 0x34b0bcb5, 0x391c0cb3, 0x4ed8aa4a, 0x5b9cca4f, 0x682e6ff3,
    0x748f82ee, 0x78a5636f, 0x84c87814, 0x8cc70208, 0x90befffa, 0xa4506ceb, 0xbef9a3f7,
    0xc67178f2]

/-- The initial hash value. -/
def initialHash : List ℕ :=
  [
    0x6a09e667, 0xbb67ae85, 0x3c6ef372, 0xa54ff53a, 0x510e527f, 0x9b05688c, 0x1f83d9ab,
    0x5be0cd19]

/-- The message with a one bit, zeros and its length in bits, in whole blocks of 64 bytes. -/
def padMessage (bytes : List ℕ) : List ℕ :=
  let zeros := (119 - bytes.length % 64) % 64
  let bits := bytes.length * 8
  bytes ++ 128 :: (List.replicate zeros 0 ++
    (List.range 8).map fun i => bits / 256 ^ (7 - i) % 256)

/-- Bytes as big-endian words. -/
def bytesToWords : List ℕ → List ℕ
  | a :: b :: c :: d :: rest => (a * 2 ^ 24 + b * 2 ^ 16 + c * 2 ^ 8 + d) :: bytesToWords rest
  | _ => []

/-- `n` more words of the message schedule, kept last word first. -/
def extendSchedule : ℕ → List ℕ → List ℕ
  | 0, w => w
  | n + 1, w =>
    let w2 := w.getD 1 0
    let w7 := w.getD 6 0
    let w15 := w.getD 14 0
    let w16 := w.getD 15 0
    let s0 := rotateRight w15 7 ^^^ rotateRight w15 18 ^^^ (w15 >>> 3)
    let s1 := rotateRight w2 17 ^^^ rotateRight w2 19 ^^^ (w2 >>> 10)
    extendSchedule n ((w16 + s0 + w7 + s1) % wordSize :: w)

/-- One round on the eight working variables. -/
def compressRound (h : List ℕ) (kw : ℕ × ℕ) : List ℕ :=
  match h with
  | [a, b, c, d, e, f, g, h] =>
    let s1 := rotateRight e 6 ^^^ rotateRight e 11 ^^^ rotateRight e 25
    let choice := (e &&& f) ^^^ ((wordSize - 1 - e) &&& g)
    let t1 := h + s1 + choice + kw.1 + kw.2
    let s0 := rotateRight a 2 ^^^ rotateRight a 13 ^^^ rotateRight a 22
    let majority := (a &&& b) ^^^ (a &&& c) ^^^ (b &&& c)
    [(t1 + s0 + majority) % wordSize, a, b, c, (d + t1) % wordSize, e, f, g]
  | other => other

/-- The hash value after one block of sixteen words. -/
def compressBlock (hash block : List ℕ) : List ℕ :=
  let schedule := (extendSchedule 48 block.reverse).reverse
  let out := (List.zip roundConstants schedule).foldl compressRound hash
  List.zipWith (fun x y => (x + y) % wordSize) hash out

/-- The hash value after a list of words, at most `n` blocks of it. -/
def compressBlocks : ℕ → List ℕ → List ℕ → List ℕ
  | 0, hash, _ => hash
  | n + 1, hash, words => compressBlocks n (compressBlock hash (words.take 16)) (words.drop 16)

/-- The eight hexadecimal digits of a word. -/
def hexWord (w : ℕ) : List Char := (List.range 8).map fun i => Nat.digitChar (w / 16 ^ (7 - i) % 16)

/-- `hashlib.sha256(s.encode()).hexdigest()`. -/
def sha256 (s : String) : String :=
  let bytes := s.toUTF8.data.toList.map UInt8.toNat
  let words := bytesToWords (padMessage bytes)
  String.ofList ((compressBlocks (words.length / 16) initialHash words).flatMap hexWord)

attribute [irreducible] dumps sha256

example : sha256 "abc" = "ba7816bf8f01cfea414140de5dae2223b00361a396177a9cb410ff61f20015ad" := by
  decide +kernel

/-! ## Message authentication

`hmac.new(key, message, hashlib.sha256)` with the two texts a digest is sent as, hexadecimal and base 64.
-/

/-- `text.encode("utf-8")`. -/
def utf8 (text : String) : List ℕ := text.toUTF8.data.toList.map UInt8.toNat

/-- The four bytes of a word. -/
def wordBytes (w : ℕ) : List ℕ := (List.range 4).map fun i => w / 256 ^ (3 - i) % 256

/-- `hashlib.sha256(bytes).digest()`. -/
def sha256Digest (bytes : List ℕ) : List ℕ :=
  let words := bytesToWords (padMessage bytes)
  (compressBlocks (words.length / 16) initialHash words).flatMap wordBytes

/-- The key of a block of 64 bytes, each combined with a constant. -/
def keyBlock (constant : ℕ) (key : List ℕ) : List ℕ :=
  let key := if 64 < key.length then sha256Digest key else key
  (key ++ List.replicate (64 - key.length) 0).map (· ^^^ constant)

/-- `hmac.new(key, message, hashlib.sha256).digest()`. -/
def hmacSha256 (key message : List ℕ) : List ℕ :=
  sha256Digest (keyBlock 0x5c key ++ sha256Digest (keyBlock 0x36 key ++ message))

/-- `bytes.hex()`. -/
def hexText (bytes : List ℕ) : String :=
  String.ofList (bytes.flatMap fun b => [Nat.digitChar (b / 16), Nat.digitChar (b % 16)])

/-- A character of base 64. -/
def base64Char (n : ℕ) : Char :=
  if n < 26 then Char.ofNat (65 + n)
  else if n < 52 then Char.ofNat (71 + n)
  else if n < 62 then Char.ofNat (n - 4)
  else if n = 62 then '+' else '/'

/-- Three bytes as four characters, and the padding of the last ones. -/
def base64Chars : List ℕ → List Char
  | a :: b :: c :: rest => base64Char (a / 4) :: base64Char (a % 4 * 16 + b / 16) ::
      base64Char (b % 16 * 4 + c / 64) :: base64Char (c % 64) :: base64Chars rest
  | [a, b] => [base64Char (a / 4), base64Char (a % 4 * 16 + b / 16), base64Char (b % 16 * 4), '=']
  | [a] => [base64Char (a / 4), base64Char (a % 4 * 16), '=', '=']
  | [] => []

/-- `base64.b64encode(bytes).decode("ascii")`. -/
def base64Text (bytes : List ℕ) : String := String.ofList (base64Chars bytes)

attribute [irreducible] hmacSha256 hexText base64Text

example : hexText (hmacSha256 (utf8 "key") (utf8 "The quick brown fox jumps over the lazy dog")) =
    "f7bc83f430538424b13298e6aa6fb143ef4d59a14946175997479dbc2d1a3cd8" := by
  decide +kernel

example : base64Text (utf8 "light w") = "bGlnaHQgdw==" := by decide +kernel

end Py
