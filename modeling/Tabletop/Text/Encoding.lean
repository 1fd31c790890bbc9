import Tabletop.Text.Loose

/-!
# Bytes of texts

A text is written as bytes in one of the encoding forms of Unicode, and a byte that a text may not
hold as a percent escape.  Bytes may write no text.
-/

namespace Tabletop
namespace Text

/-!
## UTF-8

Bytes are read one at a time by a machine that knows how many continuation
bytes it still expects and between which bounds the next one must lie.  A byte
that does not fit ends the character as faulty and is read again as a first
byte, so one fault covers the longest run of bytes that could have begun a
character.

Three bytes could also write half of a surrogate pair, which is no character.
The machine is lenient if it takes such codes as well.
-/

namespace Utf8

/-- Between characters, or inside one: `left` bytes to come, the next one
between `low` and `high`, and `code` the bits read so far. -/
inductive State where
  | start
  | inside (left code low high : Nat)

/-- The state after a byte that opens a longer character. -/
def State.opening (lenient : Bool) (b : Nat) : Option State :=
  if 0xC2 ≤ b ∧ b ≤ 0xDF then some (.inside 1 (b - 0xC0) 0x80 0xBF)
  else if b = 0xE0 then some (.inside 2 0 0xA0 0xBF)
  else if b = 0xED then some (.inside 2 0xD 0x80 (if lenient then 0xBF else 0x9F))
  else if 0xE1 ≤ b ∧ b ≤ 0xEF then some (.inside 2 (b - 0xE0) 0x80 0xBF)
  else if b = 0xF0 then some (.inside 3 0 0x90 0xBF)
  else if b = 0xF4 then some (.inside 3 4 0x80 0x8F)
  else if 0xF1 ≤ b ∧ b ≤ 0xF3 then some (.inside 3 (b - 0xF0) 0x80 0xBF)
  else none

/-- Reads a first byte: the code that it completes, if any, and the next state.
A fault is written `none`. -/
def State.first (lenient : Bool) (b : Nat) : List (Option Nat) × State :=
  if b < 0x80 then ([some b], .start)
  else
    match State.opening lenient b with
    | some state => ([], state)
    | none => ([none], .start)

def State.read (lenient : Bool) (state : State) (b : Nat) : List (Option Nat) × State :=
  match state with
  | .start => State.first lenient b
  | .inside left code low high =>
    if low ≤ b ∧ b ≤ high then
      let code := 64 * code + (b - 0x80)
      if left = 1 then ([some code], .start)
      else ([], .inside (left - 1) code 0x80 0xBF)
    else
      let (out, state) := State.first lenient b
      (none :: out, state)

/-- A character cut off by the end of the bytes is a fault. -/
def State.finish : State → List (Option Nat)
  | .start => []
  | .inside .. => [none]

/-- The codes that a list of bytes writes, `none` for each fault. -/
def scan (lenient : Bool) (bytes : List UInt8) : List (Option Nat) :=
  let (out, state) := bytes.foldl
    (fun (out, state) b =>
      let (new, state) := state.read lenient b.toNat
      (new.reverse ++ out, state))
    (([] : List (Option Nat)), State.start)
  out.reverse ++ state.finish

/-- The text of the bytes, with the replacement character for each fault. -/
def decodeLossy (bytes : List UInt8) : List Char :=
  (scan false bytes).map fun
    | some code => Char.ofNat code
    | none => '\uFFFD'

/-- The text of the bytes, if there is no fault in them. -/
def decode? (bytes : List UInt8) : Option (List Char) :=
  (scan false bytes).mapM fun code => code.map Char.ofNat

def encode (text : String) : List UInt8 :=
  text.toUTF8.toList

end Utf8

/-!
## Finding the encoding of a text

A text that begins with an ASCII character shows its encoding by the zero bytes
near its front, unless a byte order mark names it outright.  The three encoding
forms of Unicode are told apart in this way, the wider two in either byte order.

Half of a surrogate pair may stand alone in each of them.
-/

inductive Encoding where
  | utf8
  | utf16 (bigEndian : Bool)
  | utf32 (bigEndian : Bool)
deriving DecidableEq

namespace Encoding

/-- The encoding that a byte order mark at the front names, and the bytes after it. -/
def ofMark? : List UInt8 → Option (Encoding × List UInt8)
  | 0x00 :: 0x00 :: 0xFE :: 0xFF :: rest => some (.utf32 true, rest)
  | 0xFF :: 0xFE :: 0x00 :: 0x00 :: rest => some (.utf32 false, rest)
  | 0xFE :: 0xFF :: rest => some (.utf16 true, rest)
  | 0xFF :: 0xFE :: rest => some (.utf16 false, rest)
  | 0xEF :: 0xBB :: 0xBF :: rest => some (.utf8, rest)
  | _ => none

/-- The encoding that the zero bytes at the front suggest. -/
def ofZeros : List UInt8 → Encoding
  | [a, b] =>
    if a = 0 then .utf16 true else if b = 0 then .utf16 false else .utf8
  | a :: b :: c :: d :: _ =>
    if a = 0 then if b = 0 then .utf32 true else .utf16 true
    else if b = 0 then
      if c = 0 ∧ d = 0 then .utf32 false else .utf16 false
    else .utf8
  | _ => .utf8

/-- The encoding of some bytes, and the bytes without their byte order mark. -/
def detect (bytes : List UInt8) : Encoding × List UInt8 :=
  (ofMark? bytes).getD (ofZeros bytes, bytes)

/-- The codes of bytes of ASCII. -/
def ascii? (bytes : List UInt8) : Option (List Nat) :=
  if bytes.all (· < 0x80) then some (bytes.map UInt8.toNat) else none

/-- Numbers of two bytes each. -/
def pairs (bigEndian : Bool) : List UInt8 → Option (List Nat)
  | [] => some []
  | [_] => none
  | a :: b :: rest =>
    let (high, low) := if bigEndian then (a, b) else (b, a)
    (pairs bigEndian rest).map ((256 * high.toNat + low.toNat) :: ·)

/-- Numbers of four bytes each. -/
def quads (bigEndian : Bool) : List UInt8 → Option (List Nat)
  | [] => some []
  | a :: b :: c :: d :: rest =>
    let bytes := if bigEndian then [a, b, c, d] else [d, c, b, a]
    let code := bytes.foldl (fun n x => 256 * n + x.toNat) 0
    (quads bigEndian rest).map (code :: ·)
  | _ => none

/-- The codes that sixteen-bit units write; a surrogate without partner is a code. -/
def codesOfUnits : List Nat → List Nat
  | [] => []
  | [a] => [a]
  | a :: b :: rest =>
    if isHighSurrogate a && isLowSurrogate b then joinSurrogates a b :: codesOfUnits rest
    else a :: codesOfUnits (b :: rest)

/-- Reads bytes in a given encoding. -/
def decodeIn? (encoding : Encoding) (bytes : List UInt8) : Option (List Nat) :=
  match encoding with
  | .utf8 => (Utf8.scan true bytes).mapM id
  | .utf16 bigEndian => (pairs bigEndian bytes).map codesOfUnits
  | .utf32 bigEndian =>
    (quads bigEndian bytes).bind fun codes =>
      if codes.all (· < 0x110000) then some codes else none

/-- Reads bytes in the encoding that they show. -/
def decode? (bytes : List UInt8) : Option (List Nat) :=
  let (encoding, rest) := detect bytes
  decodeIn? encoding rest

end Encoding

/-!
## Percent escapes

Where a text may not hold every byte, a byte is written as a percent sign and two
hexadecimal digits.  A percent sign that begins no such escape stands for itself.
-/

namespace Percent

def digit? (b : UInt8) : Option UInt8 :=
  if 0x30 ≤ b ∧ b ≤ 0x39 then some (b - 0x30)
  else if 0x41 ≤ b ∧ b ≤ 0x46 then some (b - 0x37)
  else if 0x61 ≤ b ∧ b ≤ 0x66 then some (b - 0x57)
  else none

def byte? (high low : UInt8) : Option UInt8 :=
  (digit? high).bind fun h => (digit? low).map fun l => 16 * h + l

/-- The bytes that a text with escapes stands for. -/
def decode : List UInt8 → List UInt8
  | b :: high :: low :: rest =>
    match if b = 0x25 then byte? high low else none with
    | some byte => byte :: decode rest
    | none => b :: decode (high :: low :: rest)
  | bytes => bytes

def digitChar (n : UInt8) : Char :=
  Char.ofNat (if n < 10 then 0x30 + n.toNat else 0x37 + n.toNat)

/-- A byte as it is if it is safe, else escaped. -/
def encodeByte (safe : Char → Bool) (b : UInt8) : List Char :=
  let c := Char.ofNat b.toNat
  if safe c then [c] else ['%', digitChar (b / 16), digitChar (b % 16)]

def encode (safe : Char → Bool) (bytes : List UInt8) : List Char :=
  bytes.flatMap (encodeByte safe)

/-- A character as it is if it is safe, else escaped. -/
def encodeChar (safe : Char → Bool) (c : Char) : List Char :=
  if safe c then [c] else encode (fun _ => false) (Utf8.encode c.toString)

/-- A text in which some escapes may stand already; they stay. -/
def complete (safe : Char → Bool) : List Char → List Char
  | c :: high :: low :: rest =>
    let isEscape := c == '%' && isDigit high && isDigit low
    if isEscape then c :: high :: low :: complete safe rest
    else encodeChar safe c ++ complete safe (high :: low :: rest)
  | cs => cs.flatMap (encodeChar safe)
where
  isDigit (c : Char) : Bool := c.toNat < 0x80 && (digit? (UInt8.ofNat c.toNat)).isSome

def isUnreserved (c : Char) : Bool :=
  c.isAlphanum || c == '-' || c == '.' || c == '_' || c == '~'

end Percent

/-!
## Faults of charsets

Why some bytes write no string.
-/

/-- Why there is no string: the bytes do not fit the charset, or the charset fails on them. -/
inductive CharsetFault where
  | unfit
  | failure
deriving DecidableEq

end Text
end Tabletop
