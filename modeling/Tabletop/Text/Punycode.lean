import Tabletop.Text.Loose

/-!
# Punycode

The characters of ASCII stand in front of the last hyphen.  What follows it says
where the others are inserted, in the order of their codes: numbers whose digits
carry the less weight the further the text has grown.
-/

namespace Tabletop
namespace Text
namespace Punycode

/-- Why a text is none in this charset: a byte above ASCII, or anything else. -/
inductive Fault where
  | byte
  | digits
deriving DecidableEq

def digit? (b : UInt8) : Option Nat :=
  let n := b.toNat
  if 0x41 ≤ n ∧ n ≤ 0x5A then some (n - 0x41)
  else if 0x61 ≤ n ∧ n ≤ 0x7A then some (n - 0x61)
  else if 0x30 ≤ n ∧ n ≤ 0x39 then some (n - 0x16)
  else none

/-- The byte of a digit, in small letters. -/
def digitByte (digit : Nat) : UInt8 :=
  UInt8.ofNat (if digit < 26 then 0x61 + digit else 0x16 + digit)

/-- From which value on the digit at a place is not the last one. -/
def threshold (place bias : Nat) : Nat := min 26 (max 1 (36 * (place + 1) - bias))

theorem one_le_threshold (place bias : Nat) : 1 ≤ threshold place bias := by
  unfold threshold
  omega

/-- Reads a number: its value and the digits behind it. -/
def number? (bias place weight value : Nat) : List UInt8 → Option (Nat × List UInt8)
  | [] => none
  | b :: rest =>
    (digit? b).bind fun digit =>
      let value := value + digit * weight
      let t := threshold place bias
      if digit < t then some (value, rest)
      else number? bias (place + 1) (weight * (36 - t)) value rest

theorem length_of_number? {bias place weight value n : Nat} {bytes rest : List UInt8}
    (h : number? bias place weight value bytes = some (n, rest)) :
    rest.length < bytes.length := by
  induction bytes generalizing place weight value with
  | nil => simp [number?] at h
  | cons b bytes ih =>
    simp only [number?, Option.bind_eq_some_iff] at h
    obtain ⟨digit, -, h⟩ := h
    split at h
    · simp only [Option.some.injEq, Prod.mk.injEq] at h
      simp [h.2]
    · exact Nat.lt_succ_of_lt (ih h)

/-- Writes a number. -/
def writeNumber (bias place value : Nat) : List UInt8 :=
  let t := threshold place bias
  if value < t then [digitByte value]
  else
    digitByte (t + (value - t) % (36 - t)) ::
      writeNumber bias (place + 1) ((value - t) / (36 - t))
termination_by value
decreasing_by
  have := one_le_threshold place bias
  exact Nat.lt_of_le_of_lt (Nat.div_le_self _ _) (by omega)

/-- The steps that bring a number below the bound, and what is left of it. -/
def scale (value steps : Nat) : Nat × Nat :=
  if 455 < value then scale (value / 35) (steps + 36) else (value, steps)
termination_by value
decreasing_by omega

/-- The bias behind a number that was read at a text of a given length. -/
def adapt (value length : Nat) (isFirst : Bool) : Nat :=
  let value := if isFirst then value / 700 else value / 2
  let (value, steps) := scale (value + value / length) 0
  steps + 36 * value / (value + 38)

/-- Inserts the characters that some digits write.  `code` is the last one inserted
and `position` the place behind it. -/
def insertAll? (text : List Nat) (code position bias : Nat) (isFirst : Bool)
    (bytes : List UInt8) : Option (List Nat) :=
  match bytes with
  | [] => some text
  | b :: rest =>
    match h : number? bias 0 1 0 (b :: rest) with
    | none => none
    | some (value, behind) =>
      let size := text.length + 1
      let code := code + (position + value) / size
      let position := (position + value) % size
      if 0x10FFFF < code then none
      else
        insertAll? (text.take position ++ code :: text.drop position) code (position + 1)
          (adapt value size isFirst) false behind
termination_by bytes.length
decreasing_by exact length_of_number? h

/-- The bytes in front of the last hyphen and those behind it. -/
def cut (bytes : List UInt8) : List UInt8 × List UInt8 :=
  let behind := (bytes.reverse.takeWhile (· != 0x2D)).reverse
  (bytes.take (bytes.length - behind.length - 1), behind)

def decode (bytes : List UInt8) : Except Fault (List Nat) :=
  if bytes.any (0x80 ≤ ·) then .error .byte
  else
    let (front, behind) := cut bytes
    match insertAll? (front.map UInt8.toNat) 0x80 0 72 true behind with
    | some codes => .ok codes
    | none => .error .digits

/-! ## Writing -/

/-- Where the writing stands: the number for the next insertion, the bias, how long the
text has grown, and what has been written, last one first. -/
structure Writer where
  value : Nat
  bias : Nat
  length : Nat
  isFirst : Bool
  reversed : List UInt8

/-- Passes a character of the text while those with a given code are inserted. -/
def Writer.pass (code : Nat) (writer : Writer) (n : Nat) : Writer :=
  if n < code then { writer with value := writer.value + 1 }
  else if n = code then
    { value := 0
      bias := adapt writer.value (writer.length + 1) writer.isFirst
      length := writer.length + 1
      isFirst := false
      reversed := (writeNumber writer.bias 0 writer.value).reverse ++ writer.reversed }
  else writer

/-- Writes the insertions of codes, from the least to the greatest.  `next` is the least
code that has not been passed. -/
def writeAll (text : List Nat) (next : Nat) (writer : Writer) : List Nat → List UInt8
  | [] => writer.reversed.reverse
  | code :: codes =>
    let skipped := { writer with value := writer.value + (code - next) * (writer.length + 1) }
    let passed := text.foldl (Writer.pass code) skipped
    writeAll text (code + 1) { passed with value := passed.value + 1 } codes

/-- The codes above ASCII in a text, each once, from the least to the greatest. -/
def insertedCodes (text : List Nat) : List Nat :=
  ((text.filter (0x80 ≤ ·)).mergeSort (· ≤ ·)).eraseReps

/-- Writes a text.  Without characters of ASCII there is no hyphen either. -/
def encode (text : List Nat) : List UInt8 :=
  let front := (text.filter (· < 0x80)).map UInt8.ofNat
  let writer : Writer := ⟨0, 72, front.length, true, []⟩
  front ++ (if front.isEmpty then [] else [0x2D]) ++ writeAll text 0x80 writer (insertedCodes text)

end Punycode
end Text
end Tabletop
