/-!
# Loose strings

Codes up to `0x10FFFF` write a string, but not all of them are characters: half
of a surrogate pair may stand alone, and then the string is no text.  It can be
handed in, looked through and compared, though never written.

What is looked for in a string is told by the codes of its letters, so a text is
looked through as characters and any other string as codes.
-/

namespace Tabletop
namespace Text

/-- The character with a given code, which half of a pair has not. -/
def char? (n : Nat) : Option Char :=
  if h : n.isValidChar then some (Char.ofNatAux n h) else none

def isHighSurrogate (n : Nat) : Bool := 0xD800 ≤ n && n ≤ 0xDBFF

def isLowSurrogate (n : Nat) : Bool := 0xDC00 ≤ n && n ≤ 0xDFFF

/-- The code that a pair of surrogates stands for. -/
def joinSurrogates (high low : Nat) : Nat :=
  0x10000 + 0x400 * (high - 0xD800) + (low - 0xDC00)

/-! ## Letters -/

/-- What strings are made of: characters, or codes that need not be those of characters. -/
class Letter (α : Type) where
  code : α → Nat
  ofChar : Char → α
  code_ofChar (c : Char) : code (ofChar c) = c.toNat
  code_injective {x y : α} (hsame : code x = code y) : x = y

instance : Letter Char where
  code := Char.toNat
  ofChar c := c
  code_ofChar _ := rfl
  code_injective := Char.toNat_inj.mp

instance : Letter Nat where
  code n := n
  ofChar := Char.toNat
  code_ofChar _ := rfl
  code_injective := id

/-- The characters that some letters stand for, if each of them stands for one. -/
def chars? {α : Type} [Letter α] (letters : List α) : Option (List Char) :=
  (letters.map Letter.code).mapM char?

/-! ## Strings -/

/-- Codes that make no text: half of a pair stands alone among them. -/
structure Broken where
  codes : List Nat
  half : chars? codes = none := by decide
deriving DecidableEq

/-- A string: a text, or codes that make none. -/
inductive Loose where
  | text (value : String)
  | broken (string : Broken)
deriving DecidableEq

namespace Loose

instance : Coe String Loose := ⟨text⟩

/-- The string that some codes write. -/
def ofCodes (codes : List Nat) : Loose :=
  match half : chars? codes with
  | some cs => text (String.ofList cs)
  | none => broken ⟨codes, half⟩

/-- The string that some letters write. -/
def ofLetters {α : Type} [Letter α] (letters : List α) : Loose :=
  ofCodes (letters.map Letter.code)

def codes : Loose → List Nat
  | text value => value.toList.map Char.toNat
  | broken string => string.codes

instance : Append Loose where
  append
    | text value, text other => text (value ++ other)
    | string, other => ofCodes (string.codes ++ other.codes)

/-- How a code is shown: half of a pair as its three bytes, none of which is known. -/
def showCode (n : Nat) : List Char :=
  match char? n with
  | some c => [c]
  | none => ['\uFFFD', '\uFFFD', '\uFFFD']

/-- The text that is shown for a string. -/
def shown : Loose → String
  | text value => value
  | broken string => String.ofList (string.codes.flatMap showCode)

def beginsWith (string : Loose) (front : String) : Bool :=
  (front.toList.map Char.toNat).isPrefixOf string.codes

end Loose

/-!
## Blank characters

Two classes of characters count as empty space.  The space characters are the
25 with the Unicode property `White_Space`.  The blank characters are these and
the four information separators, which also end a line or a field of a record.
-/

variable {α : Type}

/-- The characters with the property `White_Space`. -/
def isSpace [Letter α] (letter : α) : Bool :=
  let n := Letter.code letter
  (0x09 ≤ n && n ≤ 0x0D) || n == 0x20 || n == 0x85 || n == 0xA0 || n == 0x1680 ||
    (0x2000 ≤ n && n ≤ 0x200A) || n == 0x2028 || n == 0x2029 || n == 0x202F ||
    n == 0x205F || n == 0x3000

/-- The space characters and the separators of files, groups, records and units. -/
def isBlank [Letter α] (letter : α) : Bool :=
  isSpace letter || (0x1C ≤ Letter.code letter && Letter.code letter ≤ 0x1F)

/-- What is left when the letters of a class are dropped at both ends. -/
def trim (drop : α → Bool) (letters : List α) : List α :=
  ((letters.dropWhile drop).reverse.dropWhile drop).reverse

@[simp] theorem trim_nil (drop : α → Bool) : trim drop [] = [] := rfl

/-- A text without its blank ends. -/
def stripBlank (text : String) : String :=
  String.ofList (trim isBlank text.toList)

end Text
end Tabletop
