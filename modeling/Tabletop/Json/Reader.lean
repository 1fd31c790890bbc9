import Tabletop.Text.Number
import Tabletop.Json
import Tabletop.OrderedMap
import Tabletop.Text.Encoding

/-!
# Reading JSON

A text is first cut into tokens, character by character, and the tokens are then
read by a machine with a stack of the lists and records still open.  Both walk
their input once, so depth of nesting costs no recursion.

Beyond the standard, the three words for what is not a number are read.  Of two
fields of one name the later gives the value and the earlier the place.  A whole
number of more than 4300 digits and a nesting that is too deep are refused as
such; they are no errors of form.
-/

namespace Tabletop
namespace Json

open Text

inductive ReadError where
  | malformed
  | overlong
  | tooDeep
deriving DecidableEq

inductive Token where
  | openList
  | closeList
  | openRecord
  | closeRecord
  | comma
  | colon
  | text (string : Loose)
  | scalar (value : Json)
  | overlong
  | fault

/-- The longest whole number that is read. -/
def maxDigits : Nat := 4300

/-- The most lists and records that may be open at a time. -/
def maxDepth : Nat := 960

def spanDigits (cs : List Char) : List Char × List Char :=
  (cs.takeWhile Char.isDigit, cs.dropWhile Char.isDigit)

/-- The digits after a point, and what follows them. -/
def fraction? : List Char → Option (List Char × List Char)
  | '.' :: cs =>
    match spanDigits cs with
    | ([], _) => none
    | found => some found
  | _ => none

/-- The power of ten, and what follows it. -/
def exponent? : List Char → Option (Int × List Char)
  | e :: cs =>
    if e = 'e' ∨ e = 'E' then
      let (negative, cs) :=
        match cs with
        | '-' :: rest => (true, rest)
        | '+' :: rest => (false, rest)
        | _ => (false, cs)
      match spanDigits cs with
      | ([], _) => none
      | (digits, rest) =>
        let n : Int := Decimal.value digits
        some (if negative then -n else n, rest)
    else none
  | [] => none

/-- The number that a word without its minus sign writes. -/
def Token.ofMagnitude (negative : Bool) (cs : List Char) : Token :=
  let (whole, rest) := spanDigits cs
  if whole.isEmpty || (whole.head? == some '0' && whole.length != 1) then .fault
  else
    let (places, rest) := (fraction? rest).getD ([], rest)
    let (power, rest, isExponent) :=
      match exponent? rest with
      | some (power, rest) => (power, rest, true)
      | none => (0, rest, false)
    if places.isEmpty && !isExponent then
      if maxDigits < whole.length then .overlong
      else if rest.isEmpty then
        let n : Int := Decimal.value whole
        .scalar (.int (if negative then -n else n))
      else .fault
    else if rest.isEmpty then
      .scalar (.float (.ofDecimal negative (Decimal.value (whole ++ places))
        (power - places.length)))
    else .fault

/-- The token that a run of characters outside of strings writes. -/
def Token.ofWord (cs : List Char) : Token :=
  if cs = "null".toList then .scalar .null
  else if cs = "true".toList then .scalar (.bool true)
  else if cs = "false".toList then .scalar (.bool false)
  else if cs = "NaN".toList then .scalar (.float .nan)
  else if cs = "Infinity".toList then .scalar (.float (.infinite false))
  else if cs = "-Infinity".toList then .scalar (.float (.infinite true))
  else
    match cs with
    | '-' :: rest => Token.ofMagnitude true rest
    | _ => Token.ofMagnitude false cs

/-- Where the cutting of a text into tokens stands.  A string is kept as its
codes, last one first; `high` says that the last one is half of a pair that was
escaped, for which the other half may follow as an escape. -/
inductive Mode where
  | between
  | word (reversed : List Char)
  | text (reversed : List Nat) (high : Bool)
  | escape (reversed : List Nat) (high : Bool)
  | digits (reversed : List Nat) (high : Bool) (value left : Nat)

def isLayout (c : Char) : Bool := c == ' ' || c == '\t' || c == '\n' || c == '\r'

def punctuation? (c : Char) : Option Token :=
  if c = '[' then some .openList
  else if c = ']' then some .closeList
  else if c = '{' then some .openRecord
  else if c = '}' then some .closeRecord
  else if c = ',' then some .comma
  else if c = ':' then some .colon
  else none

/-- The code that a letter after a backslash stands for. -/
def escaped? (c : Char) : Option Nat :=
  if c = '"' ∨ c = '\\' ∨ c = '/' then some c.toNat
  else if c = 'b' then some 8
  else if c = 'f' then some 12
  else if c = 'n' then some 10
  else if c = 'r' then some 13
  else if c = 't' then some 9
  else none

def hexDigit? (c : Char) : Option Nat :=
  if '0' ≤ c ∧ c ≤ '9' then some (c.toNat - '0'.toNat)
  else if 'a' ≤ c ∧ c ≤ 'f' then some (c.toNat - 'a'.toNat + 10)
  else if 'A' ≤ c ∧ c ≤ 'F' then some (c.toNat - 'A'.toNat + 10)
  else none

/-- A string goes on with a code that was escaped. -/
def Mode.unescaped (reversed : List Nat) (high : Bool) (value : Nat) : Mode :=
  match reversed with
  | first :: rest =>
    if high && isLowSurrogate value then .text (joinSurrogates first value :: rest) false
    else .text (value :: reversed) (isHighSurrogate value)
  | [] => .text [value] (isHighSurrogate value)

/-- Reads a character outside of strings and words. -/
def Mode.start (c : Char) : List Token × Mode :=
  if isLayout c then ([], .between)
  else if c = '"' then ([], .text [] false)
  else
    match punctuation? c with
    | some token => ([token], .between)
    | none => ([], .word [c])

/-- Reads one character: the tokens that it ends, last one first, and the new mode. -/
def Mode.read (mode : Mode) (c : Char) : List Token × Mode :=
  match mode with
  | .between => Mode.start c
  | .word cs =>
    if isLayout c || c == '"' || (punctuation? c).isSome then
      let (tokens, mode) := Mode.start c
      (tokens ++ [Token.ofWord cs.reverse], mode)
    else ([], .word (c :: cs))
  | .text codes high =>
    if c = '"' then ([.text (.ofCodes codes.reverse)], .between)
    else if c = '\\' then ([], .escape codes high)
    else if c.toNat < 0x20 then ([.fault], .between)
    else ([], .text (c.toNat :: codes) false)
  | .escape codes high =>
    if c = 'u' then ([], .digits codes high 0 4)
    else
      match escaped? c with
      | some code => ([], .text (code :: codes) false)
      | none => ([.fault], .between)
  | .digits codes high value left =>
    match hexDigit? c with
    | some digit =>
      let value := 16 * value + digit
      if left = 1 then ([], Mode.unescaped codes high value)
      else ([], .digits codes high value (left - 1))
    | none => ([.fault], .between)

/-- Reads half of a pair, which may stand in a string only. -/
def Mode.readHalf (mode : Mode) (code : Nat) : List Token × Mode :=
  match mode with
  | .text codes _ => ([], .text (code :: codes) false)
  | .word cs => ([.fault, Token.ofWord cs.reverse], .between)
  | _ => ([.fault], .between)

def Mode.readCode (mode : Mode) (code : Nat) : List Token × Mode :=
  match char? code with
  | some c => mode.read c
  | none => mode.readHalf code

def Mode.finish : Mode → List Token
  | .between => []
  | .word cs => [Token.ofWord cs.reverse]
  | _ => [.fault]

def tokens (codes : List Nat) : List Token :=
  let (found, mode) := codes.foldl
    (fun (found, mode) code =>
      let (new, mode) := mode.readCode code
      (new ++ found, mode))
    (([] : List Token), Mode.between)
  (mode.finish ++ found).reverse

/-- A list or a record that is still open, its contents last one first. -/
inductive Frame where
  | list (reversed : List Json)
  | record (reversed : List (Loose × Json)) (name : Loose)

inductive Phase where
  | value
  | firstItem
  | firstName
  | name
  | colon
  | separator
  | finished (value : Json)

structure Reader where
  stack : List Frame
  phase : Phase

namespace Reader

def start : Reader := ⟨[], .value⟩

def complete (stack : List Frame) (value : Json) : Reader :=
  match stack with
  | [] => ⟨[], .finished value⟩
  | .list items :: rest => ⟨.list (value :: items) :: rest, .separator⟩
  | .record fields name :: rest =>
    ⟨.record ((name, value) :: fields) name :: rest, .separator⟩

def push (stack : List Frame) (frame : Frame) (phase : Phase) : Except ReadError Reader :=
  if stack.length < maxDepth then .ok ⟨frame :: stack, phase⟩ else .error .tooDeep

/-- Reads a token at a place where a value may stand. -/
def readValue (stack : List Frame) : Token → Except ReadError Reader
  | .scalar value => .ok (complete stack value)
  | .text string => .ok (complete stack (ofLoose string))
  | .openList => push stack (.list []) .firstItem
  | .openRecord => push stack (.record [] (.text "")) .firstName
  | .overlong => .error .overlong
  | _ => .error .malformed

def close (stack : List Frame) (token : Token) : Except ReadError Reader :=
  match token, stack with
  | .closeList, .list items :: rest => .ok (complete rest (.list items.reverse))
  | .closeRecord, .record fields _ :: rest =>
    .ok (complete rest (.object (OrderedMap.ofList fields.reverse)))
  | _, _ => .error .malformed

def read (reader : Reader) (token : Token) : Except ReadError Reader :=
  let stack := reader.stack
  match reader.phase, token, stack with
  | .value, token, _ => readValue stack token
  | .firstItem, .closeList, _ => close stack .closeList
  | .firstItem, token, _ => readValue stack token
  | .firstName, .closeRecord, _ => close stack .closeRecord
  | .firstName, .text name, .record fields _ :: rest => .ok ⟨.record fields name :: rest, .colon⟩
  | .name, .text name, .record fields _ :: rest => .ok ⟨.record fields name :: rest, .colon⟩
  | .colon, .colon, _ => .ok ⟨stack, .value⟩
  | .separator, .comma, .list _ :: _ => .ok ⟨stack, .value⟩
  | .separator, .comma, .record .. :: _ => .ok ⟨stack, .name⟩
  | .separator, token, _ => close stack token
  | _, _, _ => .error .malformed

/-- The value, when nothing is open any more. -/
def finish (reader : Reader) : Except ReadError Json :=
  match reader.phase with
  | .finished value => .ok value
  | _ => .error .malformed

end Reader

/-- Reads a string of codes, among which halves of pairs may stand. -/
def readCodes (codes : List Nat) : Except ReadError Json := do
  let reader ← (tokens codes).foldlM Reader.read Reader.start
  reader.finish

def read (cs : List Char) : Except ReadError Json := readCodes (cs.map Char.toNat)

end Json
end Tabletop
