import Tabletop.Json
import Tabletop.OrderedMap

/-!
# Checking what was handed in

A value that was handed in is read as what it should be, or there are issues with it, each with
the place where it stands.
-/

namespace Tabletop
namespace Validation

/-!
## Issues

What is wrong with a value that was handed in: where it stands, as the names
that lead to it from outside, the rule that it breaks, and the value itself.
-/

inductive Rule where
  | missing
  | wholeType
  | wholeText
  | wholeLength
  | noFraction
  | finite
  | boolText
  | textType
  | textTooShort
  | textTooLong
  | atLeast
  | atMost
  | record
  | mapping
  | readable
deriving DecidableEq

/-- The word by which a client knows a rule. -/
def Rule.name : Rule → String
  | missing => "missing"
  | wholeType => "int_type"
  | wholeText => "int_parsing"
  | wholeLength => "int_parsing_size"
  | noFraction => "int_from_float"
  | finite => "finite_number"
  | boolText => "bool_parsing"
  | textType => "string_type"
  | textTooShort => "string_too_short"
  | textTooLong => "string_too_long"
  | atLeast => "greater_than_equal"
  | atMost => "less_than_equal"
  | record => "model_attributes_type"
  | mapping => "dict_type"
  | readable => "json_invalid"

/-- What was handed in: a value, or bytes that nobody could read as one. -/
inductive Given where
  | value (value : Json)
  | bytes (bytes : List UInt8)

/-- What is missing is an issue of the record that should have it. -/
structure Issue where
  place : List String
  rule : Rule
  given : Given

/-- The same issue, seen from one level further out. -/
def Issue.inside (name : String) (issue : Issue) : Issue :=
  { issue with place := name :: issue.place }

/-- A value that keeps all rules, or everything that is wrong, in order. -/
abbrev Checked (α : Type) := Except (List Issue) α

namespace Checked

variable {α β : Type}

/-- A single issue at the value itself. -/
def fault (rule : Rule) (value : Json) : Checked α := .error [⟨[], rule, .value value⟩]

/-- Two values of which each is looked at, whatever is wrong with the other. -/
def both (a : Checked α) (b : Checked β) : Checked (α × β) :=
  match a, b with
  | .ok a, .ok b => .ok (a, b)
  | .ok _, .error issues => .error issues
  | .error issues, .ok _ => .error issues
  | .error issues, .error more => .error (issues ++ more)

def inside (name : String) (a : Checked α) : Checked α :=
  a.mapError (·.map (Issue.inside name))

def all : List (Checked α) → Checked (List α)
  | [] => .ok []
  | a :: rest => (both a (all rest)).map fun (a, rest) => a :: rest

@[simp] theorem both_eq_ok {a : Checked α} {b : Checked β} {p : α × β} :
    both a b = .ok p ↔ a = .ok p.1 ∧ b = .ok p.2 := by
  obtain ⟨x, y⟩ := p
  cases a <;> cases b <;> simp [both]

@[simp] theorem inside_eq_ok {name : String} {a : Checked α} {x : α} :
    a.inside name = .ok x ↔ a = .ok x := by
  cases a with
  | ok => exact Iff.rfl
  | error => exact ⟨nofun, nofun⟩

end Checked

/-!
## Fields of a record

A field is looked up under one name or under several, of which the first that the
record has counts, even if its value is null.  Fields that nobody asks for do
not matter.
-/

open Text

variable {α : Type}

/-- The fields of a value that should be a record. -/
def fieldsOf : Json → Checked (OrderedMap Loose Json)
  | .object fields => .ok fields
  | value => .fault .record value

/-- The fields of a value that should be a mapping under any names. -/
def entriesOf : Json → Checked (OrderedMap Loose Json)
  | .object fields => .ok fields
  | value => .fault .mapping value

/-- The first of several names that a record has, with its value. -/
def findField? (fields : OrderedMap Loose Json) (names : List String) : Option (String × Json) :=
  names.findSome? fun name => (fields.get? (.text name)).map fun value => (name, value)

def required (fields : OrderedMap Loose Json) (name : String) (read : Json → Checked α) :
    Checked α :=
  match fields.get? (.text name) with
  | some value => (read value).inside name
  | none => Checked.inside name (.fault .missing (.object fields))

def optional (fields : OrderedMap Loose Json) (names : List String) (read : Json → Checked α)
    (standard : α) : Checked α :=
  match findField? fields names with
  | some (name, value) => (read value).inside name
  | none => .ok standard

/-- Null, or a value of another kind. -/
def orNull (read : Json → Checked α) : Json → Checked (Option α)
  | .null => .ok none
  | value => (read value).map some

/-- A text of so many characters at least and at most. -/
def textBetween (low high : Nat) : Json → Checked String
  | .str text =>
    if text.length < low then .fault .textTooShort (.str text)
    else if high < text.length then .fault .textTooLong (.str text)
    else .ok text
  | value => .fault .textType value

/-!
## Whole numbers from lenient input

A whole number may come as a number without fraction, as a truth value, or as a
text.  In a text space may surround it, a sign and zeros may stand in front, a
minus sign also behind the zeros, single underscores may part its digits and a
point with zeros may follow.
-/

namespace Whole

/-- The most digits of a number. -/
def maxDigits : Nat := 4300

/-- The number that plain digits write, without leading zeros. -/
def ofDigits? (cs : List Char) : Option Nat :=
  if !cs.isEmpty && cs.all Char.isDigit && (cs.head? != some '0' || cs.length == 1) then
    some (Decimal.value cs)
  else none

/-- The sign in front of a text, if it is a minus sign, and the rest. -/
def splitMinus : List Char → Bool × List Char
  | '-' :: cs => (true, cs)
  | cs => (false, cs)

/-- The number that a plain text writes. -/
def ofPlain? (cs : List Char) : Option Int :=
  let (negative, digits) := splitMinus cs
  (ofDigits? digits).map fun n => if negative then -(n : Int) else n

/-- Whether a text begins as a plain number does and has too many digits there,
whatever follows them. -/
def isOverlong (cs : List Char) : Bool :=
  let digits := (splitMinus cs).2.takeWhile Char.isDigit
  digits.head? != some '0' && maxDigits < digits.length

/-- Drops the plus sign in front, after which no minus sign may follow. -/
def dropPlus? : List Char → Option (List Char)
  | '+' :: '-' :: _ => none
  | '+' :: cs => some cs
  | cs => some cs

/-- What follows the zeros and underscores after a leading zero: the number
proper, which may have its minus sign here.  `last` is the character that was
passed last; it stays when nothing or a point follows it. -/
def afterZero? (last : Char) : List Char → Option (List Char)
  | [] => some [last]
  | c :: cs =>
    if c = '0' ∨ c = '_' then afterZero? c cs
    else if c = '.' then some (last :: c :: cs)
    else if c.isDigit ∨ c = '-' then some (c :: cs)
    else none

/-- Drops leading zeros. -/
def dropZeros? : List Char → Option (List Char)
  | [] => none
  | c :: cs =>
    if c = '0' then afterZero? c cs
    else if c.isDigit then some (c :: cs)
    else none

/-- Drops a point and the zeros after it, if there are some and nothing else
follows the point. -/
def dropPlaces (cs : List Char) : List Char :=
  match cs.dropWhile (· != '.') with
  | _ :: places =>
    if !places.isEmpty && places.all (· == '0') then cs.takeWhile (· != '.') else cs
  | [] => cs

def hasDoubleUnderscore : List Char → Bool
  | a :: b :: cs => (a == '_' && b == '_') || hasDoubleUnderscore (b :: cs)
  | _ => false

/-- Drops underscores, if each of them stands alone between other characters. -/
def dropUnderscores (cs : List Char) : List Char :=
  if cs.head? == some '_' || cs.getLast? == some '_' || hasDoubleUnderscore cs then cs
  else cs.filter (· != '_')

/-- The plain text of a number that is written with liberties. -/
def plain? (cs : List Char) : Option (List Char) := do
  let cs ← dropPlus? (trim isSpace cs)
  let (negative, cs) := splitMinus cs
  let cs ← dropZeros? cs
  let cs := dropUnderscores (dropPlaces cs)
  return if negative then '-' :: cs else cs

/-- The number that a text writes with liberties. -/
def ofLenient? (cs : List Char) : Option Int :=
  (plain? cs).bind fun cs => if isOverlong cs then none else ofPlain? cs

/-- The number that a text writes. -/
def ofText (text : String) : Checked Int :=
  let cs := text.toList
  if isOverlong cs then .fault .wholeLength (.str text)
  else
    match (ofPlain? cs).orElse fun _ => ofLenient? cs with
    | some n => .ok n
    | none => .fault .wholeText (.str text)

/-- The number that a floating point number is, within 64 bits. -/
def ofFloat (x : Binary64) : Checked Int :=
  if !x.isFinite then .fault .finite (.float x)
  else
    match x.whole? with
    | none => .fault .noFraction (.float x)
    | some n =>
      if n.natAbs < 9223372036854775808 then .ok n else .fault .wholeLength (.float x)

/-- The number that a value stands for. -/
def ofJson : Json → Checked Int
  | .int n => .ok n
  | .bool b => .ok (if b then 1 else 0)
  | .float x => ofFloat x
  | .str text => ofText text
  | value => .fault .wholeType value

/-- A number between two bounds, found in a value. -/
def between (low high : Int) (value : Json) (n : Int) : Checked Int :=
  if n < low then .fault .atLeast value
  else if high < n then .fault .atMost value
  else .ok n

theorem between_eq_ok {low high n m : Int} {value : Json} :
    between low high value n = .ok m ↔ m = n ∧ low ≤ n ∧ n ≤ high := by
  unfold between Checked.fault
  split
  · simp; omega
  · split
    · simp; omega
    · simp; omega

/-- A number between two bounds that a value stands for. -/
def ofJsonBetween (low high : Int) (value : Json) : Checked Int :=
  (ofJson value).bind (between low high value)

end Whole
end Validation
end Tabletop
