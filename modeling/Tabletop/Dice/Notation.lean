import Tabletop.Ability
import Tabletop.Json

/-!
# Reading dice notation

    expression := term (("+" | "-") term)*
    term       := dice | number | ability | "PROF"
    dice       := [count] ("d" | "D") sides

The string is cut at every sign and the pieces are freed of blank ends; a piece is
then one term or none.  The first term has no sign.  The first fault from the
left is reported, and only then the faults of the expression as a whole.

Cutting goes by the codes of the letters, so it does not matter whether these are
characters.  A piece with half of a pair of surrogates in it is no term.
-/

namespace Tabletop
namespace Dice

open Text

/-!
## Dice expressions

An expression is a list of signed terms.  A term is a group of equal dice, a
number, the modifier of an ability or the proficiency bonus.  Its canonical
writing has no spaces, gives every count, and leaves the first plus sign out.
-/

/-- What a term adds or takes away.  A `void` term is a place in the expression
that holds none of the four; it has no text and no value. -/
inductive Body where
  | dice (count sides : Int)
  | number (value : Int)
  | ability (code : String)
  | proficiency
  | void
deriving DecidableEq

/-- Any whole number may be a sign; expressions that are written have `1` and `-1`. -/
structure Term where
  sign : Int
  body : Body
deriving DecidableEq

def proficiencyCode : String := "PROF"

namespace Body

def chars : Body → List Char
  | dice count sides => Decimal.signed count ++ 'd' :: Decimal.signed sides
  | number value => Decimal.signed value
  | ability code => code.toList
  | proficiency => proficiencyCode.toList
  | void => []

def isDice : Body → Bool
  | dice .. => true
  | _ => false

def diceCount : Body → Int
  | dice count _ => count
  | _ => 0

end Body

/-- The sign in front of a term, none for a plus at the beginning. -/
def signChars (first : Bool) (sign : Int) : List Char :=
  if sign < 0 then ['-'] else if first then [] else ['+']

def Term.chars (first : Bool) (term : Term) : List Char :=
  signChars first term.sign ++ term.body.chars

def renderChars : List Term → List Char
  | [] => []
  | term :: rest => term.chars true ++ rest.flatMap (Term.chars false)

def render (terms : List Term) : String := String.ofList (renderChars terms)

def totalDice : List Term → Int
  | [] => 0
  | term :: rest => term.body.diceCount + totalDice rest

@[simp] theorem renderChars_nil : renderChars [] = [] := rfl

@[simp] theorem totalDice_nil : totalDice [] = 0 := rfl

@[simp] theorem totalDice_cons (term : Term) (rest : List Term) :
    totalDice (term :: rest) = term.body.diceCount + totalDice rest := rfl

/-!
## Why a roll is refused

Each cause has one wording and says what it is about: the fragment of the text
at fault, the number of dice, or the score that the actor lacks.
-/

inductive InvalidRoll where
  | blank
  | leadingSign (fragment : Loose)
  | emptyTerm
  | tooManyDigits (fragment : Loose)
  | countBelowOne (fragment : Loose)
  | sidesMissing (fragment : Loose)
  | sidesBelowTwo (fragment : Loose)
  | countOverLimit (fragment : Loose) (limit : Int)
  | sidesOverLimit (fragment : Loose) (limit : Int)
  | numberTooLong (fragment : Loose)
  | unknownAbility (fragment : Loose)
  | unknownToken (fragment : Loose)
  | noDice
  | tooManyDice (total limit : Int)
  | actorRequired
  | scoreMissing (code : String)
  | bonusMissing
deriving DecidableEq

namespace InvalidRoll

def message : InvalidRoll → Loose
  | blank => "Dice expression must be a non-empty string"
  | leadingSign _ => "Dice expression cannot start with a sign"
  | emptyTerm => "Dice expression contains empty terms"
  | tooManyDigits _ => "Dice term has too many digits"
  | countBelowOne _ => "Dice count must be an integer greater than or equal to 1"
  | sidesMissing _ => "Dice term is missing its number of sides"
  | sidesBelowTwo _ => "Dice sides must be an integer greater than or equal to 2"
  | countOverLimit _ limit =>
    .text ("Dice count exceeds maximum allowed (" ++ Decimal.text limit ++ ")")
  | sidesOverLimit _ limit =>
    .text ("Dice sides exceed maximum allowed (" ++ Decimal.text limit ++ ")")
  | numberTooLong _ => "Number literal has too many digits"
  | unknownAbility fragment => .text "Unknown ability code: " ++ fragment
  | unknownToken fragment => .text "Unknown token in dice expression: " ++ fragment
  | noDice => "Dice expression must include at least one dice term"
  | tooManyDice total limit =>
    .text ("Dice expression rolls too many dice: " ++ Decimal.text total ++
      " (max " ++ Decimal.text limit ++ ")")
  | actorRequired => "actor context required for ability term"
  | scoreMissing code => .text ("Actor is missing ability score " ++ code)
  | bonusMissing => "Actor must provide profBonus when PROF modifier is used"

/-- The part of the text that is at fault, where a single term is. -/
def fragment? : InvalidRoll → Option Loose
  | leadingSign fragment | tooManyDigits fragment | countBelowOne fragment
  | sidesMissing fragment | sidesBelowTwo fragment | countOverLimit fragment _
  | sidesOverLimit fragment _ | numberTooLong fragment | unknownAbility fragment
  | unknownToken fragment => some fragment
  | _ => none

def details (cause : InvalidRoll) : Option Json :=
  match cause with
  | tooManyDice total _ => some (.record [("totalDice", .int total)])
  | scoreMissing code => some (.record [("missingAbility", .str code)])
  | bonusMissing => some (.record [("missingAbility", .str proficiencyCode)])
  | _ => cause.fragment?.map fun fragment => .record [("fragment", .ofLoose fragment)]

end InvalidRoll

/-! ## Reading expressions -/

/-- Bounds that keep an expression cheap to roll. -/
structure Limits where
  maxCount : Int := 100
  maxSides : Int := 1000
  maxTotal : Int := 1000
deriving DecidableEq

/-- The most digits of a count, of a number of sides or of a number. -/
def maxDigits : Nat := 10

variable {α : Type} [Letter α]

def isSign (letter : α) : Bool :=
  Letter.code letter == '+'.toNat || Letter.code letter == '-'.toNat

def signOf (letter : α) : Int := if Letter.code letter = '-'.toNat then -1 else 1

/-- The letters before the first sign, and each sign with the letters up to the next. -/
def cut : List α → List α × List (α × List α)
  | [] => ([], [])
  | c :: cs =>
    let (head, tail) := cut cs
    if isSign c then ([], (c, head) :: tail) else (c :: head, tail)

/-- What a term's text is made of. -/
inductive Token where
  | dice (count sides : List Char)
  | number (digits : List Char)
  | word (letters : List Char)
  | other

def Token.ofChars (body : List Char) : Token :=
  let count := body.takeWhile Char.isDigit
  match body.dropWhile Char.isDigit with
  | [] => if count.isEmpty then .other else .number count
  | c :: sides =>
    if (c = 'd' ∨ c = 'D') ∧ sides.all Char.isDigit then .dice count sides
    else if body.all Char.isAlpha then .word body
    else .other

def Token.isDice : Token → Bool
  | .dice .. => true
  | _ => false

def Token.of (body : List α) : Token := (chars? body).elim .other Token.ofChars

/-- Reads the count and the sides of a dice term; a count that is not written is one. -/
def readDice (limits : Limits) (fragment : Loose) (count sides : List Char) :
    Except InvalidRoll Body :=
  let n : Int := if count.isEmpty then 1 else Decimal.value count
  let m : Int := Decimal.value sides
  if maxDigits < count.length ∨ maxDigits < sides.length then .error (.tooManyDigits fragment)
  else if n < 1 then .error (.countBelowOne fragment)
  else if sides.isEmpty then .error (.sidesMissing fragment)
  else if m < 2 then .error (.sidesBelowTwo fragment)
  else if limits.maxCount < n then .error (.countOverLimit fragment limits.maxCount)
  else if limits.maxSides < m then .error (.sidesOverLimit fragment limits.maxSides)
  else .ok (.dice n m)

def readBody (limits : Limits) (body : List α) : Except InvalidRoll Body :=
  let fragment := Loose.ofLetters body
  if body.isEmpty then .error .emptyTerm
  else
    match Token.of body with
    | .dice count sides => readDice limits fragment count sides
    | .number digits =>
      if maxDigits < digits.length then .error (.numberTooLong fragment)
      else .ok (.number (Decimal.value digits))
    | .word letters =>
      let code := String.ofList (letters.map Char.toUpper)
      if (Ability.ofCode? code).isSome then .ok (.ability code)
      else if code = proficiencyCode then .ok .proficiency
      else .error (.unknownAbility fragment)
    | .other => .error (.unknownToken fragment)

/-- Why a string that begins with a sign is refused: with a minus sign before dice
it reads as a negative count. -/
def leadingSignError (sign : α) (body : List α) : InvalidRoll :=
  let fragment := Loose.ofLetters (sign :: body)
  if signOf sign = -1 ∧ (Token.of body).isDice then .countBelowOne fragment
  else .leadingSign fragment

/-- The signed pieces of a string. -/
def split (cs : List α) : Except InvalidRoll (List (Int × List α)) :=
  let (head, tail) := cut cs
  let head := trim isBlank head
  let tail := tail.map fun (sign, body) => (sign, trim isBlank body)
  match head, tail with
  | [], (sign, body) :: _ => .error (leadingSignError sign body)
  | _, _ => .ok ((1, head) :: tail.map fun (sign, body) => (signOf sign, body))

def readTerms (limits : Limits) : List (Int × List α) → Except InvalidRoll (List Term)
  | [] => .ok []
  | (sign, body) :: rest => do
    let body ← readBody limits body
    let rest ← readTerms limits rest
    return ⟨sign, body⟩ :: rest

/-- What is asked of an expression as a whole. -/
def checkWhole (limits : Limits) (terms : List Term) : Except InvalidRoll (List Term) :=
  if !terms.any (·.body.isDice) then .error .noDice
  else if limits.maxTotal < totalDice terms then
    .error (.tooManyDice (totalDice terms) limits.maxTotal)
  else .ok terms

def parseLetters (limits : Limits) (cs : List α) : Except InvalidRoll (List Term) := do
  let cs := trim isBlank cs
  if cs.isEmpty then .error .blank
  else
    let pieces ← split cs
    let terms ← readTerms limits pieces
    checkWhole limits terms

def parse (limits : Limits) : Loose → Except InvalidRoll (List Term)
  | .text value => parseLetters limits value.toList
  | .broken string => parseLetters limits string.codes

/-- Reads a value that should be the string of an expression. -/
def parseJson (limits : Limits) : Json → Except InvalidRoll (List Term)
  | .str text => parse limits text
  | .broken string => parse limits (.broken string)
  | _ => .error .blank

end Dice
end Tabletop
