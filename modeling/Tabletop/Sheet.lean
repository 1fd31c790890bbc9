import Tabletop.Dice.Notation
import Tabletop.Record

/-!
# Character sheets

A sheet is the part of an actor that a roll can ask for: scores under their
codes and a proficiency bonus.  Whatever was entered is kept; only a whole number
can be used, and anything else counts as missing.
-/

namespace Tabletop

open Text

structure Sheet where
  scores : OrderedMap String Json
  bonus : Json

namespace Sheet

def modifier (sheet : Sheet) (code : String) : Except Dice.InvalidRoll Int :=
  match (sheet.scores.get? code).bind Json.int? with
  | some score => .ok (Ability.modifier score)
  | none => .error (.scoreMissing code)

def proficiency (sheet : Sheet) : Except Dice.InvalidRoll Int :=
  match sheet.bonus.int? with
  | some bonus => .ok bonus
  | none => .error .bonusMissing

/-- The sheet of scores under codes in any case. -/
def ofScores (scores : List (String × Json)) (bonus : Json) : Sheet where
  scores := OrderedMap.ofList (scores.map fun (code, score) => (upper code, score))
  bonus := bonus

/-- The scores of a record: none if they are left out or count as nothing. -/
def scoreRows? (rows : List (Label × Record)) : Option (List (Label × Record)) :=
  match Record.find? rows "abilities" with
  | none => some []
  | some record => if record.isVoid then some [] else record.rows?

/-- The sheet that a record describes, if it and its scores are mappings.  The
bonus has two names, and the first wins even over nothing. -/
def ofRecord? (record : Record) : Option Sheet := do
  let rows ← record.rows?
  let scores ← scoreRows? rows
  let bonus := (Record.find? rows "profBonus").orElse fun _ => Record.find? rows "prof_bonus"
  return {
    scores := OrderedMap.ofList (scores.map fun (label, score) => (label.code, score.toJson))
    bonus := (bonus.map Record.toJson).getD .null }

end Sheet

/-!
## Characters under construction

The six scores of a character are entered under their codes, in capitals or
not, any number of them at a time.  What is entered is kept as it is.
-/

/-- The ability that a label names: only a text can be the code of one. -/
def Ability.ofLabel? : Label → Option Ability
  | .text code => ofCode? (upper code)
  | _ => none

/-- Enters values under labels, from the left, up to the first label that names
no ability; that label is handed back. -/
def Scores.assign {α : Type} (scores : Scores α) : List (Label × α) → Scores α × Option Label
  | [] => (scores, none)
  | (label, value) :: rest =>
    match Ability.ofLabel? label with
    | some ability => (scores.set ability value).assign rest
    | none => (scores, some label)

structure Character where
  scores : Scores Json
  bonus : Json

namespace Character

def blank (bonus : Json) : Character := ⟨.const .null, bonus⟩

/-- Enters scores; hands back the label that stopped it, if one did. -/
def assign (character : Character) (entries : OrderedMap Label Json) :
    Character × Option Label :=
  let (scores, unknown) := character.scores.assign entries
  ({ character with scores }, unknown)

def sheet (character : Character) : Sheet := ⟨character.scores.toList, character.bonus⟩

end Character

end Tabletop
