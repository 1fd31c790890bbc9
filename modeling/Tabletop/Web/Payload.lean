import Tabletop.Store
import Tabletop.Random.Generator
import Tabletop.Validation

/-!
# What clients send

A client hands in the profile of a new actor, a patch for the profile of an
actor, or a request for a roll.
-/

namespace Tabletop

open Text Validation

/-- Changes to a profile: what is left out stays as it is. -/
structure Patch where
  name : Option String := none
  scores : Scores (Option Int) := .const none
  bonus : Option Int := none
deriving DecidableEq

/-- A seed in a request.  A string that is no text is taken but starts nothing. -/
inductive OrderedSeed where
  | seed (seed : Random.Seed)
  | broken

/-- A request for a roll.  The sheet, if there is one, counts before the actor. -/
structure RollOrder where
  expr : Json
  seed : Option OrderedSeed
  actorId : Option Int
  sheet : Option Sheet

/-- The names of the bonus, the one that counts first. -/
def bonusNames : List String := ["profBonus", "prof_bonus"]

def readName : Json → Checked String := textBetween 1 100

def readScore : Json → Checked Int := Whole.ofJsonBetween Store.minScore Store.maxScore

def readBonus : Json → Checked Int := Whole.ofJsonBetween 0 10

/-- A value for every ability that a record has under its code. -/
def readScores {α : Type} (read : Json → Checked α) (standard : α) (json : Json) :
    Checked (Scores α) :=
  (fieldsOf json).bind fun fields =>
    let entry (ability : Ability) := optional fields [ability.code] read standard
    ((entry .strength).both <| (entry .dexterity).both <| (entry .constitution).both <|
      (entry .intelligence).both <| (entry .wisdom).both (entry .charisma)).map
        fun (strength, dexterity, constitution, intelligence, wisdom, charisma) =>
          { strength, dexterity, constitution, intelligence, wisdom, charisma }

namespace Profile

def ofJson (json : Json) : Checked Profile :=
  (fieldsOf json).bind fun fields =>
    ((required fields "name" readName).both <|
      (optional fields ["abilities"] (readScores readScore NewActor.standardScore)
        (.const NewActor.standardScore)).both <|
      (optional fields bonusNames readBonus NewActor.standardBonus)).map
        fun (name, scores, bonus) => { name, scores := scores.map .int, bonus := .int bonus }

end Profile

namespace Patch

/-- Reads a patch.  Null stands for what is left out. -/
def ofJson (json : Json) : Checked Patch :=
  (fieldsOf json).bind fun fields =>
    ((optional fields ["name"] (orNull readName) none).both <|
      (optional fields ["abilities"] (orNull (readScores (orNull readScore) none)) none).both <|
      (optional fields bonusNames (orNull readBonus) none)).map
        fun (name, scores, bonus) => { name, scores := scores.getD (.const none), bonus }

/-- The scores that a patch gives, under their codes. -/
def dump (patch : Patch) : List (String × Cell) :=
  (patch.scores.map fun score => score.map .int).given

end Patch

namespace RollOrder

/-- Reads a seed: a text stays one, and anything else must stand for a whole number. -/
def readSeed : Json → Checked OrderedSeed
  | .str text => .ok (.seed (.text text))
  | .broken _ => .ok .broken
  | value =>
    match (Whole.ofJson value).inside "int" with
    | .ok n => .ok (.seed (.number n))
    | .error issues => .error (issues ++ [⟨["str"], .textType, .value value⟩])

/-- Reads a score under a code. -/
def readEntry (code : Loose) (score : Json) : Checked (Loose × Int) :=
  ((Whole.ofJson score).inside code.shown).map fun n => (code, n)

/-- The scores whose codes are texts.  No expression asks for any other. -/
def namedScores (entries : List (Loose × Int)) : List (String × Json) :=
  entries.filterMap fun (code, score) =>
    match code with
    | .text code => some (code, .int score)
    | .broken _ => none

/-- Reads a sheet, whose scores may stand under any codes. -/
def readSheet (json : Json) : Checked Sheet :=
  (fieldsOf json).bind fun fields =>
    let scores (value : Json) : Checked (List (Loose × Int)) :=
      (entriesOf value).bind fun entries =>
        Checked.all (entries.map fun (code, score) => readEntry code score)
    ((optional fields ["abilities"] scores []).both <|
      (optional fields bonusNames (orNull Whole.ofJson) none)).map
        fun (scores, bonus) => Sheet.ofScores (namedScores scores) (Json.ofInt? bonus)

/-- Reads a request for a roll.  The expression is taken as it is. -/
def ofJson (json : Json) : Checked RollOrder :=
  (fieldsOf json).bind fun fields =>
    ((optional fields ["expr"] .ok .null).both <|
      (optional fields ["seed"] (orNull readSeed) none).both <|
      (optional fields ["actorId", "actor_id"] (orNull Whole.ofJson) none).both <|
      (optional fields ["actor"] (orNull readSheet) none)).map
        fun (expr, seed, actorId, sheet) => { expr, seed, actorId, sheet }

end RollOrder
end Tabletop
