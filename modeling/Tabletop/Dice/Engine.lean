import Tabletop.Random.Source
import Tabletop.Sheet

/-!
# The dice engine

An engine has limits and a source of its own, which it uses up from roll to
roll.  A roll that brings a source uses that one, a roll with a seed uses the
source of the seed, and only the others draw from the engine.
-/

namespace Tabletop
namespace Dice

open Tabletop.Random

/-!
## Rolling an expression

First every term that rolls nothing is resolved, from the left, so that a roll
that fails for want of a score draws no sample.  Then the dice are rolled in the
order in which they are written, one sample each.
-/

/-- Why a roll does not come about. -/
inductive Fault where
  | invalid (cause : InvalidRoll)
  | badSample (sample : Sample)
  | sidesTooLarge
  | voidTerm
deriving DecidableEq

/-- One die with its face and the sign of its group, or a signed modifier. -/
inductive Part where
  | die (value sides sign : Int)
  | modifier (value : Int)
deriving DecidableEq

namespace Part

def contribution : Part → Int
  | die value _ sign => sign * value
  | modifier value => value

/-- The sign of a die is written only when it is negative. -/
def toJson : Part → Json
  | die value sides sign =>
    .record ([("type", .str "die"), ("value", .int value), ("sides", .int sides)] ++
      if sign < 0 then [("sign", .int (-1))] else [])
  | modifier value => .record [("type", .str "mod"), ("value", .int value)]

end Part

/-- The face that a sample shows on a die: the sample times the sides, rounded
as floating point numbers are, then down, counted from one. -/
def face (sides : Int) (sample : Sample) : Except Fault Int :=
  if !sample.inUnitInterval then .error (.badSample sample)
  else
    match sample with
    | .whole n => .ok (n * sides + 1)
    | .real x =>
      let sides := Binary64.ofInt sides
      if sides.isInfinite then .error .sidesTooLarge
      else .ok (((x.mul sides).floor?).getD 0 + 1)

/-- What is left of a term when its modifier is known. -/
inductive Step where
  | dice (sign count sides : Int)
  | modifier (value : Int)
deriving DecidableEq

/-- The value of a term that asks for the actor. -/
def withActor (sheet : Option Sheet) (value : Sheet → Except Fault Int) : Except Fault Int :=
  match sheet with
  | none => .error (.invalid .actorRequired)
  | some sheet => value sheet

def Term.resolve (sheet : Option Sheet) (term : Term) : Except Fault Step :=
  let signed (value : Except Fault Int) := value.map fun v => Step.modifier (term.sign * v)
  match term.body with
  | .dice count sides => .ok (.dice term.sign count sides)
  | .number value => signed (.ok value)
  | .ability code => signed (withActor sheet fun s => (s.modifier code).mapError .invalid)
  | .proficiency => signed (withActor sheet fun s => s.proficiency.mapError .invalid)
  | .void => signed (withActor sheet fun _ => .error .voidTerm)

/-- Finds the modifiers of all terms, from the left. -/
def resolve (sheet : Option Sheet) : List Term → Except Fault (List Step)
  | [] => .ok []
  | term :: rest => do
    let step ← term.resolve sheet
    let steps ← resolve sheet rest
    return step :: steps

def rollDice (sign sides : Int) : Nat → Source → Except Fault (List Part) × Source
  | 0, source => (.ok [], source)
  | count + 1, source =>
    let (sample, source) := source.next
    match face sides sample with
    | .error fault => (.error fault, source)
    | .ok value =>
      let (parts, source) := rollDice sign sides count source
      (parts.map (.die value sides sign :: ·), source)

/-- The parts of one step.  A count below one rolls nothing. -/
def Step.roll : Step → Source → Except Fault (List Part) × Source
  | .dice sign count sides, source => rollDice sign sides count.toNat source
  | .modifier value, source => (.ok [.modifier value], source)

def rollSteps : List Step → Source → Except Fault (List Part) × Source
  | [], source => (.ok [], source)
  | step :: rest, source =>
    match step.roll source with
    | (.error fault, source) => (.error fault, source)
    | (.ok parts, source) =>
      let (more, source) := rollSteps rest source
      (more.map (parts ++ ·), source)

/-- The parts of an expression, and the source after the draws. -/
def evaluate (terms : List Term) (sheet : Option Sheet) (source : Source) :
    Except Fault (List Part) × Source :=
  match resolve sheet terms with
  | .error fault => (.error fault, source)
  | .ok steps => rollSteps steps source

def total : List Part → Int
  | [] => 0
  | part :: rest => part.contribution + total rest

/-- A finished roll: its parts, their total, and the canonical writing of what was rolled. -/
structure Roll where
  total : Int
  canonical : String
  parts : List Part
deriving DecidableEq

def Roll.ofParts (terms : List Term) (parts : List Part) : Roll where
  total := Dice.total parts
  canonical := render terms
  parts := parts

def Roll.toJson (roll : Roll) : Json :=
  .record [("total", .int roll.total), ("exprNorm", .str roll.canonical),
    ("parts", .list (roll.parts.map Part.toJson))]

/-! ## Engines -/

/-- What is to be rolled, and with what. -/
structure Throw where
  expr : Json
  sheet : Option Sheet := none
  seed : Option Seed := none
  source : Option Source := none

structure Engine where
  source : Source
  limits : Limits

def play (limits : Limits) (expr : Json) (sheet : Option Sheet) (source : Source) :
    Except Fault Roll × Source :=
  match parseJson limits expr with
  | .error cause => (.error (.invalid cause), source)
  | .ok terms =>
    let (parts, source) := evaluate terms sheet source
    (parts.map (Roll.ofParts terms), source)

/-- What a throw leads to: the roll, the engine after it, and the source that the
throw brought along after it. -/
structure Outcome where
  result : Except Fault Roll
  engine : Engine
  ownSource : Option Source

namespace Engine

def roll (engine : Engine) (throw : Throw) : Outcome :=
  match throw.source, throw.seed with
  | some source, _ =>
    let (result, source) := play engine.limits throw.expr throw.sheet source
    ⟨result, engine, some source⟩
  | none, some seed =>
    let (result, _) := play engine.limits throw.expr throw.sheet (.ofSeed seed)
    ⟨result, engine, none⟩
  | none, none =>
    let (result, source) := play engine.limits throw.expr throw.sheet engine.source
    ⟨result, { engine with source }, none⟩

/-- The outcomes of throws made one after the other. -/
def rollAll (engine : Engine) : List Throw → List Outcome
  | [] => []
  | throw :: rest =>
    let outcome := engine.roll throw
    outcome :: outcome.engine.rollAll rest

end Engine

end Dice
end Tabletop
