/-!
# Abilities

A character has six abilities, each known by a code of three letters and
measured by a score.  `Scores α` holds one value for each of them.
-/

namespace Tabletop

inductive Ability where
  | strength
  | dexterity
  | constitution
  | intelligence
  | wisdom
  | charisma
deriving DecidableEq

namespace Ability

def all : List Ability :=
  [strength, dexterity, constitution, intelligence, wisdom, charisma]

def code : Ability → String
  | strength => "STR"
  | dexterity => "DEX"
  | constitution => "CON"
  | intelligence => "INT"
  | wisdom => "WIS"
  | charisma => "CHA"

/-- The name of the column that stores the score. -/
def column : Ability → String
  | strength => "strength"
  | dexterity => "dexterity"
  | constitution => "constitution"
  | intelligence => "intelligence"
  | wisdom => "wisdom"
  | charisma => "charisma"

def ofCode? (code : String) : Option Ability :=
  all.find? (·.code == code)

theorem mem_all (a : Ability) : a ∈ all := by cases a <;> decide

@[simp] theorem ofCode?_code (a : Ability) : ofCode? a.code = some a := by
  cases a <;> decide

theorem code_of_ofCode? {code : String} {a : Ability} (h : ofCode? code = some a) :
    a.code = code := by
  simpa using List.find?_some h

/-- The bonus or malus that a score gives: one for every two points away from ten,
rounded down. -/
def modifier (score : Int) : Int := (score - 10) / 2

end Ability

structure Scores (α : Type) where
  strength : α
  dexterity : α
  constitution : α
  intelligence : α
  wisdom : α
  charisma : α
deriving DecidableEq

namespace Scores

variable {α β : Type}

def get (scores : Scores α) : Ability → α
  | .strength => scores.strength
  | .dexterity => scores.dexterity
  | .constitution => scores.constitution
  | .intelligence => scores.intelligence
  | .wisdom => scores.wisdom
  | .charisma => scores.charisma

def ofFn (f : Ability → α) : Scores α where
  strength := f .strength
  dexterity := f .dexterity
  constitution := f .constitution
  intelligence := f .intelligence
  wisdom := f .wisdom
  charisma := f .charisma

@[simp] theorem get_ofFn (f : Ability → α) (a : Ability) : (ofFn f).get a = f a := by
  cases a <;> rfl

@[ext] theorem ext {s t : Scores α} (h : ∀ a, s.get a = t.get a) : s = t := by
  cases s
  cases t
  simp only [mk.injEq]
  exact ⟨h .strength, h .dexterity, h .constitution, h .intelligence, h .wisdom, h .charisma⟩

def const (value : α) : Scores α := ofFn fun _ => value

def map (f : α → β) (scores : Scores α) : Scores β := ofFn fun a => f (scores.get a)

def set (scores : Scores α) (a : Ability) (value : α) : Scores α :=
  ofFn fun b => if b = a then value else scores.get b

@[simp] theorem get_const (value : α) (a : Ability) : (const value).get a = value := by
  simp [const]

@[simp] theorem get_map (f : α → β) (scores : Scores α) (a : Ability) :
    (scores.map f).get a = f (scores.get a) := by
  simp [map]

@[simp] theorem get_set (scores : Scores α) (a : Ability) (value : α) (b : Ability) :
    (scores.set a value).get b = if b = a then value else scores.get b := by
  simp [set]

/-- Does something with every score, in the order of the abilities, up to the first fault. -/
def traverse {ε : Type} (f : Ability → α → Except ε β) (scores : Scores α) :
    Except ε (Scores β) := do
  return {
    strength := ← f .strength scores.strength
    dexterity := ← f .dexterity scores.dexterity
    constitution := ← f .constitution scores.constitution
    intelligence := ← f .intelligence scores.intelligence
    wisdom := ← f .wisdom scores.wisdom
    charisma := ← f .charisma scores.charisma }

/-- The scores under their codes, in the order of the abilities. -/
def toList (scores : Scores α) : List (String × α) :=
  Ability.all.map fun a => (a.code, scores.get a)

/-- The scores that there are, under their codes. -/
def given (scores : Scores (Option α)) : List (String × α) :=
  scores.toList.filterMap fun (code, score) => score.map fun value => (code, value)

end Scores
end Tabletop
