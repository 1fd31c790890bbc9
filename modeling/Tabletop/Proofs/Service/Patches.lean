import Tabletop.Proofs.Service.Decision
import Tabletop.Proofs.Service.Validity
import Mathlib

/-!
# What patches do to a profile

A profile has eight fields.  A body gives values for some of them, where null gives
nothing, neither in place of a value nor in place of all scores.  Merging the values
into a profile is told field by field: a field gets the value that is given for it and
is else as it was.  So two patches in a row are one in which the second overrides the
first, and the order does not matter if they give values for different fields.
-/

namespace Option

variable {α β : Type} {r : α → β → Prop} {x : Option α} {y : Option β}

theorem exists_eq_some_of_rel (hrel : Option.Rel r x y) {a : α} (ha : x = some a) :
    ∃ b, y = some b ∧ r a b := by
  subst ha
  cases hrel with
  | some hab => exact ⟨_, rfl, hab⟩

theorem eq_none_of_rel (hrel : Option.Rel r x y) (hx : x = none) : y = none := by
  subst hx
  cases hrel
  rfl

end Option

namespace Tabletop

open Text Validation

/-! ## Fields -/

inductive Profile.Field where
  | name
  | score (ability : Ability)
  | bonus
deriving DecidableEq

def Profile.cell (profile : Profile) : Field → Cell
  | .name => .text profile.name
  | .score ability => profile.scores.get ability
  | .bonus => profile.bonus

theorem Profile.ext_cell {old new : Profile} (hcell : ∀ field, new.cell field = old.cell field) :
    new = old := by
  have hname : new.name = old.name := Cell.text.inj (hcell .name)
  have hscores : new.scores = old.scores := Scores.ext fun ability => hcell (.score ability)
  have hbonus : new.bonus = old.bonus := hcell .bonus
  cases new
  cases old
  simp only [mk.injEq]
  exact ⟨hname, hscores, hbonus⟩

/-- What a value becomes in a field that it is given for.  A name loses its blank ends, and
something must be left of it. -/
inductive Profile.Field.Stores : Field → Json → Cell → Prop where
  | name {value : Json} {text : String} (hread : readName value = .ok text)
      (hleft : stripBlank text ≠ "") : Stores .name value (.text (stripBlank text))
  | score {ability : Ability} {value : Json} {n : Int} (hread : readScore value = .ok n) :
      Stores (.score ability) value (.int n)
  | bonus {value : Json} {n : Int} (hread : readBonus value = .ok n) : Stores .bonus value (.int n)

theorem Profile.Field.Stores.unique {field : Profile.Field} {value : Json} {cell other : Cell}
    (hcell : field.Stores value cell) (hother : field.Stores value other) : cell = other := by
  cases hcell with
  | name hread hleft =>
      cases hother with
      | name hagain hleft => rw [Except.ok.inj (hread.symm.trans hagain)]
  | score hread =>
      cases hother with
      | score hagain => rw [Except.ok.inj (hread.symm.trans hagain)]
  | bonus hread =>
      cases hother with
      | bonus hagain => rw [Except.ok.inj (hread.symm.trans hagain)]

/-- New values for some of the fields. -/
abbrev Update := Profile.Field → Option Json

namespace Update

/-- What a body gives.  The scores are given one by one, under their codes. -/
def ofJson (json : Json) : Update
  | .name => RollOrder.given? json ["name"]
  | .score ability =>
    (RollOrder.given? json ["abilities"]).bind fun scores =>
      RollOrder.given? scores [ability.code]
  | .bonus => RollOrder.given? json bonusNames

/-- Every value that is given can be stored. -/
def Fits (update : Update) : Prop :=
  ∀ field value, update field = some value → ∃ cell, field.Stores value cell

/-- One update overridden by another, field by field. -/
def overriddenBy (first later : Update) : Update := fun field => (later field).or (first field)

def Disjoint (first later : Update) : Prop := ∀ field, first field = none ∨ later field = none

theorem Disjoint.symm {first later : Update} (hdisjoint : first.Disjoint later) :
    later.Disjoint first := fun field => (hdisjoint field).symm

end Update

/-! ## Merging -/

/-- A profile with new values for some of its fields. -/
structure Merges (update : Update) (old new : Profile) : Prop where
  set : ∀ field value, update field = some value → field.Stores value (new.cell field)
  kept : ∀ field, update field = none → new.cell field = old.cell field

namespace Merges

variable {update first later : Update} {old between new other : Profile}

theorem eq (hnew : Merges update old new) (hother : Merges update old other) : new = other := by
  apply Profile.ext_cell
  intro field
  cases hvalue : update field with
  | none => rw [hnew.kept field hvalue, hother.kept field hvalue]
  | some value => exact (hnew.set field value hvalue).unique (hother.set field value hvalue)

/-- Whatever is merged can be stored. -/
theorem fits (hmerges : Merges update old new) : update.Fits :=
  fun field value hvalue => ⟨_, hmerges.set field value hvalue⟩

theorem again (hmerges : Merges update old new) : Merges update new new :=
  ⟨hmerges.set, fun _ _ => rfl⟩

/-- Two merges in a row are one. -/
theorem trans (hfirst : Merges first old between) (hlater : Merges later between new) :
    Merges (first.overriddenBy later) old new := by
  refine ⟨?set, ?kept⟩
  case set =>
    intro field value hvalue
    rcases Option.or_eq_some_iff.mp hvalue with hvalue | ⟨hnone, hvalue⟩
    · exact hlater.set field value hvalue
    · rw [hlater.kept field hnone]
      exact hfirst.set field value hvalue
  case kept =>
    intro field hneither
    obtain ⟨hlast, hnone⟩ := Option.or_eq_none_iff.mp hneither
    rw [hlater.kept field hlast, hfirst.kept field hnone]

end Merges

/-! ## Bodies -/

/-- A record, and a record of scores if there are scores. -/
structure IsForm (json : Json) : Prop where
  record : ∃ fields, json = .object fields
  scores : ∀ value, RollOrder.given? json ["abilities"] = some value →
    ∃ entries, value = .object entries

/-- What a patch holds of a body, field by field. -/
structure Patch.Holds (json : Json) (patch : Patch) : Prop where
  form : IsForm json
  name : Option.Rel (fun value text => readName value = .ok text)
    (Update.ofJson json .name) patch.name
  scores : ∀ ability, Option.Rel (fun value n => readScore value = .ok n)
    (Update.ofJson json (.score ability)) (patch.scores.get ability)
  bonus : Option.Rel (fun value n => readBonus value = .ok n)
    (Update.ofJson json .bonus) patch.bonus

/-- A body that is read as a patch, whose name is not all blank if it has one. -/
def IsPatch (json : Json) : Prop :=
  ∃ patch, Patch.ofJson json = .ok patch ∧ ∀ name ∈ patch.name, stripBlank name ≠ ""

def Update.scoresJson (update : Update) : Json :=
  .record (Ability.all.map fun ability => (ability.code, (update (.score ability)).getD .null))

/-- An update written out, with null for every field that it leaves alone. -/
def Update.toJson (update : Update) : Json :=
  .record [("name", (update .name).getD .null),
    ("abilities", update.scoresJson),
    ("profBonus", (update .bonus).getD .null)]

/-- A patch that is applied under its clean name merges what its body gives. -/
theorem Patch.Holds.merges {json : Json} {patch : Patch} (hholds : Patch.Holds json patch)
    (hleft : ∀ name ∈ patch.name, stripBlank name ≠ "") (profile : Profile) :
    Merges (Update.ofJson json) profile
      (Patch.apply { patch with name := patch.name.map stripBlank } profile) := by
  refine ⟨?set, ?kept⟩
  case set =>
    intro field value hvalue
    cases field with
    | name =>
        obtain ⟨text, htext, hread⟩ := Option.exists_eq_some_of_rel hholds.name hvalue
        simp only [Profile.cell, Patch.apply, htext, Option.map_some, Option.getD_some]
        exact .name hread (hleft text htext)
    | score ability =>
        obtain ⟨n, hn, hread⟩ := Option.exists_eq_some_of_rel (hholds.scores ability) hvalue
        simp only [Profile.cell, Patch.apply, Scores.get_ofFn, hn, Option.map_some,
          Option.getD_some]
        exact .score hread
    | bonus =>
        obtain ⟨n, hn, hread⟩ := Option.exists_eq_some_of_rel hholds.bonus hvalue
        simp only [Profile.cell, Patch.apply, hn, Option.map_some, Option.getD_some]
        exact .bonus hread
  case kept =>
    intro field hnone
    cases field with
    | name => simp [Profile.cell, Patch.apply, Option.eq_none_of_rel hholds.name hnone]
    | score ability =>
        simp [Profile.cell, Patch.apply, Option.eq_none_of_rel (hholds.scores ability) hnone]
    | bonus => simp [Profile.cell, Patch.apply, Option.eq_none_of_rel hholds.bonus hnone]

end Tabletop
