import Tabletop.Proofs.Store.Writes
import Tabletop.Proofs.Text
import Tabletop.Proofs.Validation.Reading
import Tabletop.Web.Payload
import Mathlib

/-!
# Profiles

A sound profile has whole numbers for its scores and its bonus, and the scores are
within the bounds of the store.  Whatever is read from a client is sound, and so is an
actor that was added with whole numbers, since the store completes what is left out
and checks the rest.  A patch replaces numbers by numbers that were read in the same
way, so a sound profile stays sound, whichever of its parts are replaced.
-/

namespace Tabletop

open Text Validation

namespace Profile

/-- The scores and the bonus are whole numbers, and the scores are within their bounds. -/
structure Sound (profile : Profile) : Prop where
  scores : ∀ ability, ∃ n, profile.scores.get ability = .int n ∧ 1 ≤ n ∧ n ≤ 30
  bonus : ∃ n, profile.bonus = .int n

/-- What clients are held to beyond that: a name of some length without blank ends, and a bonus
within bounds. -/
structure Tidy (profile : Profile) : Prop where
  length : 1 ≤ profile.name.length ∧ profile.name.length ≤ 100
  bare : stripBlank profile.name = profile.name
  bonus : ∃ n, profile.bonus = .int n ∧ 0 ≤ n ∧ n ≤ 10

end Profile

/-! ## What is read -/

theorem readScore_eq_ok {value : Json} {n : Int} (hread : readScore value = .ok n) :
    1 ≤ n ∧ n ≤ 30 := Whole.ofJsonBetween_eq_ok hread

theorem readBonus_eq_ok {value : Json} {n : Int} (hread : readBonus value = .ok n) :
    0 ≤ n ∧ n ≤ 10 := Whole.ofJsonBetween_eq_ok hread

/-- Every score is asked for under the code of its ability. -/
theorem readScores_eq_ok_iff {α : Type} {read : Json → Checked α} {standard : α} {json : Json}
    {scores : Scores α} :
    readScores read standard json = .ok scores ↔ ∃ fields, json = .object fields ∧ ∀ ability,
      optional fields [ability.code] read standard = .ok (scores.get ability) := by
  constructor
  · intro hread
    obtain ⟨fields, hfields, hread⟩ := Except.bind_eq_ok_iff.mp hread
    obtain ⟨_, hboth, rfl⟩ := Except.map_eq_ok_iff.mp hread
    simp only [Checked.both_eq_ok] at hboth
    obtain ⟨hstr, hdex, hcon, hint, hwis, hcha⟩ := hboth
    refine ⟨fields, fieldsOf_eq_ok_iff.mp hfields, ?_⟩
    intro ability
    cases ability <;> assumption
  · rintro ⟨fields, rfl, hentries⟩
    refine Except.bind_eq_ok_iff.mpr ⟨fields, rfl, Except.map_eq_ok_iff.mpr
      ⟨(scores.strength, scores.dexterity, scores.constitution, scores.intelligence,
        scores.wisdom, scores.charisma), ?_, rfl⟩⟩
    simp only [Checked.both_eq_ok]
    exact ⟨hentries .strength, hentries .dexterity, hentries .constitution,
      hentries .intelligence, hentries .wisdom, hentries .charisma⟩

/-- What the reader of a profile hands out, before the name is freed of its blank ends. -/
theorem Profile.ofJson_eq_ok {json : Json} {profile : Profile}
    (hread : Profile.ofJson json = .ok profile) :
    profile.Sound ∧ (1 ≤ profile.name.length ∧ profile.name.length ≤ 100) ∧
      ∃ n, profile.bonus = .int n ∧ 0 ≤ n ∧ n ≤ 10 := by
  obtain ⟨fields, -, hread⟩ := Except.bind_eq_ok_iff.mp hread
  obtain ⟨⟨name, scores, bonus⟩, hboth, rfl⟩ := Except.map_eq_ok_iff.mp hread
  simp only [Checked.both_eq_ok] at hboth
  obtain ⟨hname, hscores, hbonus⟩ := hboth
  have hbonusBounds : 0 ≤ bonus ∧ bonus ≤ 10 := by
    rcases standard_or_read hbonus with rfl | ⟨value, hvalue⟩
    · decide
    · exact readBonus_eq_ok hvalue
  have hscoreBounds : ∀ ability, 1 ≤ scores.get ability ∧ scores.get ability ≤ 30 := by
    intro ability
    rcases standard_or_read hscores with rfl | ⟨value, hvalue⟩
    · simp [NewActor.standardScore]
    · obtain ⟨entries, -, hentries⟩ := readScores_eq_ok_iff.mp hvalue
      rcases standard_or_read (hentries ability) with hstandard | ⟨score, hscore⟩
      · rw [hstandard]
        decide
      · exact readScore_eq_ok hscore
  refine ⟨⟨?scores, ⟨bonus, rfl⟩⟩, ?name, ⟨bonus, rfl, hbonusBounds⟩⟩
  case scores =>
    intro ability
    exact ⟨scores.get ability, Scores.get_map _ _ _, hscoreBounds ability⟩
  case name =>
    obtain ⟨value, hvalue⟩ := required_eq_ok hname
    exact textBetween_eq_ok hvalue

/-! ## Patches -/

/-- What a patch makes of a profile, told field by field. -/
def Patch.apply (patch : Patch) (profile : Profile) : Profile where
  name := patch.name.getD profile.name
  scores := .ofFn fun ability =>
    ((patch.scores.get ability).map .int).getD (profile.scores.get ability)
  bonus := (patch.bonus.map .int).getD profile.bonus

/-- What a patch brings keeps the rules for what it replaces. -/
structure Patch.Within (patch : Patch) : Prop where
  name : ∀ name ∈ patch.name, 1 ≤ name.length ∧ name.length ≤ 100
  scores : ∀ ability, ∀ n ∈ patch.scores.get ability, 1 ≤ n ∧ n ≤ 30
  bonus : ∀ n ∈ patch.bonus, 0 ≤ n ∧ n ≤ 10

namespace Patch

theorem ofJson_eq_ok {json : Json} {patch : Patch} (hread : Patch.ofJson json = .ok patch) :
    patch.Within := by
  obtain ⟨fields, -, hread⟩ := Except.bind_eq_ok_iff.mp hread
  obtain ⟨⟨name, scores, bonus⟩, hboth, rfl⟩ := Except.map_eq_ok_iff.mp hread
  simp only [Checked.both_eq_ok] at hboth
  obtain ⟨hname, hscores, hbonus⟩ := hboth
  refine ⟨?name, ?scores, ?bonus⟩
  case name =>
    intro text htext
    obtain ⟨value, hvalue⟩ := read_of_mem hname htext
    exact textBetween_eq_ok hvalue
  case scores =>
    intro ability n hn
    cases hgiven : scores with
    | none => simp [hgiven] at hn
    | some given =>
        rw [hgiven] at hn
        obtain ⟨value, hvalue⟩ := read_of_mem hscores (Option.mem_def.mpr hgiven)
        obtain ⟨entries, -, hentries⟩ := readScores_eq_ok_iff.mp hvalue
        obtain ⟨score, hscore⟩ := read_of_mem (hentries ability) hn
        exact readScore_eq_ok hscore
  case bonus =>
    intro n hn
    obtain ⟨value, hvalue⟩ := read_of_mem hbonus hn
    exact readBonus_eq_ok hvalue

variable {patch : Patch} {profile : Profile}

/-- A patch keeps a profile sound, whatever it replaces. -/
theorem apply_sound (hpatch : patch.Within) (hprofile : profile.Sound) :
    (patch.apply profile).Sound := by
  refine ⟨?scores, ?bonus⟩
  case scores =>
    intro ability
    simp only [apply, Scores.get_ofFn]
    cases hscore : patch.scores.get ability with
    | none => exact hprofile.scores ability
    | some n => exact ⟨n, rfl, hpatch.scores ability n hscore⟩
  case bonus =>
    simp only [apply]
    cases hbonus : patch.bonus with
    | none => exact hprofile.bonus
    | some n => exact ⟨n, rfl⟩

/-- A patch whose name has no blank ends keeps a profile tidy. -/
theorem apply_tidy (hpatch : patch.Within) (hbare : ∀ name ∈ patch.name, stripBlank name = name)
    (hprofile : profile.Tidy) : (patch.apply profile).Tidy := by
  have hname : (1 ≤ (patch.apply profile).name.length ∧
      (patch.apply profile).name.length ≤ 100) ∧
      stripBlank (patch.apply profile).name = (patch.apply profile).name := by
    simp only [apply]
    cases hgiven : patch.name with
    | none => exact ⟨hprofile.length, hprofile.bare⟩
    | some name => exact ⟨hpatch.name name hgiven, hbare name hgiven⟩
  refine ⟨hname.1, hname.2, ?_⟩
  simp only [apply]
  cases hbonus : patch.bonus with
  | none => exact hprofile.bonus
  | some n => exact ⟨n, rfl, hpatch.bonus n hbonus⟩

end Patch

/-! ## What is stored -/

/-- Scores and a bonus were handed in as whole numbers, or left out. -/
structure NewActor.IsWhole (new : NewActor) : Prop where
  scores : ∀ ability, new.scores.get ability = .null ∨ ∃ n, new.scores.get ability = .int n
  bonus : new.bonus = .null ∨ ∃ n, new.bonus = .int n

/-- Standard values are whole numbers too. -/
theorem NewActor.IsWhole.complete {new : NewActor} (hwhole : new.IsWhole) :
    (∀ ability, ∃ n, new.complete.scores.get ability = .int n) ∧
      ∃ n, new.complete.bonus = .int n := by
  refine ⟨?_, Store.orStandard_int hwhole.bonus⟩
  intro ability
  simp only [NewActor.complete, Scores.get_map]
  exact Store.orStandard_int (hwhole.scores ability)

namespace Store

theorem checkScores_eq_ok_iff {scores : Scores Cell} :
    checkScores scores = .ok () ↔ ∀ ability, allowsScore (scores.get ability) = true := by
  unfold checkScores
  split
  next ability hfound =>
    have hbad := List.find?_some hfound
    constructor
    · nofun
    · intro hall
      simp [hall ability] at hbad
  next hnone =>
    refine ⟨fun _ ability => ?_, fun _ => rfl⟩
    simpa using List.find?_eq_none.mp hnone ability (Ability.mem_all ability)

theorem allowsScore_int {n : Int} : allowsScore (.int n) = true ↔ 1 ≤ n ∧ n ≤ 30 := by
  rw [allowsScore, minScore, maxScore, Bool.and_eq_true, decide_eq_true_iff, decide_eq_true_iff]

theorem checkScores_of_sound {profile : Profile} (hsound : profile.Sound) :
    checkScores profile.scores = .ok () := by
  rw [checkScores_eq_ok_iff]
  intro ability
  obtain ⟨n, hscore, hbounds⟩ := hsound.scores ability
  rw [hscore]
  exact allowsScore_int.mpr hbounds

/-- A patch brings no score that may not be stored. -/
theorem checkScores_apply {patch : Patch} {profile : Profile} (hpatch : patch.Within)
    (hallowed : checkScores profile.scores = .ok ()) :
    checkScores (patch.apply profile).scores = .ok () := by
  rw [checkScores_eq_ok_iff] at hallowed ⊢
  intro ability
  simp only [Patch.apply, Scores.get_ofFn]
  cases hscore : patch.scores.get ability with
  | none => exact hallowed ability
  | some n => exact allowsScore_int.mpr (hpatch.scores ability n hscore)

theorem Written.sound {store : Store} {new : NewActor} {actor : Actor}
    (hwritten : Written store new actor) (hwhole : new.IsWhole) : actor.profile.Sound := by
  obtain ⟨hscores, hbonus⟩ := hwhole.complete
  refine ⟨?scores, ?bonus⟩
  case scores =>
    intro ability
    obtain ⟨cell, hcell, hstored⟩ := hwritten.scores ability
    obtain ⟨n, hn⟩ := hscores ability
    rw [hn] at hcell
    obtain rfl := eq_int_of_bind hcell
    have hallowed := checkScores_eq_ok_iff.mp hwritten.allowed ability
    rw [hstored] at hallowed
    exact ⟨n, hstored, allowsScore_int.mp hallowed⟩
  case bonus =>
    obtain ⟨cell, hcell, hstored⟩ := hwritten.bonus
    obtain ⟨n, hn⟩ := hbonus
    rw [hn] at hcell
    obtain rfl := eq_int_of_bind hcell
    exact ⟨n, hstored⟩

theorem holds_of_bounds {n : Int} (hlow : 0 ≤ n) (hhigh : n ≤ 30) : Cell.holds n = true := by
  simp only [Cell.holds, Cell.maxInt, Bool.and_eq_true]
  constructor <;> apply decide_eq_true <;> omega

theorem bind_int {n : Int} (hholds : Cell.holds n = true) :
    bind (.int n) = .ok (some (.int n)) := if_pos hholds

/-- A profile that is sound and whose bonus is within its bounds lacks nothing: it is added for
every owner whose id has 64 bits. -/
theorem addActor_of_profile (store : Store) (ownerId : Int) (name : String) {profile : Profile}
    (hsound : profile.Sound) (hbonus : ∃ n, profile.bonus = .int n ∧ 0 ≤ n ∧ n ≤ 10) :
    let actor : Actor :=
      ⟨nextId store.actorIds, .int ownerId, { profile with name }, store.now, store.now⟩
    store.addActor {
      ownerId := .int ownerId
      name := .str name
      scores := profile.scores.map Cell.toJson
      bonus := profile.bonus.toJson } =
      if Cell.holds ownerId then .ok (actor, store.insertActor actor)
      else .error (.tooLarge ownerId) := by
  intro actor
  obtain ⟨bonus, hbonus, hlow, hhigh⟩ := hbonus
  have hcells : ((profile.scores.map Cell.toJson).map
      (NewActor.orStandard NewActor.standardScore)).traverse (fun _ => bind) =
      .ok (profile.scores.map some) := by
    rw [Scores.traverse_eq_ok_iff]
    intro ability
    obtain ⟨n, hscore, hbounds⟩ := hsound.scores ability
    simp only [Scores.get_map, hscore]
    exact bind_int (holds_of_bounds (by omega) hbounds.2)
  have hscores : (profile.scores.map some).traverse
      (fun ability => (·.elim (.error (StoreError.nullScore ability)) .ok)) =
      .ok profile.scores := by
    rw [Scores.traverse_eq_ok_iff]
    intro ability
    simp
  have hnumbers : profile.scores.map Cell.asNumber = profile.scores := by
    apply Scores.ext
    intro ability
    obtain ⟨n, hscore, -⟩ := hsound.scores ability
    simp [hscore, Cell.asNumber]
  have hbound : bind (NewActor.orStandard NewActor.standardBonus (Cell.int bonus).toJson) =
      .ok (some (.int bonus)) := bind_int (holds_of_bounds hlow (by omega))
  split
  next hholds =>
    simp only [addActor, NewActor.complete, hbonus, hcells, hbound, bind_int hholds,
      show bind (.str name) = .ok (some (.text name)) from rfl, Except.bind_eq_ok_iff]
    refine ⟨_, rfl, _, rfl, _, rfl, _, rfl, ?_⟩
    simp only [Except.bind_eq_ok_iff]
    refine ⟨_, hscores, ?_⟩
    simp only [hnumbers]
    refine ⟨_, checkScores_of_sound hsound, ?_⟩
    simp only [actor, hbonus]
    rfl
  next hlarge =>
    simp only [addActor, NewActor.complete, bind, hlarge]
    rfl

end Store
end Tabletop
