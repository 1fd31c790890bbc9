import Tabletop.Proofs.Dice.Faces
import Tabletop.Proofs.Dice.Faults
import Mathlib

/-!
# Rolls that come about

A roll can fail in four places: the expression cannot be read, the sheet lacks what a
term asks for, a sample is out of range, or a die has more sides than a floating point
number can hold.  Only the first is left if the sheet is complete and the source is
fit, since reading keeps the sides of dice within ten digits and lets no code pass
that a complete sheet does not have.

The first two come before any sample is drawn.  After that a roll takes its samples one
by one, and the only thing that can still stop it is a sample out of range, which is
then the last one drawn.
-/

namespace Tabletop

/-- A sheet has a whole number for every ability and for the bonus. -/
structure Sheet.Complete (sheet : Sheet) : Prop where
  scores : ∀ ability : Ability, ∃ n, sheet.scores.get? ability.code = some (.int n)
  bonus : ∃ n, sheet.bonus = .int n

namespace Dice

open Tabletop.Random

theorem face_isOk {sides : Int} {sample : Sample} (hsample : sample.inUnitInterval = true)
    (hsides : 0 ≤ sides ∧ sides ≤ largestNumber) : ∃ value, face sides sample = .ok value := by
  obtain ⟨q, hq, hlow, hup⟩ := Sample.inUnitInterval_iff.mp hsample
  obtain ⟨r, -, hface⟩ := face_eq_floor hsides hq hlow hup
  exact ⟨⌊r⌋ + 1, hface⟩

/-! ## Samples that are taken -/

/-- The samples of a source are in range up to a place. -/
def FitBelow (source : Source) (n : Nat) : Prop :=
  ∀ k < n, (source.peek k).inUnitInterval = true

/-- What needs a number of samples takes all of them, or it stops at the first one that is out of
range and leaves the others. -/
inductive Takes {α : Type} (source : Source) (n : Nat) : Except Fault α × Source → Prop where
  | all (value : α) (hfit : FitBelow source n) : Takes source n (.ok value, source.skip n)
  | stopped {k : Nat} (hk : k < n) (hfit : FitBelow source k)
      (hbad : (source.peek k).inUnitInterval = false) :
      Takes source n (.error (.badSample (source.peek k)), source.skip (k + 1))

section Takes

variable {α β : Type} {source : Source} {m n : Nat}

theorem FitBelow.add (hfirst : FitBelow source m) (hsecond : FitBelow (source.skip m) n) :
    FitBelow source (m + n) := by
  intro k hk
  by_cases hkm : k < m
  · exact hfirst k hkm
  · have hplace : m + (k - m) = k := by omega
    have hfit := hsecond (k - m) (by omega)
    rwa [peek_skip, hplace] at hfit

theorem Takes.map {taken : Except Fault α × Source} (htaken : Takes source n taken)
    (f : α → β) : Takes source n (taken.1.map f, taken.2) := by
  cases htaken with
  | all value hfit => exact .all (f value) hfit
  | stopped hk hfit hbad => exact .stopped hk hfit hbad

/-- What begins behind some samples that are in range may count them as its own. -/
theorem Takes.behind {taken : Except Fault α × Source} (hfit : FitBelow source m)
    (htaken : Takes (source.skip m) n taken) : Takes source (m + n) taken := by
  cases htaken with
  | all value hmore =>
      rw [Source.skip_skip]
      exact .all value (hfit.add hmore)
  | @stopped k hk hmore hbad =>
      rw [peek_skip] at hbad
      rw [peek_skip, Source.skip_skip, ← Nat.add_assoc]
      exact .stopped (by omega) (hfit.add hmore) hbad

/-- A roll is never refused while its samples are taken. -/
theorem Takes.ne_invalid {taken : Except Fault α × Source} (htaken : Takes source n taken)
    (cause : InvalidRoll) : taken.1 ≠ .error (.invalid cause) := by
  cases htaken with
  | all value hfit => exact nofun
  | stopped hk hfit hbad => exact nofun

/-- With all samples in range all of them are taken. -/
theorem Takes.eq_all {taken : Except Fault α × Source} (htaken : Takes source n taken)
    (hfit : FitBelow source n) : ∃ value, taken = (.ok value, source.skip n) := by
  cases htaken with
  | all value _ => exact ⟨value, rfl⟩
  | @stopped k hk _ hbad =>
      have hgood := hfit k hk
      rw [hbad] at hgood
      contradiction

/-- With a sample out of range the first one of this kind is the last one drawn. -/
theorem Takes.eq_stopped {taken : Except Fault α × Source} (htaken : Takes source n taken)
    (hunfit : ¬ FitBelow source n) :
    ∃ k < n, FitBelow source k ∧ (source.peek k).inUnitInterval = false ∧
      taken = (.error (.badSample (source.peek k)), source.skip (k + 1)) := by
  cases htaken with
  | all value hfit => exact absurd hfit hunfit
  | @stopped k hk hfit hbad => exact ⟨k, hk, hfit, hbad, rfl⟩

theorem Takes.isOk {taken : Except Fault α × Source} (htaken : Takes source n taken)
    (hsource : source.InUnitInterval) : ∃ value, taken.1 = .ok value := by
  obtain ⟨value, htaken⟩ := htaken.eq_all fun k _ => hsource k
  exact ⟨value, by rw [htaken]⟩

end Takes

/-! ## Dice -/

/-- A step asks for no die with more sides than can be read. -/
def Step.Readable : Step → Prop
  | .dice _ _ sides => 0 ≤ sides ∧ sides ≤ largestNumber
  | .modifier _ => True

/-- The samples that a step needs. -/
def Step.diceCount : Step → Nat
  | .dice _ count _ => count.toNat
  | .modifier _ => 0

theorem rollDice_takes {sides : Int} (hsides : 0 ≤ sides ∧ sides ≤ largestNumber) (sign : Int)
    (count : Nat) (source : Source) : Takes source count (rollDice sign sides count source) := by
  induction count generalizing source with
  | zero => exact .all [] nofun
  | succ count ih =>
      cases hsample : (source.peek 0).inUnitInterval with
      | false =>
          have hface : face sides source.next.1 = .error (.badSample source.next.1) :=
            face_of_unfit hsample sides
          simp only [rollDice, hface]
          exact .stopped (Nat.succ_pos count) nofun hsample
      | true =>
          obtain ⟨value, hface⟩ := face_isOk hsample hsides
          rw [Source.peek, Source.skip_zero] at hface
          have hfirst : FitBelow source 1 := by
            intro k hk
            obtain rfl : k = 0 := by omega
            exact hsample
          have hrest := (ih source.next.2).map (Part.die value sides sign :: ·)
          have hall := Takes.behind hfirst hrest
          simp only [rollDice, hface]
          rwa [Nat.add_comm 1 count] at hall

theorem Step.roll_takes {step : Step} (hstep : step.Readable) (source : Source) :
    Takes source step.diceCount (step.roll source) := by
  cases step with
  | dice sign count sides => exact rollDice_takes hstep sign count.toNat source
  | modifier value =>
      have hnone : FitBelow source 0 := nofun
      exact .all [Part.modifier value] hnone

theorem rollSteps_takes {steps : List Step} (hsteps : ∀ step ∈ steps, step.Readable)
    (source : Source) :
    Takes source (steps.map Step.diceCount).sum (rollSteps steps source) := by
  induction steps generalizing source with
  | nil => exact .all [] nofun
  | cons step rest ih =>
      obtain ⟨hstep, hrest⟩ := List.forall_mem_cons.mp hsteps
      have hfirst := Step.roll_takes hstep source
      rw [List.map_cons, List.sum_cons]
      simp only [rollSteps]
      generalize step.roll source = rolled at hfirst
      cases hfirst with
      | all parts hfit =>
          have hmore := ih hrest (source.skip step.diceCount)
          exact (hmore.map (parts ++ ·)).behind hfit
      | stopped hk hfit hbad => exact .stopped (Nat.lt_add_right _ hk) hfit hbad

/-! ## Modifiers -/

/-- A sheet, or the lack of one, on which some ability or the bonus is missing. -/
def Lacks (sheet : Option Sheet) : Prop := ∀ s, sheet = some s → ¬ s.Complete

/-- A term asks for something that is not there as a whole number, and what is said about it. -/
inductive Misses (sheet : Option Sheet) : Body → String → Option Json → Prop
  | abilityAlone (hsheet : sheet = none) (code : String) :
      Misses sheet (.ability code) "actor context required for ability term" none
  | proficiencyAlone (hsheet : sheet = none) :
      Misses sheet .proficiency "actor context required for ability term" none
  | score {s : Sheet} {code : String} (hsheet : sheet = some s)
      (hscore : ∀ n, s.scores.get? code ≠ some (.int n)) :
      Misses sheet (.ability code) ("Actor is missing ability score " ++ code)
        (some (.record [("missingAbility", .str code)]))
  | bonus {s : Sheet} (hsheet : sheet = some s) (hbonus : ∀ n, s.bonus ≠ .int n) :
      Misses sheet .proficiency "Actor must provide profBonus when PROF modifier is used"
        (some (.record [("missingAbility", .str "PROF")]))

/-- A term does not miss anything. -/
def Term.Settled (sheet : Option Sheet) (term : Term) : Prop :=
  ∀ message details, ¬ Misses sheet term.body message details

/-- The first term from the left that misses something, and what is said about it. -/
def FirstMisses (sheet : Option Sheet) (terms : List Term) (message : String)
    (details : Option Json) : Prop :=
  ∃ before term after, terms = before ++ term :: after ∧
    (∀ earlier ∈ before, earlier.Settled sheet) ∧ Misses sheet term.body message details

theorem FirstMisses.cons {sheet : Option Sheet} {term : Term} {rest : List Term}
    {message : String} {details : Option Json} (hterm : term.Settled sheet)
    (hrest : FirstMisses sheet rest message details) :
    FirstMisses sheet (term :: rest) message details := by
  obtain ⟨before, first, after, rfl, hbefore, hfirst⟩ := hrest
  exact ⟨term :: before, first, after, rfl, List.forall_mem_cons.mpr ⟨hterm, hbefore⟩, hfirst⟩

theorem Sheet.modifier_of_missing {sheet : Sheet} {code : String}
    (hscore : ∀ n, sheet.scores.get? code ≠ some (.int n)) :
    sheet.modifier code = .error (.scoreMissing code) := by
  unfold Sheet.modifier
  split
  next score hfound =>
    obtain ⟨json, hget, hint⟩ := Option.bind_eq_some_iff.mp hfound
    rw [eq_int_of_int? hint] at hget
    exact absurd hget (hscore score)
  next => rfl

theorem Sheet.proficiency_of_missing {sheet : Sheet} (hbonus : ∀ n, sheet.bonus ≠ .int n) :
    sheet.proficiency = .error .bonusMissing := by
  unfold Sheet.proficiency
  split
  next bonus hfound => exact absurd (eq_int_of_int? hfound) (hbonus bonus)
  next => rfl

/-- Reading lets no term pass that a complete sheet could not settle. -/
theorem Misses.lacks {limits : Limits} {sheet : Option Sheet} {body : Body} {message : String}
    {details : Option Json} (hmisses : Misses sheet body message details)
    (hbody : body.WellFormed limits) : Lacks sheet := by
  intro s hsheet hcomplete
  cases hmisses with
  | abilityAlone hnone => simp [hnone] at hsheet
  | proficiencyAlone hnone => simp [hnone] at hsheet
  | score hsome hscore =>
      obtain ⟨ability, rfl⟩ := hbody
      obtain rfl := Option.some.inj (hsome.symm.trans hsheet)
      obtain ⟨n, hn⟩ := hcomplete.scores ability
      exact hscore n hn
  | bonus hsome hbonus =>
      obtain rfl := Option.some.inj (hsome.symm.trans hsheet)
      obtain ⟨n, hn⟩ := hcomplete.bonus
      exact hbonus n hn

theorem Term.resolve_of_misses {sheet : Option Sheet} {term : Term} {message : String}
    {details : Option Json} (hmisses : Misses sheet term.body message details) :
    ∃ cause : InvalidRoll, cause.Says message details ∧
      term.resolve sheet = .error (.invalid cause) := by
  obtain ⟨sign, body⟩ := term
  cases hmisses with
  | abilityAlone hsheet code =>
      subst hsheet
      exact ⟨.actorRequired, ⟨rfl, rfl⟩, rfl⟩
  | proficiencyAlone hsheet =>
      subst hsheet
      exact ⟨.actorRequired, ⟨rfl, rfl⟩, rfl⟩
  | @score s code hsheet hscore =>
      subst hsheet
      refine ⟨.scoreMissing code, ⟨rfl, rfl⟩, ?_⟩
      simp only [Term.resolve, withActor, Sheet.modifier_of_missing hscore]
      rfl
  | bonus hsheet hbonus =>
      subst hsheet
      refine ⟨.bonusMissing, ⟨rfl, rfl⟩, ?_⟩
      simp only [Term.resolve, withActor, Sheet.proficiency_of_missing hbonus]
      rfl

/-- What a settled term is resolved to has the dice of the term. -/
theorem Term.resolve_of_settled {limits : Limits} {sheet : Option Sheet} {term : Term}
    (hterm : term.body.WellFormed limits) (hsettled : term.Settled sheet) :
    ∃ step, term.resolve sheet = .ok step ∧ step.Readable ∧
      (step.diceCount : Int) = term.body.diceCount := by
  obtain ⟨sign, body⟩ := term
  cases body with
  | dice count sides =>
      have hcount : 0 ≤ count := diceCount_nonneg hterm
      have hlow : 0 ≤ sides := Int.le_trans (by decide) hterm.2.1
      have hhigh : sides ≤ largestNumber := Int.le_trans hterm.2.2 (min_le_right _ _)
      exact ⟨.dice sign count sides, rfl, ⟨hlow, hhigh⟩, Int.toNat_of_nonneg hcount⟩
  | number value => exact ⟨.modifier (sign * value), rfl, trivial, rfl⟩
  | ability code =>
      cases sheet with
      | none => exact absurd (.abilityAlone rfl code) (hsettled _ _)
      | some s =>
          have hscore : ∃ n, s.scores.get? code = some (.int n) := by
            by_contra hnone
            exact hsettled _ _ (.score rfl (not_exists.mp hnone))
          obtain ⟨n, hn⟩ := hscore
          refine ⟨.modifier (sign * Ability.modifier n), ?_, trivial, rfl⟩
          simp [Term.resolve, withActor, Sheet.modifier, hn, Json.int?, Except.map, Except.mapError]
  | proficiency =>
      cases sheet with
      | none => exact absurd (.proficiencyAlone rfl) (hsettled _ _)
      | some s =>
          have hbonus : ∃ n, s.bonus = .int n := by
            by_contra hnone
            exact hsettled _ _ (.bonus rfl (not_exists.mp hnone))
          obtain ⟨n, hn⟩ := hbonus
          refine ⟨.modifier (sign * n), ?_, trivial, rfl⟩
          simp [Term.resolve, withActor, Sheet.proficiency, hn, Json.int?, Except.map,
            Except.mapError]
  | void => exact hterm.elim

/-- Either every term is settled, and the terms are resolved to steps with as many dice, or the
first term that misses something is complained about. -/
theorem resolve_cases {limits : Limits} (sheet : Option Sheet) {terms : List Term}
    (hterms : ∀ term ∈ terms, term.body.WellFormed limits) :
    ((∀ term ∈ terms, term.Settled sheet) ∧
      ∃ steps, resolve sheet terms = .ok steps ∧ (∀ step ∈ steps, step.Readable) ∧
        ((steps.map Step.diceCount).sum : Int) = totalDice terms) ∨
      ∃ message details, FirstMisses sheet terms message details ∧
        ∃ cause : InvalidRoll, cause.Says message details ∧
          resolve sheet terms = .error (.invalid cause) := by
  induction terms with
  | nil => exact .inl ⟨nofun, [], rfl, nofun, rfl⟩
  | cons term rest ih =>
      obtain ⟨hterm, hrest⟩ := List.forall_mem_cons.mp hterms
      simp only [resolve]
      by_cases hsettled : term.Settled sheet
      · obtain ⟨step, hstep, hreadable, hcount⟩ := Term.resolve_of_settled hterm hsettled
        rw [hstep]
        rcases ih hrest with
          ⟨hmore, steps, hsteps, hall, htotal⟩ | ⟨message, details, hfirst, cause, hsays, hcause⟩
        · have hboth : (((step :: steps).map Step.diceCount).sum : Int) =
              totalDice (term :: rest) := by
            rw [totalDice_cons, ← hcount, ← htotal, List.map_cons, List.sum_cons, Nat.cast_add]
          rw [hsteps]
          exact .inl ⟨List.forall_mem_cons.mpr ⟨hsettled, hmore⟩, step :: steps, rfl,
            List.forall_mem_cons.mpr ⟨hreadable, hall⟩, hboth⟩
        · rw [hcause]
          exact .inr ⟨message, details, hfirst.cons hsettled, cause, hsays, rfl⟩
      · unfold Term.Settled at hsettled
        push Not at hsettled
        obtain ⟨message, details, hmisses⟩ := hsettled
        obtain ⟨cause, hsays, hcause⟩ := Term.resolve_of_misses hmisses
        rw [hcause]
        exact .inr ⟨message, details, ⟨[], term, rest, rfl, nofun, hmisses⟩, cause, hsays, rfl⟩

theorem FirstMisses.lacks {limits : Limits} {sheet : Option Sheet} {terms : List Term}
    {message : String} {details : Option Json} (hfirst : FirstMisses sheet terms message details)
    (hterms : ∀ term ∈ terms, term.body.WellFormed limits) : Lacks sheet := by
  obtain ⟨before, term, after, rfl, -, hmisses⟩ := hfirst
  exact hmisses.lacks (hterms term (by simp))

/-! ## Rolls -/

/-- What has been read takes one sample for each die, or it is refused for the first thing that
is missing, and then it has drawn nothing. -/
theorem evaluate_cases {limits : Limits} (sheet : Option Sheet) {terms : List Term}
    (hterms : ∀ term ∈ terms, term.body.WellFormed limits) (source : Source) :
    ((∀ term ∈ terms, term.Settled sheet) ∧
      ∃ n : Nat, (n : Int) = totalDice terms ∧ Takes source n (evaluate terms sheet source)) ∨
      ∃ message details, FirstMisses sheet terms message details ∧
        ∃ cause : InvalidRoll, cause.Says message details ∧
          evaluate terms sheet source = (.error (.invalid cause), source) := by
  unfold evaluate
  rcases resolve_cases sheet hterms with
    ⟨hsettled, steps, hsteps, hreadable, htotal⟩ | ⟨message, details, hfirst, cause, hsays, hcause⟩
  · rw [hsteps]
    exact .inl ⟨hsettled, _, htotal, rollSteps_takes hreadable source⟩
  · rw [hcause]
    exact .inr ⟨message, details, hfirst, cause, hsays, rfl⟩

theorem play_of_unreadable {limits : Limits} {expr : Json} {cause : InvalidRoll}
    (hparse : parseJson limits expr = .error cause) (sheet : Option Sheet) (source : Source) :
    play limits expr sheet source = (.error (.invalid cause), source) := by
  simp only [play, hparse]

theorem play_of_parse {limits : Limits} {expr : Json} {terms : List Term}
    (hparse : parseJson limits expr = .ok terms) (sheet : Option Sheet) (source : Source) :
    ((∀ term ∈ terms, term.Settled sheet) ∧
      ∃ n : Nat, (n : Int) = totalDice terms ∧ Takes source n (play limits expr sheet source)) ∨
      ∃ message details, FirstMisses sheet terms message details ∧
        ∃ cause : InvalidRoll, cause.Says message details ∧
          play limits expr sheet source = (.error (.invalid cause), source) := by
  have hterms : WellFormed limits terms := wellFormed_of_parseJson hparse
  simp only [play, hparse]
  rcases evaluate_cases sheet hterms.bodies source with
    ⟨hsettled, n, hn, htaken⟩ | ⟨message, details, hfirst, cause, hsays, hcause⟩
  · exact .inl ⟨hsettled, n, hn, htaken.map (Roll.ofParts terms)⟩
  · rw [hcause]
    exact .inr ⟨message, details, hfirst, cause, hsays, rfl⟩

/-- What a sheet lacks is said without showing a part of the expression. -/
theorem Misses.isText {sheet : Option Sheet} {body : Body} {message : String}
    {details : Option Json} (hmisses : Misses sheet body message details) {cause : InvalidRoll}
    (htold : cause.Says message details) : cause.IsText := by
  apply InvalidRoll.isText_of_none
  cases hfragment : cause.fragment? with
  | none => rfl
  | some fragment =>
      have hdetails := htold.details_eq
      rw [InvalidRoll.details_of_fragment hfragment] at hdetails
      cases hmisses <;> simp [Json.record] at hdetails

theorem isText_of_play {limits : Limits} {expr : Json} {terms : List Term}
    {sheet : Option Sheet} {source : Source} {cause : InvalidRoll}
    (hparse : parseJson limits expr = .ok terms)
    (hplay : (play limits expr sheet source).1 = .error (.invalid cause)) : cause.IsText := by
  rcases play_of_parse hparse sheet source with
    ⟨-, n, -, htaken⟩ | ⟨message, details, hfirst, other, hsays, hother⟩
  · exact absurd hplay (htaken.ne_invalid cause)
  · obtain ⟨-, term, -, -, -, hmisses⟩ := hfirst
    rw [hother] at hplay
    obtain rfl := Fault.invalid.inj (Except.error.inj hplay)
    exact hmisses.isText hsays

/-- With a fit source, what can be read is rolled, or it is refused for something that the sheet
lacks. -/
theorem play_cases {limits : Limits} {expr : Json} {terms : List Term} (sheet : Option Sheet)
    {source : Source} (hparse : parseJson limits expr = .ok terms)
    (hsource : source.InUnitInterval) :
    (∃ roll, (play limits expr sheet source).1 = .ok roll) ∨
      Lacks sheet ∧ ∃ cause, (play limits expr sheet source).1 = .error (.invalid cause) := by
  rcases play_of_parse hparse sheet source with
    ⟨-, n, -, htaken⟩ | ⟨message, details, hfirst, cause, -, hcause⟩
  · exact .inl (htaken.isOk hsource)
  · rw [hcause]
    exact .inr ⟨hfirst.lacks (wellFormed_of_parseJson hparse).bodies, cause, rfl⟩

/-- A roll that is refused has drawn nothing. -/
theorem source_of_play_invalid {limits : Limits} {expr : Json} {sheet : Option Sheet}
    {source : Source} {cause : InvalidRoll}
    (hplay : (play limits expr sheet source).1 = .error (.invalid cause)) :
    (play limits expr sheet source).2 = source := by
  cases hparse : parseJson limits expr with
  | error other => rw [play_of_unreadable hparse]
  | ok terms =>
      rcases play_of_parse hparse sheet source with
        ⟨-, n, -, htaken⟩ | ⟨_, _, -, other, -, hother⟩
      · exact absurd hplay (htaken.ne_invalid cause)
      · rw [hother]

/-! ## What is left of a source -/

/-- A source is another one after some draws. -/
def Follows (after source : Source) : Prop := ∃ n, after = source.skip n

theorem Follows.refl (source : Source) : Follows source source := ⟨0, rfl⟩

theorem Follows.trans {source between after : Source} (hafter : Follows after between)
    (hbetween : Follows between source) : Follows after source := by
  obtain ⟨m, rfl⟩ := hbetween
  obtain ⟨n, rfl⟩ := hafter
  exact ⟨m + n, Source.skip_skip source m n⟩

theorem Follows.inUnitInterval {source after : Source} (hafter : Follows after source)
    (hsource : source.InUnitInterval) : after.InUnitInterval := by
  obtain ⟨n, rfl⟩ := hafter
  exact hsource.skip n

theorem Takes.follows {α : Type} {source : Source} {n : Nat} {taken : Except Fault α × Source}
    (htaken : Takes source n taken) : Follows taken.2 source := by
  cases htaken with
  | all value hfit => exact ⟨n, rfl⟩
  | @stopped k hk hfit hbad => exact ⟨k + 1, rfl⟩

theorem play_follows (limits : Limits) (expr : Json) (sheet : Option Sheet) (source : Source) :
    Follows (play limits expr sheet source).2 source := by
  cases hparse : parseJson limits expr with
  | error cause =>
      rw [play_of_unreadable hparse]
      exact .refl source
  | ok terms =>
      rcases play_of_parse hparse sheet source with
        ⟨-, n, -, htaken⟩ | ⟨_, _, -, cause, -, hcause⟩
      · exact htaken.follows
      · rw [hcause]
        exact .refl source

/-- Whatever comes of a throw, the engine goes on with what is left of its source. -/
theorem Engine.roll_follows (engine : Engine) (throw : Throw) :
    Follows (engine.roll throw).engine.source engine.source := by
  rw [Engine.roll_engine]
  split
  next hown =>
    have hsame : engine.sourceFor throw = engine.source := by
      simp only [Option.isNone_iff_eq_none] at hown
      simp only [Engine.sourceFor, hown.1, hown.2]
    simp only [hsame]
    exact play_follows _ _ _ _
  next => exact .refl engine.source

/-!
## The order of faults

All terms are settled before the first sample is drawn.  So a score that is missing is complained
about even if it is asked for behind dice, and nothing is drawn.  Only when no term misses
anything do the samples matter, as many of them as there are dice, and the first of these that is
out of range is the last one drawn.
-/

/-- What evaluating comes to, by what is missing and then by the samples for the dice. -/
structure FaultsInOrder (terms : List Term) (sheet : Option Sheet) (source : Source) : Prop where
  missing : (∃ term ∈ terms, ¬ term.Settled sheet) →
    ∃ message details, FirstMisses sheet terms message details ∧
      ∃ cause : InvalidRoll, cause.Says message details ∧
        evaluate terms sheet source = (.error (.invalid cause), source)
  outOfRange : (∀ term ∈ terms, term.Settled sheet) →
    (∃ k : Nat, k < totalDice terms ∧ ¬ (source.peek k).InRange) →
    ∃ k : Nat, k < totalDice terms ∧ (∀ j < k, (source.peek j).InRange) ∧
      ¬ (source.peek k).InRange ∧
      evaluate terms sheet source = (.error (.badSample (source.peek k)), source.skip (k + 1))
  rolled : (∀ term ∈ terms, term.Settled sheet) →
    (∀ k : Nat, k < totalDice terms → (source.peek k).InRange) →
    ∃ parts, evaluate terms sheet source = (.ok parts, source.skip (totalDice terms).toNat)

theorem fitBelow_iff {source : Source} {n : Nat} :
    FitBelow source n ↔ ∀ k < n, (source.peek k).InRange := by
  unfold FitBelow
  simp only [Sample.inUnitInterval_iff]

theorem not_inRange_iff {sample : Sample} :
    ¬ sample.InRange ↔ sample.inUnitInterval = false := by
  rw [← Sample.inUnitInterval_iff, Bool.not_eq_true]

theorem FirstMisses.exists_not_settled {sheet : Option Sheet} {terms : List Term}
    {message : String} {details : Option Json} (hfirst : FirstMisses sheet terms message details) :
    ∃ term ∈ terms, ¬ term.Settled sheet := by
  obtain ⟨before, term, after, rfl, -, hmisses⟩ := hfirst
  exact ⟨term, by simp, fun hsettled => hsettled message details hmisses⟩

/-- What has been read fails for the first thing that is missing, without a draw; else for the
first sample out of range, at that sample; else it is rolled with one draw for each die. -/
theorem evaluate_faults_in_order {limits : Limits} {text : String} {terms : List Term}
    (hparse : parse limits text = .ok terms) (sheet : Option Sheet) (source : Source) :
    FaultsInOrder terms sheet source := by
  have hterms : WellFormed limits terms := wellFormed_of_parse hparse
  rcases evaluate_cases sheet hterms.bodies source with
    ⟨hsettled, n, hn, htaken⟩ | ⟨message, details, hfirst, cause, hsays, hcause⟩
  · have hnone : ¬ ∃ term ∈ terms, ¬ term.Settled sheet := by
      rintro ⟨term, hterm, hmisses⟩
      exact hmisses (hsettled term hterm)
    have hcount : (totalDice terms).toNat = n := by omega
    refine ⟨fun hsome => absurd hsome hnone, ?_, ?_⟩
    · rintro - ⟨j, hj, hbad⟩
      have hunfit : ¬ FitBelow source n := by
        intro hfit
        exact hbad (fitBelow_iff.mp hfit j (by omega))
      obtain ⟨k, hk, hfit, hfirst, heval⟩ := htaken.eq_stopped hunfit
      exact ⟨k, by omega, fitBelow_iff.mp hfit, not_inRange_iff.mpr hfirst, heval⟩
    · intro _ hrange
      have hfit : FitBelow source n := fitBelow_iff.mpr fun k hk => hrange k (by omega)
      rw [hcount]
      exact htaken.eq_all hfit
  · have hsome : ∃ term ∈ terms, ¬ term.Settled sheet := hfirst.exists_not_settled
    have hnone : ¬ ∀ term ∈ terms, term.Settled sheet := by
      obtain ⟨term, hterm, hmisses⟩ := hsome
      exact fun hsettled => hmisses (hsettled term hterm)
    exact {
      missing := fun _ => ⟨message, details, hfirst, cause, hsays, hcause⟩
      outOfRange := fun hsettled => absurd hsettled hnone
      rolled := fun hsettled => absurd hsettled hnone }

/-- A bonus that is a text is complained about behind dice whose first sample is no number.  With
a whole number for the bonus that sample is refused instead, and it is the only one drawn. -/
theorem evaluate_faults_in_order_text_bonus :
    let terms : List Term := [⟨1, .dice 2 6⟩, ⟨1, .ability "DEX"⟩, ⟨-1, .proficiency⟩]
    let source : Source := .stream (fun _ => .real .nan) 0
    let sheet (bonus : Json) : Option Sheet := some ⟨[("DEX", .int 7)], bonus⟩
    parse {} "2d6 + dex - PROF" = .ok terms ∧
      (∃ message details, FirstMisses (sheet (.str "2")) terms message details ∧
        ∃ cause : InvalidRoll, cause.Says message details ∧
          evaluate terms (sheet (.str "2")) source = (.error (.invalid cause), source)) ∧
      ∃ k : Nat, k < totalDice terms ∧ (∀ j < k, (source.peek j).InRange) ∧
        ¬ (source.peek k).InRange ∧
        evaluate terms (sheet (.int 2)) source =
          (.error (.badSample (source.peek k)), source.skip (k + 1)) := by
  intro terms source sheet
  have hparse : parse {} "2d6 + dex - PROF" = .ok terms := by decide
  have hmissing : ¬ (⟨-1, .proficiency⟩ : Term).Settled (sheet (.str "2")) :=
    fun hsettled => hsettled _ _ (.bonus rfl nofun)
  have hsettled : ∀ term ∈ terms, term.Settled (sheet (.int 2)) := by
    simp only [terms, List.forall_mem_cons]
    refine ⟨nofun, ?_, ?_, nofun⟩
    · intro message details hmisses
      cases hmisses with
      | abilityAlone hsheet => contradiction
      | score hsheet hscore =>
          obtain rfl := Option.some.inj hsheet
          exact hscore 7 rfl
    · intro message details hmisses
      cases hmisses with
      | proficiencyAlone hsheet => contradiction
      | bonus hsheet hbonus =>
          obtain rfl := Option.some.inj hsheet
          exact hbonus 2 rfl
  have hbad : ¬ (source.peek 0).InRange := by
    rintro ⟨q, hq, -⟩
    cases hq
  refine ⟨hparse, ?_, ?_⟩
  · exact (evaluate_faults_in_order hparse _ source).missing ⟨_, by simp [terms], hmissing⟩
  · exact (evaluate_faults_in_order hparse _ source).outOfRange hsettled ⟨0, by decide, hbad⟩

end Dice
end Tabletop
