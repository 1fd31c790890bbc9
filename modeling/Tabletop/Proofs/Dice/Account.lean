import Tabletop.Dice.Engine
import Tabletop.Proofs.Dice.Canonical
import Mathlib

/-!
# A roll as an account of its expression

A finished roll lists, term by term, what the expression asked for: dice with
the faces of the samples in their order, and signed modifiers from the sheet.
Its total is the sum of what is written down, and its canonical text is read as
the same terms.
-/

namespace Tabletop
namespace Dice

open Tabletop.Random

/-!
## Samples and dice

A roll that succeeds has used the samples of its source one after the other, one
for each die, and nothing else: the die at some place shows the face of the
sample at the same place.
-/

namespace Part

def isDie : Part → Bool
  | die .. => true
  | modifier _ => false

/-- A die shows the face of a sample. -/
def Shows (sample : Sample) : Part → Prop
  | die value sides _ => face sides sample = .ok value
  | modifier _ => False

end Part

/-- The dice among some parts, in order. -/
def diceOf (parts : List Part) : List Part := parts.filter Part.isDie

@[simp] theorem diceOf_nil : diceOf [] = [] := rfl

@[simp] theorem diceOf_append (parts more : List Part) :
    diceOf (parts ++ more) = diceOf parts ++ diceOf more := List.filter_append ..

@[simp] theorem diceOf_map_die (values : List Int) (sides sign : Int) :
    diceOf (values.map (.die · sides sign)) = values.map (.die · sides sign) := by
  rw [diceOf, List.filter_eq_self]
  intro part hpart
  obtain ⟨value, -, rfl⟩ := List.mem_map.mp hpart
  rfl

@[simp] theorem diceOf_die (value sides sign : Int) :
    diceOf [.die value sides sign] = [.die value sides sign] := rfl

@[simp] theorem diceOf_modifier (value : Int) : diceOf [.modifier value] = [] := rfl

/-- Every die shows the sample that comes at its place. -/
def Shown (source : Source) (parts : List Part) : Prop :=
  ∀ (k : Nat) (part : Part), (diceOf parts)[k]? = some part →
    part.Shows (source.peek k)

theorem peek_skip (source : Source) (m k : Nat) :
    (source.skip m).peek k = source.peek (m + k) := by
  rw [Source.peek, Source.skip_skip, Source.peek]

theorem shown_nil (source : Source) : Shown source [] := by
  intro k part hpart
  simp at hpart

theorem shown_die {source : Source} {value sides sign : Int}
    (hface : face sides source.next.1 = .ok value) :
    Shown source [.die value sides sign] := by
  intro k part hpart
  cases k with
  | zero =>
      obtain rfl : Part.die value sides sign = part := Option.some.inj hpart
      exact hface
  | succ k => simp at hpart

theorem Shown.append {source : Source} {parts more : List Part}
    (hparts : Shown source parts)
    (hmore : Shown (source.skip (diceOf parts).length) more) :
    Shown source (parts ++ more) := by
  intro k part hpart
  rw [diceOf_append] at hpart
  by_cases hk : k < (diceOf parts).length
  · rw [List.getElem?_append_left hk] at hpart
    exact hparts k part hpart
  · rw [List.getElem?_append_right (Nat.le_of_not_lt hk)] at hpart
    have hshows := hmore _ part hpart
    rwa [peek_skip, Nat.add_sub_cancel' (Nat.le_of_not_lt hk)] at hshows

/-! ### Groups of dice -/

/-- A group that is rolled has one die for each sample that it took. -/
theorem rollDice_eq_ok {sign sides : Int} {count : Nat} {source after : Source}
    {parts : List Part} (hroll : rollDice sign sides count source = (.ok parts, after)) :
    ∃ values : List Int, values.length = count ∧
      parts = values.map (.die · sides sign) ∧ Shown source parts ∧
      after = source.skip count := by
  induction count generalizing source after parts with
  | zero =>
      simp only [rollDice, Prod.mk.injEq, Except.ok.injEq] at hroll
      obtain ⟨rfl, rfl⟩ := hroll
      exact ⟨[], rfl, rfl, shown_nil _, rfl⟩
  | succ count ih =>
      simp only [rollDice] at hroll
      cases hface : face sides source.next.1 with
      | error fault => simp [hface] at hroll
      | ok value =>
          simp only [hface, Prod.mk.injEq] at hroll
          obtain ⟨hmap, hafter⟩ := hroll
          obtain ⟨rest, hrest, rfl⟩ := Except.map_eq_ok_iff.mp hmap
          obtain ⟨values, hlength, rfl, hshown, hskip⟩ := ih (Prod.ext hrest hafter)
          have hfirst : Shown source [.die value sides sign] := shown_die hface
          refine ⟨value :: values, by simp [hlength], rfl, ?_, ?_⟩
          · exact hfirst.append hshown
          · rw [hskip, Source.skip_succ]

/-! ### Steps in order -/

/-- The parts that a step comes to. -/
inductive StepParts : Step → List Part → Prop
  | dice {sign count sides : Int} {values : List Int}
      (hlength : values.length = count.toNat) :
      StepParts (.dice sign count sides) (values.map (.die · sides sign))
  | modifier (value : Int) : StepParts (.modifier value) [.modifier value]

theorem Step.roll_eq_ok {step : Step} {source after : Source} {parts : List Part}
    (hroll : step.roll source = (.ok parts, after)) :
    StepParts step parts ∧ Shown source parts ∧
      after = source.skip (diceOf parts).length := by
  cases step with
  | dice sign count sides =>
      obtain ⟨values, hlength, rfl, hshown, rfl⟩ := rollDice_eq_ok hroll
      refine ⟨.dice hlength, hshown, ?_⟩
      rw [diceOf_map_die, List.length_map, hlength]
  | modifier value =>
      simp only [Step.roll, Prod.mk.injEq, Except.ok.injEq] at hroll
      obtain ⟨rfl, rfl⟩ := hroll
      refine ⟨.modifier value, ?_, rfl⟩
      intro k part hpart
      simp at hpart

theorem rollSteps_eq_ok {steps : List Step} {source after : Source} {parts : List Part}
    (hroll : rollSteps steps source = (.ok parts, after)) :
    ∃ blocks, List.Forall₂ StepParts steps blocks ∧ parts = blocks.flatten ∧
      Shown source parts ∧ after = source.skip (diceOf parts).length := by
  induction steps generalizing source after parts with
  | nil =>
      simp only [rollSteps, Prod.mk.injEq, Except.ok.injEq] at hroll
      obtain ⟨rfl, rfl⟩ := hroll
      exact ⟨[], .nil, rfl, shown_nil _, rfl⟩
  | cons step rest ih =>
      simp only [rollSteps] at hroll
      rcases hstep : step.roll source with ⟨fault | block, between⟩
      · simp [hstep] at hroll
      · simp only [hstep, Prod.mk.injEq] at hroll
        obtain ⟨hmap, hafter⟩ := hroll
        obtain ⟨more, hmore, rfl⟩ := Except.map_eq_ok_iff.mp hmap
        obtain ⟨hblock, hshown, rfl⟩ := Step.roll_eq_ok hstep
        obtain ⟨blocks, hblocks, rfl, hshownMore, hskip⟩ := ih (Prod.ext hmore hafter)
        refine ⟨block :: blocks, .cons hblock hblocks, rfl,
          hshown.append hshownMore, ?_⟩
        rw [hskip, Source.skip_skip, diceOf_append, List.length_append]

open Text

/-! ## What the parts of a roll stand for -/

/-- The modifier that a term without dice stands for. -/
inductive Modifies (sheet : Option Sheet) : Body → Int → Prop
  | number (value : Int) : Modifies sheet (.number value) value
  | ability {s : Sheet} {code : String} {score : Int} (hsheet : sheet = some s)
      (hscore : s.scores.get? code = some (.int score)) :
      Modifies sheet (.ability code) ⌊((score : ℚ) - 10) / 2⌋
  | proficiency {s : Sheet} {bonus : Int} (hsheet : sheet = some s)
      (hbonus : s.bonus = .int bonus) : Modifies sheet .proficiency bonus

/-- The parts that a term stands for: its dice, or one signed modifier. -/
inductive TermParts (sheet : Option Sheet) : Term → List Part → Prop
  | dice {sign count sides : Int} {values : List Int}
      (hlength : (values.length : Int) = count) :
      TermParts sheet ⟨sign, .dice count sides⟩ (values.map (.die · sides sign))
  | modifier {sign value : Int} {body : Body} (hvalue : Modifies sheet body value) :
      TermParts sheet ⟨sign, body⟩ [.modifier (sign * value)]

/-- The sides of a die; a modifier has none. -/
def Part.kind : Part → Option Int
  | .die _ sides _ => some sides
  | .modifier _ => none

/-- The kinds of the parts that a term asks for. -/
def Term.kinds (term : Term) : List (Option Int) :=
  match term.body with
  | .dice count sides => List.replicate count.toNat (some sides)
  | _ => [none]

/-- A written part adds its value, under its sign if it has one. -/
def Adds (item : Json) (amount : Int) : Prop :=
  ∃ value, item.get? "value" = some (.int value) ∧
    (item.get? "sign" = none ∧ amount = value ∨
      ∃ sign, item.get? "sign" = some (.int sign) ∧ amount = sign * value)

/-- What a finished roll says about the terms that were rolled. -/
structure Account (limits : Limits) (sheet : Option Sheet) (source : Source)
    (terms : List Term) (roll : Roll) : Prop where
  parts : ∃ blocks, List.Forall₂ (TermParts sheet) terms blocks ∧
    roll.parts = blocks.flatten
  samples : Shown source roll.parts
  total : ∃ items amounts, roll.toJson.get? "total" = some (.int roll.total) ∧
    roll.toJson.get? "parts" = some (.list items) ∧
    List.Forall₂ Adds items amounts ∧ roll.total = amounts.sum
  kinds : ∃ again, parse limits roll.canonical = .ok again ∧
    roll.parts.map Part.kind = again.flatMap Term.kinds

/-! ## Modifiers -/

theorem modifier_eq_floor (score : Int) :
    Ability.modifier score = ⌊((score : ℚ) - 10) / 2⌋ := by
  have hfloor := Rat.floor_intCast_div_natCast (score - 10) 2
  unfold Ability.modifier
  rw [Int.cast_sub] at hfloor
  exact_mod_cast hfloor.symm

theorem eq_int_of_int? {json : Json} {n : Int} (hint : json.int? = some n) :
    json = .int n := by
  cases json with
  | int m =>
      obtain rfl := Option.some.inj hint
      rfl
  | _ => simp [Json.int?] at hint

theorem Sheet.modifier_eq_ok {sheet : Sheet} {code : String} {value : Int}
    (hmodifier : sheet.modifier code = .ok value) :
    ∃ score, sheet.scores.get? code = some (.int score) ∧
      value = ⌊((score : ℚ) - 10) / 2⌋ := by
  unfold Sheet.modifier at hmodifier
  split at hmodifier
  next score hscore =>
    obtain ⟨json, hget, hint⟩ := Option.bind_eq_some_iff.mp hscore
    rw [eq_int_of_int? hint] at hget
    refine ⟨score, hget, ?_⟩
    rw [← modifier_eq_floor]
    exact (Except.ok.inj hmodifier).symm
  next => contradiction

theorem Sheet.proficiency_eq_ok {sheet : Sheet} {value : Int}
    (hproficiency : sheet.proficiency = .ok value) : sheet.bonus = .int value := by
  unfold Sheet.proficiency at hproficiency
  split at hproficiency
  next bonus hbonus =>
    obtain rfl := Except.ok.inj hproficiency
    exact eq_int_of_int? hbonus
  next => contradiction

theorem withActor_eq_ok {sheet : Option Sheet} {value : Sheet → Except Fault Int}
    {n : Int} (hactor : withActor sheet value = .ok n) :
    ∃ s, sheet = some s ∧ value s = .ok n := by
  cases sheet with
  | none => simp [withActor] at hactor
  | some s => exact ⟨s, rfl, hactor⟩

/-- The parts of a resolved term are what the term stands for. -/
theorem termParts_of_resolve {sheet : Option Sheet} {term : Term} {step : Step}
    {block : List Part} (hcount : 0 ≤ term.body.diceCount)
    (hresolve : term.resolve sheet = .ok step) (hblock : StepParts step block) :
    TermParts sheet term block := by
  obtain ⟨sign, body⟩ := term
  cases body with
  | dice count sides =>
      obtain rfl := Except.ok.inj hresolve
      cases hblock with
      | dice hlength =>
          refine .dice ?_
          rw [hlength]
          exact Int.toNat_of_nonneg hcount
  | number value =>
      obtain rfl := Except.ok.inj hresolve
      cases hblock with
      | modifier => exact .modifier (.number value)
  | ability code =>
      obtain ⟨n, hn, rfl⟩ := Except.map_eq_ok_iff.mp hresolve
      obtain ⟨s, hsheet, hmodifier⟩ := withActor_eq_ok hn
      obtain ⟨score, hscore, rfl⟩ :=
        Sheet.modifier_eq_ok (Except.mapError_eq_ok_iff.mp hmodifier)
      cases hblock with
      | modifier => exact .modifier (.ability hsheet hscore)
  | proficiency =>
      obtain ⟨n, hn, rfl⟩ := Except.map_eq_ok_iff.mp hresolve
      obtain ⟨s, hsheet, hproficiency⟩ := withActor_eq_ok hn
      have hbonus := Sheet.proficiency_eq_ok (Except.mapError_eq_ok_iff.mp hproficiency)
      cases hblock with
      | modifier => exact .modifier (.proficiency hsheet hbonus)
  | void =>
      obtain ⟨n, hn, rfl⟩ := Except.map_eq_ok_iff.mp hresolve
      obtain ⟨s, -, hvoid⟩ := withActor_eq_ok hn
      contradiction

theorem resolve_eq_ok {sheet : Option Sheet} {terms : List Term} {steps : List Step}
    (hresolve : resolve sheet terms = .ok steps) :
    List.Forall₂ (fun term step => term.resolve sheet = .ok step) terms steps := by
  induction terms generalizing steps with
  | nil =>
      obtain rfl := Except.ok.inj hresolve
      exact .nil
  | cons term rest ih =>
      rw [resolve, Except.bind_eq_ok_iff] at hresolve
      obtain ⟨step, hstep, hresolve⟩ := hresolve
      obtain ⟨more, hmore, hsteps⟩ := Except.bind_eq_ok_iff.mp hresolve
      obtain rfl := Except.pure_eq_ok_iff.mp hsteps
      exact .cons hstep (ih hmore)

theorem termParts_of_steps {sheet : Option Sheet} {terms : List Term} {steps : List Step}
    {blocks : List (List Part)} (hcounts : ∀ term ∈ terms, 0 ≤ term.body.diceCount)
    (hsteps : List.Forall₂ (fun term step => term.resolve sheet = .ok step) terms steps)
    (hblocks : List.Forall₂ StepParts steps blocks) :
    List.Forall₂ (TermParts sheet) terms blocks := by
  induction hsteps generalizing blocks with
  | nil =>
      cases hblocks
      exact .nil
  | cons hstep _ ih =>
      cases hblocks with
      | cons hblock hrest =>
          obtain ⟨hcount, hmore⟩ := List.forall_mem_cons.mp hcounts
          exact .cons (termParts_of_resolve hcount hstep hblock) (ih hmore hrest)

/-! ## Kinds -/

theorem TermParts.map_kind {sheet : Option Sheet} {term : Term} {block : List Part}
    (hblock : TermParts sheet term block) : block.map Part.kind = term.kinds := by
  cases hblock with
  | @dice sign count sides values hlength =>
      have hcount : count.toNat = values.length := by omega
      simp only [Term.kinds, hcount, List.map_map]
      exact List.map_const'
  | @modifier sign value body hvalue => cases hvalue <;> rfl

theorem map_kind_flatten {sheet : Option Sheet} {terms : List Term}
    {blocks : List (List Part)} (hblocks : List.Forall₂ (TermParts sheet) terms blocks) :
    blocks.flatten.map Part.kind = terms.flatMap Term.kinds := by
  induction hblocks with
  | nil => rfl
  | cons hblock _ ih =>
      rw [List.flatten_cons, List.map_append, List.flatMap_cons, hblock.map_kind, ih]

/-! ## The written total -/

theorem total_eq_sum (parts : List Part) :
    total parts = (parts.map Part.contribution).sum := by
  induction parts with
  | nil => rfl
  | cons part rest ih => rw [total, ih, List.map_cons, List.sum_cons]

/-- A part with a sign of one or minus one adds its contribution. -/
theorem adds_toJson {part : Part}
    (hsign : ∀ value sides sign, part = .die value sides sign → sign = 1 ∨ sign = -1) :
    Adds part.toJson part.contribution := by
  cases part with
  | die value sides sign =>
      refine ⟨value, rfl, ?_⟩
      rcases hsign value sides sign rfl with rfl | rfl
      · exact .inl ⟨rfl, one_mul value⟩
      · exact .inr ⟨-1, rfl, rfl⟩
  | modifier value => exact ⟨value, rfl, .inl ⟨rfl, rfl⟩⟩

/-- A die among the parts of a term comes from dice with its sides and its sign. -/
theorem TermParts.eq_dice {sheet : Option Sheet} {term : Term} {block : List Part}
    (hblock : TermParts sheet term block) {value sides sign : Int}
    (hmem : Part.die value sides sign ∈ block) : ∃ count, term = ⟨sign, .dice count sides⟩ := by
  cases hblock with
  | @dice termSign count termSides values hlength =>
      obtain ⟨face, -, hface⟩ := List.mem_map.mp hmem
      rw [Part.die.injEq] at hface
      obtain ⟨-, rfl, rfl⟩ := hface
      exact ⟨count, rfl⟩
  | modifier hvalue => simp at hmem

theorem exists_dice_of_mem_flatten {sheet : Option Sheet} {terms : List Term}
    {blocks : List (List Part)} (hblocks : List.Forall₂ (TermParts sheet) terms blocks)
    {value sides sign : Int} (hmem : Part.die value sides sign ∈ blocks.flatten) :
    ∃ count, (⟨sign, .dice count sides⟩ : Term) ∈ terms := by
  induction hblocks with
  | nil => simp at hmem
  | @cons term block terms blocks hblock _ ih =>
      rw [List.flatten_cons, List.mem_append] at hmem
      rcases hmem with hmem | hmem
      · obtain ⟨count, rfl⟩ := hblock.eq_dice hmem
        exact ⟨count, by simp⟩
      · obtain ⟨count, hother⟩ := ih hmem
        exact ⟨count, by simp [hother]⟩

/-! ## Finished rolls -/

theorem evaluate_eq_ok {sheet : Option Sheet} {terms : List Term} {source after : Source}
    {parts : List Part} (hcounts : ∀ term ∈ terms, 0 ≤ term.body.diceCount)
    (heval : evaluate terms sheet source = (.ok parts, after)) :
    (∃ blocks, List.Forall₂ (TermParts sheet) terms blocks ∧ parts = blocks.flatten) ∧
      Shown source parts ∧ after = source.skip (diceOf parts).length := by
  unfold evaluate at heval
  cases hresolve : resolve sheet terms with
  | error fault => simp [hresolve] at heval
  | ok steps =>
      rw [hresolve] at heval
      obtain ⟨blocks, hblocks, rfl, hshown, hafter⟩ := rollSteps_eq_ok heval
      have hterms := termParts_of_steps hcounts (resolve_eq_ok hresolve) hblocks
      exact ⟨⟨blocks, hterms, rfl⟩, hshown, hafter⟩

theorem diceCount_nonneg {limits : Limits} {body : Body} (hbody : body.WellFormed limits) :
    0 ≤ body.diceCount := by
  cases body with
  | dice count sides =>
      have hcount := hbody.1.1
      exact Int.le_trans (by decide) hcount
  | _ => exact Int.le_refl 0

theorem account_of_evaluate {limits : Limits} {sheet : Option Sheet} {source after : Source}
    {terms : List Term} {parts : List Part} (hterms : WellFormed limits terms)
    (heval : evaluate terms sheet source = (.ok parts, after)) :
    Account limits sheet source terms (Roll.ofParts terms parts) ∧
      after = source.skip (diceOf parts).length := by
  have hcounts : ∀ term ∈ terms, 0 ≤ term.body.diceCount :=
    fun term hterm => diceCount_nonneg (hterms.bodies term hterm)
  obtain ⟨⟨blocks, hblocks, rfl⟩, hshown, hafter⟩ := evaluate_eq_ok hcounts heval
  refine ⟨⟨⟨blocks, hblocks, rfl⟩, hshown, ?_, ?_⟩, hafter⟩
  · refine ⟨blocks.flatten.map Part.toJson, blocks.flatten.map Part.contribution,
      rfl, rfl, ?_, total_eq_sum _⟩
    rw [List.forall₂_map_left_iff, List.forall₂_map_right_iff, List.forall₂_same]
    intro part hpart
    apply adds_toJson
    rintro value sides sign rfl
    obtain ⟨count, hterm⟩ := exists_dice_of_mem_flatten hblocks hpart
    exact hterms.signs _ hterm
  · exact ⟨terms, hterms.parse_eq, map_kind_flatten hblocks⟩

/-! ## The engine -/

/-- The source that a throw uses: its own, that of its seed, or that of the engine. -/
def Engine.sourceFor (engine : Engine) (throw : Throw) : Source :=
  match throw.source, throw.seed with
  | some source, _ => source
  | none, some seed => .ofSeed seed
  | none, none => engine.source

theorem Engine.roll_result (engine : Engine) (throw : Throw) :
    (engine.roll throw).result =
      (play engine.limits throw.expr throw.sheet (engine.sourceFor throw)).1 := by
  obtain ⟨expr, sheet, seed, source⟩ := throw
  cases source with
  | some source => rfl
  | none => cases seed <;> rfl

/-- The source that a throw brought along is handed back as the throw left it. -/
theorem Engine.roll_ownSource (engine : Engine) (throw : Throw) :
    (engine.roll throw).ownSource = throw.source.map fun _ =>
      (play engine.limits throw.expr throw.sheet (engine.sourceFor throw)).2 := by
  obtain ⟨expr, sheet, seed, source⟩ := throw
  cases source with
  | some source => rfl
  | none => cases seed <;> rfl

/-- The source of the engine goes on only if the throw has neither source nor seed. -/
theorem Engine.roll_engine (engine : Engine) (throw : Throw) :
    (engine.roll throw).engine =
      if throw.source.isNone ∧ throw.seed.isNone then
        { engine with source :=
            (play engine.limits throw.expr throw.sheet (engine.sourceFor throw)).2 }
      else engine := by
  obtain ⟨expr, sheet, seed, source⟩ := throw
  cases source with
  | some source => simp [Engine.roll]
  | none => cases seed <;> simp [Engine.roll, Engine.sourceFor]

/-- Only a text is read. -/
theorem text_of_parseJson {limits : Limits} {expr : Json} {terms : List Term}
    (hparse : parseJson limits expr = .ok terms) : ∃ text, expr = .str text := by
  cases expr with
  | str text => exact ⟨text, rfl⟩
  | broken string =>
      obtain ⟨cause, hcause⟩ := parse_broken limits string
      cases hcause.symm.trans hparse
  | _ => simp [parseJson] at hparse

theorem wellFormed_of_parseJson {limits : Limits} {expr : Json} {terms : List Term}
    (hparse : parseJson limits expr = .ok terms) : WellFormed limits terms := by
  obtain ⟨text, rfl⟩ := text_of_parseJson hparse
  have hread : parse limits text = .ok terms := hparse
  exact wellFormed_of_parse hread

theorem play_eq_ok {limits : Limits} {expr : Json} {sheet : Option Sheet}
    {source : Source} {roll : Roll} (hplay : (play limits expr sheet source).1 = .ok roll) :
    ∃ text terms, expr = .str text ∧ parse limits text = .ok terms ∧
      Account limits sheet source terms roll ∧
      (play limits expr sheet source).2 = source.skip (diceOf roll.parts).length := by
  unfold play at hplay ⊢
  cases hparse : parseJson limits expr with
  | error cause => simp [hparse] at hplay
  | ok terms =>
      have hterms := wellFormed_of_parseJson hparse
      obtain ⟨text, rfl⟩ := text_of_parseJson hparse
      simp only [hparse] at hplay ⊢
      obtain ⟨parts, hparts, rfl⟩ := Except.map_eq_ok_iff.mp hplay
      obtain ⟨haccount, hafter⟩ := account_of_evaluate hterms (Prod.ext hparts rfl)
      exact ⟨text, terms, rfl, hparse, haccount, hafter⟩

/-- A roll that succeeds is an account of the terms of its expression, and has used
one sample of its source for each die. -/
theorem roll_is_account {engine : Engine} {throw : Throw} {roll : Roll}
    (hroll : (engine.roll throw).result = .ok roll) :
    ∃ text terms, throw.expr = .str text ∧ parse engine.limits text = .ok terms ∧
      Account engine.limits throw.sheet (engine.sourceFor throw) terms roll ∧
      (engine.roll throw).ownSource =
        throw.source.map (·.skip (diceOf roll.parts).length) ∧
      (engine.roll throw).engine =
        if throw.source.isNone ∧ throw.seed.isNone then
          { engine with source := engine.source.skip (diceOf roll.parts).length }
        else engine := by
  rw [Engine.roll_result] at hroll
  obtain ⟨text, terms, hexpr, hparse, haccount, hafter⟩ := play_eq_ok hroll
  refine ⟨text, terms, hexpr, hparse, haccount, ?_, ?_⟩
  · rw [Engine.roll_ownSource, hafter]
    unfold Engine.sourceFor
    cases throw.source <;> rfl
  · rw [Engine.roll_engine, hafter]
    unfold Engine.sourceFor
    cases throw.source <;> cases throw.seed <;> rfl

/-- Eighths on two groups of dice of opposite signs, a low score and a bonus taken away. -/
theorem roll_is_account_mixed :
    let engine : Engine := ⟨.stream (fun n => .real (.finite false (n + 1) (-3))) 0, {}⟩
    let throw : Throw :=
      { expr := .str "2d6 - 1d4 + dex - PROF", sheet := some ⟨[("DEX", .int 7)], .int 2⟩ }
    let parts : List Part := [.die 1 6 1, .die 2 6 1, .die 2 4 (-1), .modifier (-2), .modifier (-2)]
    let roll : Roll := ⟨-3, "2d6-1d4+DEX-PROF", parts⟩
    (engine.roll throw).result = .ok roll ∧
      ∃ terms, Account {} throw.sheet engine.source terms roll := by
  intro engine throw parts roll
  have hroll : (engine.roll throw).result = .ok roll := by decide
  obtain ⟨text, terms, -, -, haccount, -⟩ := roll_is_account hroll
  exact ⟨hroll, terms, haccount⟩

end Dice
end Tabletop
