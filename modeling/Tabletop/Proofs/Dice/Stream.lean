import Mathlib
import Tabletop.Proofs.Dice.Completion

/-!
# The stream of an engine

An engine uses up its source from throw to throw.  A throw that brings a source or a seed
leaves the source of the engine alone, and so does one that is refused.  Every other throw
begins at the sample at which the throws before it stopped, and takes one sample for each
die or stops behind the first sample that is out of range.

Hence the place of the source is the sum of what was drawn before, and a throw that draws
nothing might as well not have been made.
-/

namespace Tabletop
namespace Dice

open Tabletop.Random

/-- A throw with neither a source nor a seed of its own uses the source of the engine. -/
def Throw.Shares (throw : Throw) : Prop := throw.source = none ∧ throw.seed = none

/-- The engine after some samples of its source. -/
def Engine.skip (engine : Engine) (n : Nat) : Engine :=
  { engine with source := engine.source.skip n }

@[simp] theorem Engine.skip_zero (engine : Engine) : engine.skip 0 = engine := rfl

theorem Engine.skip_skip (engine : Engine) (m n : Nat) :
    (engine.skip m).skip n = engine.skip (m + n) := by
  simp only [Engine.skip, Source.skip_skip]

/-- What comes of a throw, and how many samples of its engine are drawn for it.  No two of the
cases hold of one throw, so each tells exactly when its outcome occurs: whether the throw has a
source or a seed of its own, whether its expression is read, whether all terms are settled, and
whether there is a sample out of range among the next ones, one for each die. -/
inductive Engine.Draws (engine : Engine) (throw : Throw) : Except Fault Roll → Nat → Prop where
  | aside (hown : ¬ throw.Shares) : engine.Draws throw
      (play engine.limits throw.expr throw.sheet (engine.sourceFor throw)).1 0
  | unread (hshares : throw.Shares) {cause : InvalidRoll}
      (hparse : parseJson engine.limits throw.expr = .error cause) :
      engine.Draws throw (.error (.invalid cause)) 0
  | unsettled (hshares : throw.Shares) {terms : List Term} {message : String}
      {details : Option Json} {cause : InvalidRoll}
      (hparse : parseJson engine.limits throw.expr = .ok terms)
      (hfirst : FirstMisses throw.sheet terms message details)
      (htold : cause.Says message details) :
      engine.Draws throw (.error (.invalid cause)) 0
  | finished (hshares : throw.Shares) {terms : List Term} {n : Nat} {roll : Roll}
      (hparse : parseJson engine.limits throw.expr = .ok terms)
      (hsettled : ∀ term ∈ terms, term.Settled throw.sheet)
      (hcount : (n : Int) = totalDice terms) (hfit : FitBelow engine.source n)
      (haccount : Account engine.limits throw.sheet engine.source terms roll) :
      engine.Draws throw (.ok roll) n
  | stopped (hshares : throw.Shares) {terms : List Term} {k : Nat}
      (hparse : parseJson engine.limits throw.expr = .ok terms)
      (hsettled : ∀ term ∈ terms, term.Settled throw.sheet)
      (hk : (k : Int) < totalDice terms) (hfit : FitBelow engine.source k)
      (hbad : (engine.source.peek k).inUnitInterval = false) :
      engine.Draws throw (.error (.badSample (engine.source.peek k))) (k + 1)

section Throws

variable (engine : Engine) {throw : Throw}

theorem Engine.roll_of_own (hown : ¬ throw.Shares) : (engine.roll throw).engine = engine := by
  have hneither : ¬ (throw.source.isNone ∧ throw.seed.isNone) := by
    intro hnone
    exact hown ⟨Option.isNone_iff_eq_none.mp hnone.1, Option.isNone_iff_eq_none.mp hnone.2⟩
  rw [Engine.roll_engine, if_neg hneither]

/-- A throw that shares plays its expression on the source of the engine. -/
theorem Engine.roll_of_shares (hshares : throw.Shares) {result : Except Fault Roll}
    {after : Source}
    (hplay : play engine.limits throw.expr throw.sheet engine.source = (result, after)) :
    (engine.roll throw).result = result ∧
      (engine.roll throw).engine = { engine with source := after } := by
  obtain ⟨expr, sheet, seed, source⟩ := throw
  obtain ⟨rfl, rfl⟩ := hshares
  have hroll : engine.roll ⟨expr, sheet, none, none⟩ =
      ⟨result, { engine with source := after }, none⟩ := by
    simp only [Engine.roll, hplay]
  rw [hroll]
  exact ⟨rfl, rfl⟩

/-- What is rolled is an account of the terms that were read. -/
theorem account_of_play {limits : Limits} {expr : Json} {sheet : Option Sheet} {source : Source}
    {terms : List Term} {roll : Roll} (hparse : parseJson limits expr = .ok terms)
    (hplay : (play limits expr sheet source).1 = .ok roll) :
    Account limits sheet source terms roll := by
  obtain ⟨text, read, rfl, hread, haccount, -⟩ := play_eq_ok hplay
  obtain rfl := Except.ok.inj (hread.symm.trans hparse)
  exact haccount

/-- One throw takes the next samples of the engine, as many as it draws. -/
theorem Engine.roll_draws (throw : Throw) :
    ∃ n, engine.Draws throw (engine.roll throw).result n ∧
      (engine.roll throw).engine = engine.skip n := by
  by_cases hshares : throw.Shares
  · rcases hplay : play engine.limits throw.expr throw.sheet engine.source with ⟨result, after⟩
    obtain ⟨hresult, hengine⟩ := engine.roll_of_shares hshares hplay
    rw [hresult, hengine]
    cases hparse : parseJson engine.limits throw.expr with
    | error cause =>
        rw [play_of_unreadable hparse] at hplay
        cases hplay
        exact ⟨0, .unread hshares hparse, rfl⟩
    | ok terms =>
        have hcases := play_of_parse hparse throw.sheet engine.source
        rw [hplay] at hcases
        rcases hcases with
          ⟨hsettled, n, hcount, htaken⟩ | ⟨message, details, hfirst, cause, hsays, hcause⟩
        · cases htaken with
          | all roll hfit =>
              have haccount := account_of_play hparse (congrArg Prod.fst hplay)
              exact ⟨n, .finished hshares hparse hsettled hcount hfit haccount, rfl⟩
          | @stopped k hk hfit hbad =>
              have hbelow : (k : Int) < totalDice terms := by omega
              exact ⟨k + 1, .stopped hshares hparse hsettled hbelow hfit hbad, rfl⟩
        · cases hcause
          exact ⟨0, .unsettled hshares hparse hfirst hsays, rfl⟩
  · rw [Engine.roll_result]
    exact ⟨0, .aside hshares, engine.roll_of_own hshares⟩

/-- A throw that leaves the engine alone, seen with its outcome. -/
def Idle (made : Throw × Outcome) : Prop :=
  ¬ made.1.Shares ∨ ∃ cause, made.2.result = .error (.invalid cause)

section Draws

variable {engine : Engine} {result : Except Fault Roll} {n : Nat}

theorem Engine.Draws.eq_zero_of_own (hdraws : engine.Draws throw result n)
    (hown : ¬ throw.Shares) : n = 0 := by
  cases hdraws with
  | aside => rfl
  | unread => rfl
  | unsettled => rfl
  | finished hshares => exact absurd hshares hown
  | stopped hshares => exact absurd hshares hown

theorem Engine.Draws.eq_zero_of_invalid (hdraws : engine.Draws throw result n)
    {cause : InvalidRoll} (hinvalid : result = .error (.invalid cause)) : n = 0 := by
  cases hdraws with
  | aside => rfl
  | unread => rfl
  | unsettled => rfl
  | finished => cases hinvalid
  | stopped => cases hinvalid

end Draws

theorem Idle.engine_eq (hidle : Idle (throw, engine.roll throw)) :
    (engine.roll throw).engine = engine := by
  obtain ⟨n, hdraws, hengine⟩ := engine.roll_draws throw
  have hnone : n = 0 := by
    rcases hidle with hown | ⟨cause, hcause⟩
    · exact hdraws.eq_zero_of_own hown
    · exact hdraws.eq_zero_of_invalid hcause
  rw [hengine, hnone, Engine.skip_zero]

end Throws

/-! ## Throws one after the other -/

/-- What a sequence of throws does to the source of an engine. -/
structure UsedInTurn (engine : Engine) (throws : List Throw) : Prop where
  /-- Every throw begins where those before it have left the source, and takes what it draws. -/
  contiguous : ∃ draws : List Nat, draws.length = throws.length ∧
    ∀ k throw, throws[k]? = some throw → ∃ n, draws[k]? = some n ∧
      let before := engine.skip (draws.take k).sum
      let outcome := before.roll throw
      (engine.rollAll throws)[k]? = some outcome ∧ before.Draws throw outcome.result n ∧
        outcome.engine = before.skip n
  /-- Without some throws that leave the engine alone, all others come out as they did. -/
  idle : ∀ keep : Throw × Outcome → Bool,
    (∀ made ∈ throws.zip (engine.rollAll throws), keep made = false → Idle made) →
    let kept := (throws.zip (engine.rollAll throws)).filter keep
    engine.rollAll (kept.map Prod.fst) = kept.map Prod.snd
  /-- The seed beside a source of its own does not matter, wherever the throw stands. -/
  seedless : ∀ n throw, throw.source.isSome → ∀ seed,
    (engine.skip n).roll { throw with seed } = (engine.skip n).roll throw

theorem rollAll_contiguous (engine : Engine) (throws : List Throw) :
    ∃ draws : List Nat, draws.length = throws.length ∧
      ∀ k throw, throws[k]? = some throw → ∃ n, draws[k]? = some n ∧
        let before := engine.skip (draws.take k).sum
        let outcome := before.roll throw
        (engine.rollAll throws)[k]? = some outcome ∧ before.Draws throw outcome.result n ∧
          outcome.engine = before.skip n := by
  induction throws generalizing engine with
  | nil => exact ⟨[], rfl, by simp⟩
  | cons first rest ih =>
      obtain ⟨n, hdraws, hengine⟩ := engine.roll_draws first
      obtain ⟨draws, hlength, hrest⟩ := ih (engine.skip n)
      have hlengthAll : (n :: draws).length = (first :: rest).length := by
        simp only [List.length_cons, hlength]
      refine ⟨n :: draws, hlengthAll, ?_⟩
      intro k throw hthrow
      cases k with
      | zero =>
          obtain rfl : first = throw := by simpa using hthrow
          exact ⟨n, rfl, rfl, hdraws, hengine⟩
      | succ k =>
          have hthrowRest : rest[k]? = some throw := by simpa using hthrow
          obtain ⟨m, hm, houtcome, hmore, hafter⟩ := hrest k throw hthrowRest
          have hbefore : engine.skip (((n :: draws).take (k + 1)).sum) =
              (engine.skip n).skip (draws.take k).sum := by
            rw [List.take_succ_cons, List.sum_cons, Engine.skip_skip]
          have hall : (engine.rollAll (first :: rest))[k + 1]? =
              ((engine.skip n).rollAll rest)[k]? := by
            simp only [Engine.rollAll, List.getElem?_cons_succ, hengine]
          refine ⟨m, hm, ?_⟩
          simp only [hbefore, hall]
          exact ⟨houtcome, hmore, hafter⟩

theorem rollAll_kept (engine : Engine) (throws : List Throw) (keep : Throw × Outcome → Bool)
    (hidle : ∀ made ∈ throws.zip (engine.rollAll throws), keep made = false → Idle made) :
    let kept := (throws.zip (engine.rollAll throws)).filter keep
    engine.rollAll (kept.map Prod.fst) = kept.map Prod.snd := by
  induction throws generalizing engine with
  | nil => rfl
  | cons first rest ih =>
      simp only [Engine.rollAll, List.zip_cons_cons] at hidle ⊢
      obtain ⟨hfirst, hrest⟩ := List.forall_mem_cons.mp hidle
      have hmore := ih (engine.roll first).engine hrest
      cases hkeep : keep (first, engine.roll first) with
      | true =>
          rw [List.filter_cons_of_pos hkeep, List.map_cons, List.map_cons, Engine.rollAll, hmore]
      | false =>
          -- What is left out has not moved the engine, so the others meet it as before.
          have hsame := (hfirst hkeep).engine_eq
          rw [List.filter_cons_of_neg (by simp [hkeep])]
          rw [hsame] at hmore ⊢
          exact hmore

/-- The source of an engine is used up throw by throw, with no sample lost and none used twice. -/
theorem stream_used_in_turn (engine : Engine) (throws : List Throw) :
    UsedInTurn engine throws where
  contiguous := rollAll_contiguous engine throws
  idle := rollAll_kept engine throws
  seedless := by
    intro n throw hsource seed
    obtain ⟨source, hsome⟩ := Option.isSome_iff_exists.mp hsource
    simp only [Engine.roll, hsome]

/-- Between throws on the engine there are a word that is no term, a throw on a source of its own
with a seed beside it, and dice with an ability but no sheet.  The others take two samples, then
three up to one that is no number, then two, and without the ones between they take the same. -/
theorem stream_used_in_turn_stopped :
    let samples (n : Nat) : Sample := if n = 4 then .real .nan else .ofGrid (2 ^ 52)
    let engine : Engine := ⟨.stream samples 0, {}⟩
    let two : Throw := { expr := .str "2d6" }
    let three : Throw := { expr := .str "3d4-1" }
    let unread : Throw := { expr := .str "2d" }
    let aside : Throw :=
      { expr := .str "5d8", seed := some (.text ""), source := some engine.source }
    let unsettled : Throw := { expr := .str "4d6+DEX" }
    let throws := [two, unread, aside, unsettled, three, two]
    let outcomes := engine.rollAll throws
    outcomes.map (·.engine.source.drawn) = [2, 2, 2, 2, 5, 7] ∧
      (outcomes.map (·.result))[4]? = some (.error (.badSample (.real .nan))) ∧
      engine.rollAll [two, three, two] = [0, 4, 5].filterMap (outcomes[·]?) := by
  intro samples engine two three unread aside unsettled throws outcomes
  let keep (made : Throw × Outcome) : Bool :=
    made.1.source.isNone && made.1.seed.isNone &&
      match made.2.result with
      | .error (.invalid _) => false
      | _ => true
  have hmask : (throws.zip outcomes).map keep = [true, false, false, false, true, true] := by
    decide
  have hidle : ∀ made ∈ throws.zip outcomes, keep made = false → Idle made := by
    intro made _ hleft
    by_cases hshares : made.1.Shares
    · obtain ⟨hsource, hseed⟩ := hshares
      cases hresult : made.2.result with
      | ok roll => simp [keep, hsource, hseed, hresult] at hleft
      | error fault =>
          cases fault with
          | invalid cause => exact .inr ⟨cause, hresult⟩
          | _ => simp [keep, hsource, hseed, hresult] at hleft
    · exact .inl hshares
  have hkept : engine.rollAll (((throws.zip outcomes).filter keep).map Prod.fst) =
      ((throws.zip outcomes).filter keep).map Prod.snd :=
    (stream_used_in_turn engine throws).idle keep hidle
  have hfilter : (throws.zip outcomes).filter keep =
      [0, 4, 5].filterMap ((throws.zip outcomes)[·]?) := by
    simp only [throws, outcomes, Engine.rollAll, List.zip_cons_cons, List.map_cons,
      List.cons.injEq] at hmask ⊢
    obtain ⟨h0, h1, h2, h3, h4, h5, -⟩ := hmask
    simp only [List.filter_cons, h0, h1, h2, h3, h4, h5]
    rfl
  rw [hfilter] at hkept
  exact ⟨by decide, by decide, hkept⟩

end Dice
end Tabletop
