import Mathlib
import Tabletop.Proofs.Dice.Account

/-!
# Rolling the canonical form again

A roll is written down with the canonical form of its expression.  That form is read as the
very terms that the text was read as, and nothing but the terms reaches the sheet and the
samples.  So the canonical form plays as the text does, to the result or the refusal and to the
sample at which the source is left, and two texts with one canonical form cannot be told apart
by their rolls.
-/

namespace Tabletop
namespace Dice

open Tabletop.Random

variable {limits : Limits} {terms : List Term}

/-- Only the terms of an expression are played. -/
theorem play_eq_of_parse {expr other : Json} (hexpr : parseJson limits expr = .ok terms)
    (hother : parseJson limits other = .ok terms) : play limits other = play limits expr := by
  funext sheet source
  simp only [play, hexpr, hother]

theorem canonical_of_play {expr : Json} (hparse : parseJson limits expr = .ok terms)
    {sheet : Option Sheet} {source after : Source} {roll : Roll}
    (hplay : play limits expr sheet source = (.ok roll, after)) :
    roll.canonical = render terms := by
  simp only [play, hparse, Prod.mk.injEq] at hplay
  obtain ⟨parts, -, rfl⟩ := Except.map_eq_ok_iff.mp hplay.1
  rfl

theorem Engine.roll_eq_of_play {engine : Engine} {throw : Throw} {expr : Json}
    (hplay : play engine.limits expr = play engine.limits throw.expr) :
    engine.roll { throw with expr } = engine.roll throw := by
  simp only [Engine.roll, hplay]

theorem Engine.roll_limits (engine : Engine) (throw : Throw) :
    (engine.roll throw).engine.limits = engine.limits := by
  rw [Engine.roll_engine]
  split <;> rfl

/-- In a sequence of throws an expression can be written as any other that plays alike. -/
theorem Engine.rollAll_eq_of_play {engine : Engine} {throw : Throw} {expr : Json}
    (hplay : play engine.limits expr = play engine.limits throw.expr) (before after : List Throw) :
    engine.rollAll (before ++ { throw with expr } :: after) =
      engine.rollAll (before ++ throw :: after) := by
  induction before generalizing engine with
  | nil =>
      have hroll := Engine.roll_eq_of_play hplay
      simp only [List.nil_append, Engine.rollAll, hroll]
  | cons first rest ih =>
      have hlater : play (engine.roll first).engine.limits expr =
          play (engine.roll first).engine.limits throw.expr := by
        rw [Engine.roll_limits]
        exact hplay
      have hrest := ih hlater
      simp only [List.cons_append, Engine.rollAll, hrest]

theorem parseJson_render {expr : Json} (hparse : parseJson limits expr = .ok terms) :
    parseJson limits (.str (render terms)) = .ok terms :=
  (wellFormed_of_parseJson hparse).parse_eq

/-- How the canonical form of a text that was read as some terms rolls. -/
structure Replays (limits : Limits) (text : String) (terms : List Term) : Prop where
  /-- The outcome and the source after it are those of the text, however the roll ends. -/
  played : ∀ sheet source,
    play limits (.str (render terms)) sheet source = play limits (.str text) sheet source
  /-- A finished roll is reproduced from what it has written down. -/
  finished : ∀ sheet source roll after, play limits (.str text) sheet source = (.ok roll, after) →
    roll.canonical = render terms ∧
      play limits (.str roll.canonical) sheet source = (.ok roll, after)
  /-- An engine gives the same outcome, whichever source the throw uses, and goes on alike. -/
  thrown : ∀ (engine : Engine) (throw : Throw), engine.limits = limits →
    throw.expr = .str text →
    engine.roll { throw with expr := .str (render terms) } = engine.roll throw ∧
      ∀ roll, (engine.roll throw).result = .ok roll →
        engine.roll { throw with expr := .str roll.canonical } = engine.roll throw
  sequence : ∀ (engine : Engine) (throw : Throw) (before after : List Throw),
    engine.limits = limits → throw.expr = .str text →
    engine.rollAll (before ++ { throw with expr := .str (render terms) } :: after) =
      engine.rollAll (before ++ throw :: after)
  /-- Every other text with this canonical form rolls as the text does. -/
  alike : ∀ (other : String) (others : List Term), parse limits other = .ok others →
    render others = render terms → play limits (.str other) = play limits (.str text)

/-- The canonical form replays the roll, sample by sample. -/
theorem canonical_replays {text : String} (hparse : parse limits text = .ok terms) :
    Replays limits text terms := by
  have hread : parseJson limits (.str text) = .ok terms := hparse
  have hplay : play limits (.str (render terms)) = play limits (.str text) :=
    play_eq_of_parse hread (parseJson_render hread)
  refine ⟨?played, ?finished, ?thrown, ?sequence, ?alike⟩
  case played =>
    intro sheet source
    rw [hplay]
  case finished =>
    intro sheet source roll after hroll
    have hcanonical : roll.canonical = render terms := canonical_of_play hread hroll
    rw [hcanonical, hplay]
    exact ⟨rfl, hroll⟩
  case thrown =>
    rintro engine throw rfl hexpr
    have hsame : engine.roll { throw with expr := .str (render terms) } = engine.roll throw := by
      apply Engine.roll_eq_of_play
      rw [hplay, hexpr]
    refine ⟨hsame, ?_⟩
    intro roll hroll
    rw [Engine.roll_result, hexpr] at hroll
    have hcanonical : roll.canonical = render terms := canonical_of_play hread (Prod.ext hroll rfl)
    rw [hcanonical, hsame]
  case sequence =>
    rintro engine throw before after rfl hexpr
    apply Engine.rollAll_eq_of_play
    rw [hplay, hexpr]
  case alike =>
    intro other others hother hrender
    have hreadOther : parseJson limits (.str other) = .ok others := hother
    have hplayOther : play limits (.str (render others)) = play limits (.str other) :=
      play_eq_of_parse hreadOther (parseJson_render hreadOther)
    rw [← hplayOther, hrender, hplay]

/-- Blanks, a small letter, an unwritten count and leading zeros are gone from the form. -/
theorem canonical_replays_loose :
    let terms : List Term := [⟨1, .dice 1 6⟩, ⟨-1, .ability "DEX"⟩, ⟨1, .number 7⟩]
    parse {} " D06 -  dEx+0000000007" = .ok terms ∧ render terms = "1d6-DEX+7" ∧
      Replays {} " D06 -  dEx+0000000007" terms := by
  intro terms
  have hparse : parse {} " D06 -  dEx+0000000007" = .ok terms := by decide
  have hrender : render terms = "1d6-DEX+7" := by decide
  exact ⟨hparse, hrender, canonical_replays hparse⟩

end Dice
end Tabletop
