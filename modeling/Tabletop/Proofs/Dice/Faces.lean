import Mathlib
import Tabletop.Proofs.Dice.Account
import Tabletop.Proofs.Random.Samples

/-!
# The faces of a die

A die shows the product of its sample and its sides, rounded as floating point numbers are, then
down, and counted from one.  The exact product is below the sides, and rounding could lift it to
them, so that the die would show one face too many.  But the largest number of 53 bits below one
is `1 - 2 ^ -53`, and what is lost of the product on this account is more than rounding can make
up for.

It follows that the dice of a finished roll show faces that they have, and that its total lies
between the least and the greatest that its parts can come to.
-/

namespace Tabletop
namespace Dice

open Tabletop.Random

/-- A die shows one of its faces for every sample in `[0, 1)`, and no lower one for a greater
sample. -/
structure HasFaces (sides : Int) : Prop where
  shows : ∀ (sample : Sample) (q : ℚ), sample.InFormat → sample.toRat? = some q → 0 ≤ q → q < 1 →
    ∃ r, Binary64.RoundsTo (q * sides) r ∧ face sides sample = .ok (⌊r⌋ + 1) ∧
      1 ≤ ⌊r⌋ + 1 ∧ ⌊r⌋ + 1 ≤ sides
  monotone : ∀ (sample other : Sample) (p q : ℚ), sample.InFormat → other.InFormat →
    sample.toRat? = some p → other.toRat? = some q → 0 ≤ p → p ≤ q → q < 1 →
    ∃ low high, face sides sample = .ok low ∧ face sides other = .ok high ∧ low ≤ high

/-- The least that a part of its kind can add. -/
def Part.least : Part → Int
  | .die _ sides sign => if sign < 0 then -sides else 1
  | .modifier value => value

/-- The most that a part of its kind can add. -/
def Part.greatest : Part → Int
  | .die _ sides sign => if sign < 0 then -1 else sides
  | .modifier value => value

/-- A roll that the dice in it can show. -/
structure Roll.Possible (roll : Roll) : Prop where
  dice : ∀ value sides sign, Part.die value sides sign ∈ roll.parts → 1 ≤ value ∧ value ≤ sides
  least : (roll.parts.map Part.least).sum ≤ roll.total
  greatest : roll.total ≤ (roll.parts.map Part.greatest).sum

/-! ## One die -/

theorem toRat?_ofInt_sides {sides : Int} (hsides : 0 ≤ sides ∧ sides ≤ largestNumber) :
    (Binary64.ofInt sides).toRat? = some (sides : ℚ) := by
  obtain ⟨hlow, hup⟩ := hsides
  obtain ⟨n, rfl⟩ := Int.eq_ofNat_of_zero_le hlow
  have hn : n < 2 ^ 53 := by
    unfold largestNumber at hup
    omega
  exact Binary64.toRat?_ofInt hn

/-- The face is what the rounded product says. -/
theorem face_eq_floor {sides : Int} (hsides : 0 ≤ sides ∧ sides ≤ largestNumber) {sample : Sample}
    {q : ℚ} (hq : sample.toRat? = some q) (hlow : 0 ≤ q) (hup : q < 1) :
    ∃ r, Binary64.RoundsTo (q * sides) r ∧ face sides sample = .ok (⌊r⌋ + 1) := by
  have hfit : sample.inUnitInterval = true := Sample.inUnitInterval_iff.mpr ⟨q, hq, hlow, hup⟩
  cases sample with
  | whole n =>
      have hzero : n = 0 := by simpa [Sample.inUnitInterval] using hfit
      obtain rfl : (n : ℚ) = q := Option.some.inj hq
      subst hzero
      refine ⟨0, ?_, ?_⟩
      · rw [Int.cast_zero, zero_mul]
        exact Binary64.roundsTo_zero
      · simp [face, hfit]
  | real x =>
      have hvalue := toRat?_ofInt_sides hsides
      have hcast : (0 : ℚ) ≤ sides := by exact_mod_cast hsides.1
      have hproduct : q * sides < 2 ^ 64 := by
        have hlargest : (sides : ℚ) ≤ 9999999999 := by exact_mod_cast hsides.2
        have hle : q * sides ≤ 1 * sides := mul_le_mul_of_nonneg_right hup.le hcast
        norm_num
        linarith
      obtain ⟨r, hr, hmul⟩ := Binary64.toRat?_mul hq hvalue hlow hcast hproduct
      have hfinite : (Binary64.ofInt sides).isInfinite = false :=
        Binary64.isInfinite_of_toRat? hvalue
      refine ⟨r, hr, ?_⟩
      simp [face, hfit, hfinite, Binary64.floor?_eq, hmul]

/-- Rounding does not lift the product to the sides. -/
theorem face_le_sides {sides : Int} (hsides : 1 ≤ sides) {sample : Sample}
    (hsample : sample.InFormat) {q r : ℚ} (hq : sample.toRat? = some q) (hup : q < 1)
    (hr : Binary64.RoundsTo (q * sides) r) : ⌊r⌋ + 1 ≤ sides := by
  have hcast : (1 : ℚ) ≤ sides := by exact_mod_cast hsides
  have hgap : q ≤ 1 - 1 / 2 ^ 53 := hsample.le_of_lt_one hq hup
  have hproduct : q * sides ≤ sides - sides / 2 ^ 53 := by
    calc
      q * sides ≤ (1 - 1 / 2 ^ 53) * sides := mul_le_mul_of_nonneg_right hgap (by linarith)
      _ = sides - sides / 2 ^ 53 := by ring
  have hlt : r < sides := hr.lt hcast hproduct
  have hfloor : ⌊r⌋ < sides := Int.floor_lt.mpr hlt
  omega

theorem hasFaces {sides : Int} (hsides : 2 ≤ sides ∧ sides ≤ largestNumber) : HasFaces sides := by
  have hrange : 0 ≤ sides ∧ sides ≤ largestNumber := ⟨by omega, hsides.2⟩
  have hcast : (0 : ℚ) ≤ sides := by exact_mod_cast hrange.1
  constructor
  · intro sample q hsample hq hlow hup
    obtain ⟨r, hr, hface⟩ := face_eq_floor hrange hq hlow hup
    have hnonneg : 0 ≤ ⌊r⌋ := Int.floor_nonneg.mpr (hr.nonneg (mul_nonneg hlow hcast))
    exact ⟨r, hr, hface, by omega, face_le_sides (by omega) hsample hq hup hr⟩
  · intro sample other p q _ _ hp hq hlow hle hup
    obtain ⟨r, hr, hface⟩ := face_eq_floor hrange hp hlow (hle.trans_lt hup)
    obtain ⟨s, hs, hother⟩ := face_eq_floor hrange hq (hlow.trans hle) hup
    have hmono : ⌊r⌋ ≤ ⌊s⌋ :=
      Int.floor_le_floor (hr.mono hs (mul_le_mul_of_nonneg_right hle hcast))
    exact ⟨_, _, hface, hother, by omega⟩

theorem face_of_unfit {sample : Sample} (hsample : sample.inUnitInterval = false) (sides : Int) :
    face sides sample = .error (.badSample sample) := by
  unfold face
  rw [hsample]
  rfl

/-- A face that is shown is one of the die, whatever the sample. -/
theorem face_mem {sides value : Int} (hsides : 2 ≤ sides ∧ sides ≤ largestNumber)
    {sample : Sample} (hsample : sample.InFormat) (hface : face sides sample = .ok value) :
    1 ≤ value ∧ value ≤ sides := by
  cases hfit : sample.inUnitInterval with
  | false =>
      rw [face_of_unfit hfit] at hface
      contradiction
  | true =>
      obtain ⟨q, hq, hlow, hup⟩ := Sample.inUnitInterval_iff.mp hfit
      obtain ⟨r, -, hshown, hrange⟩ := (hasFaces hsides).shows sample q hsample hq hlow hup
      obtain rfl : value = ⌊r⌋ + 1 := Except.ok.inj (hface.symm.trans hshown)
      exact hrange

/-! ## Finished rolls -/

theorem Part.contribution_mem {part : Part}
    (hdie : ∀ value sides sign, part = .die value sides sign →
      (1 ≤ value ∧ value ≤ sides) ∧ (sign = 1 ∨ sign = -1)) :
    part.least ≤ part.contribution ∧ part.contribution ≤ part.greatest := by
  cases part with
  | die value sides sign =>
      obtain ⟨⟨hlow, hup⟩, hsign⟩ := hdie value sides sign rfl
      rcases hsign with rfl | rfl
      · simpa [least, greatest, contribution] using ⟨hlow, hup⟩
      · simpa [least, greatest, contribution] using ⟨hup, hlow⟩
  | modifier value => exact ⟨le_rfl, le_rfl⟩

theorem total_mem {parts : List Part}
    (hparts : ∀ part ∈ parts, part.least ≤ part.contribution ∧ part.contribution ≤ part.greatest) :
    (parts.map Part.least).sum ≤ total parts ∧ total parts ≤ (parts.map Part.greatest).sum := by
  induction parts with
  | nil => exact ⟨le_rfl, le_rfl⟩
  | cons part rest ih =>
      obtain ⟨⟨hleast, hgreatest⟩, hrest⟩ := List.forall_mem_cons.mp hparts
      obtain ⟨hlow, hup⟩ := ih hrest
      simp only [total, List.map_cons, List.sum_cons]
      constructor <;> omega

theorem total_of_play {limits : Limits} {expr : Json} {sheet : Option Sheet} {source : Source}
    {roll : Roll} (hplay : (play limits expr sheet source).1 = .ok roll) :
    roll.total = total roll.parts := by
  unfold play at hplay
  cases hparse : parseJson limits expr with
  | error cause => simp [hparse] at hplay
  | ok terms =>
      simp only [hparse] at hplay
      obtain ⟨parts, -, rfl⟩ := Except.map_eq_ok_iff.mp hplay
      rfl

/-- A roll can come about with its dice, if the samples are numbers of the format. -/
theorem play_possible {limits : Limits} {expr : Json} {sheet : Option Sheet} {source : Source}
    {roll : Roll} (hsource : source.InFormat)
    (hplay : (play limits expr sheet source).1 = .ok roll) : roll.Possible := by
  obtain ⟨text, terms, -, hparse, haccount, -⟩ := play_eq_ok hplay
  have hterms : WellFormed limits terms := wellFormed_of_parse hparse
  obtain ⟨blocks, hblocks, hparts⟩ := haccount.parts
  have hdie : ∀ value sides sign, Part.die value sides sign ∈ roll.parts →
      (1 ≤ value ∧ value ≤ sides) ∧ (sign = 1 ∨ sign = -1) := by
    intro value sides sign hmem
    have hflatten := hmem
    rw [hparts] at hflatten
    obtain ⟨count, hterm⟩ := exists_dice_of_mem_flatten hblocks hflatten
    have hbody : (Body.dice count sides).WellFormed limits := hterms.bodies _ hterm
    have hsides : 2 ≤ sides ∧ sides ≤ largestNumber :=
      ⟨hbody.2.1, hbody.2.2.trans (min_le_right _ _)⟩
    have hmemDice : Part.die value sides sign ∈ diceOf roll.parts :=
      List.mem_filter.mpr ⟨hmem, rfl⟩
    obtain ⟨k, hk⟩ := List.mem_iff_getElem?.mp hmemDice
    have hshows : face sides (source.peek k) = .ok value := haccount.samples k _ hk
    exact ⟨face_mem hsides (hsource k) hshows, hterms.signs _ hterm⟩
  have hcontributions : ∀ part ∈ roll.parts,
      part.least ≤ part.contribution ∧ part.contribution ≤ part.greatest := by
    intro part hpart
    apply Part.contribution_mem
    rintro value sides sign rfl
    exact hdie value sides sign hpart
  obtain ⟨hleast, hgreatest⟩ := total_mem hcontributions
  rw [← total_of_play hplay] at hleast hgreatest
  exact ⟨fun value sides sign hmem => (hdie value sides sign hmem).1, hleast, hgreatest⟩

theorem Engine.inFormat_sourceFor {engine : Engine} {throw : Throw}
    (hengine : engine.source.InFormat)
    (hown : ∀ source, throw.source = some source → source.InFormat) :
    (engine.sourceFor throw).InFormat := by
  unfold Engine.sourceFor
  split
  next source hsource => exact hown source hsource
  next seed _ _ => exact Source.inFormat_ofSeed seed
  next => exact hengine

/-- Dice with at least two sides and at most ten digits of them show faces that they have.  There
are no others in what is read, and so every finished roll shows what its dice can show. -/
theorem dice_show_their_faces :
    (∀ sides : Int, 2 ≤ sides → sides < 10 ^ 10 → HasFaces sides) ∧
    (∀ (limits : Limits) (text : String) (terms : List Term), parse limits text = .ok terms →
      ∀ sign count sides, (⟨sign, .dice count sides⟩ : Term) ∈ terms →
        2 ≤ sides ∧ sides < 10 ^ 10) ∧
    ∀ (engine : Engine) (throw : Throw) (roll : Roll), engine.source.InFormat →
      (∀ source, throw.source = some source → source.InFormat) →
      (engine.roll throw).result = .ok roll → roll.Possible := by
  refine ⟨?_, ?_, ?_⟩
  · intro sides hlow hup
    have hlargest : sides ≤ largestNumber := by
      unfold largestNumber
      omega
    exact hasFaces ⟨hlow, hlargest⟩
  · intro limits text terms hparse sign count sides hterm
    have hterms : WellFormed limits terms := wellFormed_of_parse hparse
    have hbody : (Body.dice count sides).WellFormed limits := hterms.bodies _ hterm
    have hlargest : sides ≤ largestNumber := hbody.2.2.trans (min_le_right _ _)
    refine ⟨hbody.2.1, ?_⟩
    unfold largestNumber at hlargest
    omega
  · intro engine throw roll hengine hown hroll
    rw [Engine.roll_result] at hroll
    exact play_possible (Engine.inFormat_sourceFor hengine hown) hroll

/-- The largest sample of all on a die with the most sides that can be read: the exact product
falls short of the sides by about `10 ^ -6`, and the die shows its last face. -/
theorem dice_show_their_faces_last :
    let sample : Sample := .ofGrid (2 ^ 53 - 1)
    let engine : Engine := ⟨.stream (fun _ => sample) 0, { maxSides := 9999999999 }⟩
    let throw : Throw := { expr := .str "d9999999999 - d6" }
    let roll : Roll :=
      ⟨9999999993, "1d9999999999-1d6", [.die 9999999999 9999999999 1, .die 6 6 (-1)]⟩
    face 9999999999 sample = .ok 9999999999 ∧ HasFaces 9999999999 ∧
      (engine.roll throw).result = .ok roll ∧ roll.Possible := by
  intro sample engine throw roll
  have hsample : sample.InFormat := Sample.inFormat_ofGrid (by decide)
  have hroll : (engine.roll throw).result = .ok roll := by decide
  have hengine : engine.source.InFormat := Source.inFormat_stream (fun _ => hsample) 0
  obtain ⟨hfaces, -, hpossible⟩ := dice_show_their_faces
  refine ⟨by decide, hfaces 9999999999 (by decide) (by decide), hroll, ?_⟩
  exact hpossible engine throw roll hengine nofun hroll

end Dice
end Tabletop
