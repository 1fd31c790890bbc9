import Mathlib
import Tabletop.Proofs.Dice.Faces
import Tabletop.Proofs.Random.Samples

/-!
# Fair dice

A generator hands out the multiples of `2 ^ -53` in `[0, 1)`.  The faces of a die follow each
other along these samples, so that the samples of a face lie between two borders.  Where the exact
product reaches a whole number, the face changes; rounding can lift a product to that number only
from a distance that is smaller than the step from sample to sample.  So each border is off by one
sample at most, and the samples of a face are as many as its share of `2 ^ 53`, up to less than
two.
-/

namespace Tabletop
namespace Dice

open Tabletop.Random

variable {sides : Int} {n k : ℕ}

/-- The numbers `n` for which the sample `n / 2 ^ 53` shows a face. -/
def gridOf (sides value : Int) : Finset ℕ :=
  {n ∈ Finset.range (2 ^ 53) | face sides (.ofGrid n) = .ok value}

theorem mem_gridOf {value : Int} :
    n ∈ gridOf sides value ↔ n < 2 ^ 53 ∧ face sides (.ofGrid n) = .ok value := by
  simp only [gridOf, Finset.mem_filter, Finset.mem_range]

/-- Among the numbers below a bound a condition that passes to lower ones holds up to a border. -/
theorem exists_border {p : ℕ → Prop} {bound : ℕ}
    (hdown : ∀ m n, m ≤ n → n < bound → p n → p m) : ∃ t ≤ bound, ∀ n < bound, p n ↔ n < t := by
  induction bound with
  | zero => exact ⟨0, le_rfl, nofun⟩
  | succ bound ih =>
      by_cases hlast : p bound
      · refine ⟨bound + 1, le_rfl, fun n hn => ⟨fun _ => hn, fun _ => ?_⟩⟩
        exact hdown n bound (by omega) (by omega) hlast
      · obtain ⟨t, ht, hborder⟩ := ih fun m n hle hn => hdown m n hle (by omega)
        refine ⟨t, by omega, fun n hn => ?_⟩
        rcases Nat.lt_succ_iff_lt_or_eq.mp hn with hbelow | rfl
        · exact hborder n hbelow
        · exact ⟨fun hp => absurd hp hlast, fun hlt => absurd hlt (by omega)⟩

/-! ## The samples of a generator -/

theorem grid_mem_unit (hn : n < 2 ^ 53) : 0 ≤ (n : ℚ) / 2 ^ 53 ∧ (n : ℚ) / 2 ^ 53 < 1 := by
  have hcast : (n : ℚ) < 2 ^ 53 := by exact_mod_cast hn
  refine ⟨by positivity, ?_⟩
  rwa [div_lt_one (by norm_num)]

theorem face_ofGrid (hsides : 0 ≤ sides ∧ sides ≤ largestNumber) (hn : n < 2 ^ 53) :
    ∃ r, Binary64.RoundsTo ((n : ℚ) / 2 ^ 53 * sides) r ∧
      face sides (.ofGrid n) = .ok (⌊r⌋ + 1) :=
  face_eq_floor hsides (Sample.toRat?_ofGrid n) (grid_mem_unit hn).1 (grid_mem_unit hn).2

/-- The sample shows none of the faces behind a number of them. -/
def ShowsUpTo (sides : Int) (k n : ℕ) : Prop :=
  ∃ value ≤ (k : Int), face sides (.ofGrid n) = .ok value

theorem ShowsUpTo.of_le (hsides : 2 ≤ sides ∧ sides ≤ largestNumber) {m : ℕ} (hle : m ≤ n)
    (hn : n < 2 ^ 53) (hshows : ShowsUpTo sides k n) : ShowsUpTo sides k m := by
  have hm : m < 2 ^ 53 := by omega
  have hcast : (m : ℚ) / 2 ^ 53 ≤ (n : ℚ) / 2 ^ 53 := by
    have hle' : (m : ℚ) ≤ n := by exact_mod_cast hle
    exact div_le_div_of_nonneg_right hle' (by norm_num)
  obtain ⟨low, high, hlow, hhigh, horder⟩ := (hasFaces hsides).monotone (.ofGrid m) (.ofGrid n)
    _ _ (Sample.inFormat_ofGrid hm) (Sample.inFormat_ofGrid hn) (Sample.toRat?_ofGrid m)
    (Sample.toRat?_ofGrid n) (grid_mem_unit hm).1 hcast (grid_mem_unit hn).2
  obtain ⟨value, hvalue, hface⟩ := hshows
  obtain rfl : high = value := Except.ok.inj (hhigh.symm.trans hface)
  exact ⟨low, by omega, hlow⟩

/-- A sample whose product is below a whole number by one step or more is not lifted to it. -/
theorem ShowsUpTo.of_lt (hsides : 0 < sides ∧ sides ≤ largestNumber) (hk : (k : Int) ≤ sides)
    (hn : n < 2 ^ 53) (hlt : ((n + 1 : ℕ) : ℚ) / 2 ^ 53 * sides < k) : ShowsUpTo sides k n := by
  obtain ⟨r, hr, hface⟩ := face_ofGrid ⟨by omega, hsides.2⟩ hn
  have hsidesCast : (0 : ℚ) < sides := by exact_mod_cast hsides.1
  have hkCast : (k : ℚ) ≤ sides := by exact_mod_cast hk
  have hpos : (1 : ℚ) ≤ k := by
    have hzero : (0 : ℚ) < k := lt_of_le_of_lt (by positivity) hlt
    have hint : 0 < k := by exact_mod_cast hzero
    exact_mod_cast hint
  have hgap : (n : ℚ) / 2 ^ 53 * sides ≤ k - k / 2 ^ 53 := by
    have hstep : ((n + 1 : ℕ) : ℚ) / 2 ^ 53 * sides = n / 2 ^ 53 * sides + sides / 2 ^ 53 := by
      push_cast
      ring
    have hshare : (k : ℚ) / 2 ^ 53 ≤ sides / 2 ^ 53 :=
      div_le_div_of_nonneg_right hkCast (by norm_num)
    linarith
  have hbelow : r < k := hr.lt hpos hgap
  have hfloor : ⌊r⌋ < (k : Int) := Int.floor_lt.mpr (by exact_mod_cast hbelow)
  exact ⟨⌊r⌋ + 1, by omega, hface⟩

/-- A sample whose product reaches a whole number is not rounded below it. -/
theorem ShowsUpTo.lt (hsides : 0 < sides ∧ sides ≤ largestNumber) (hk : (k : Int) ≤ sides)
    (hn : n < 2 ^ 53) (hshows : ShowsUpTo sides k n) : (n : ℚ) / 2 ^ 53 * sides < k := by
  obtain ⟨r, hr, hface⟩ := face_ofGrid ⟨by omega, hsides.2⟩ hn
  obtain ⟨value, hvalue, hshown⟩ := hshows
  obtain rfl : ⌊r⌋ + 1 = value := Except.ok.inj (hface.symm.trans hshown)
  by_contra hge
  have hsmall : k < 2 ^ 53 := by
    have hlargest := hsides.2
    unfold largestNumber at hlargest
    omega
  have hlifted : (k : ℚ) ≤ r := (Binary64.roundsTo_natCast hsmall).mono hr (not_lt.mp hge)
  have hfloor : (k : Int) ≤ ⌊r⌋ := Int.le_floor.mpr (by exact_mod_cast hlifted)
  omega

/-- The place where the samples up to a face end.  It is within one sample of the place where the
exact product reaches the face. -/
structure FaceBorder (sides : Int) (k t : ℕ) : Prop where
  le : t ≤ 2 ^ 53
  shows : ∀ n < 2 ^ 53, ShowsUpTo sides k n ↔ n < t
  low : (k : ℚ) * (2 ^ 53 / sides) - 1 ≤ t
  high : (t : ℚ) < k * (2 ^ 53 / sides) + 1

theorem scaled_lt_iff (hsides : 0 < sides) (x : ℚ) :
    x / 2 ^ 53 * sides < k ↔ x < k * (2 ^ 53 / sides) := by
  have hpos : (0 : ℚ) < sides := by exact_mod_cast hsides
  rw [← mul_div_assoc, lt_div_iff₀ hpos, div_mul_eq_mul_div, div_lt_iff₀ (by norm_num)]

theorem exists_faceBorder (hsides : 2 ≤ sides ∧ sides ≤ largestNumber) (hk : (k : Int) ≤ sides) :
    ∃ t, FaceBorder sides k t := by
  have hpos : 0 < sides := by omega
  have hrange : 0 < sides ∧ sides ≤ largestNumber := ⟨hpos, hsides.2⟩
  have hdown : ∀ m n, m ≤ n → n < 2 ^ 53 → ShowsUpTo sides k n → ShowsUpTo sides k m :=
    fun m n hle hn hshows => hshows.of_le hsides hle hn
  obtain ⟨t, ht, hborder⟩ := exists_border hdown
  refine ⟨t, ht, hborder, ?_, ?_⟩
  · by_contra hlow
    have hnext : ((t + 1 : ℕ) : ℚ) / 2 ^ 53 * sides < k := by
      rw [scaled_lt_iff hpos]
      push_cast
      linarith
    rcases ht.lt_or_eq with hlt | rfl
    · exact lt_irrefl t ((hborder t hlt).mp (.of_lt hrange hk hlt hnext))
    · -- Behind the last sample the product is larger than the sides.
      have hkCast : (k : ℚ) ≤ sides := by exact_mod_cast hk
      have hsidesCast : (0 : ℚ) < sides := by exact_mod_cast hpos
      have hlarger : (1 : ℚ) * sides < ((2 ^ 53 + 1 : ℕ) : ℚ) / 2 ^ 53 * sides :=
        mul_lt_mul_of_pos_right (by norm_num) hsidesCast
      linarith
  · rcases t.eq_zero_or_pos with rfl | htpos
    · have hcast : (0 : ℚ) < sides := by exact_mod_cast hpos
      rw [Nat.cast_zero]
      positivity
    · have hlast := ((hborder (t - 1) (by omega)).mpr (by omega)).lt hrange hk (by omega)
      rw [scaled_lt_iff hpos, Nat.cast_pred htpos] at hlast
      linarith

/-- The samples of a face are those between the borders of the face before it and of itself. -/
theorem FaceBorder.gridOf_eq {low high : ℕ} (hlow : FaceBorder sides k low)
    (hhigh : FaceBorder sides (k + 1) high) :
    gridOf sides (k + 1) = Finset.Ico low high := by
  ext n
  rw [mem_gridOf, Finset.mem_Ico]
  constructor
  · rintro ⟨hn, hface⟩
    have hupTo : ShowsUpTo sides (k + 1) n := ⟨k + 1, by push_cast; rfl, hface⟩
    have hnot : ¬ ShowsUpTo sides k n := by
      rintro ⟨value, hvalue, hshown⟩
      obtain rfl := Except.ok.inj (hface.symm.trans hshown)
      omega
    rw [hlow.shows n hn] at hnot
    exact ⟨not_lt.mp hnot, (hhigh.shows n hn).mp hupTo⟩
  · rintro ⟨hge, hlt⟩
    have hn : n < 2 ^ 53 := hlt.trans_le hhigh.le
    obtain ⟨value, hvalue, hface⟩ := (hhigh.shows n hn).mpr hlt
    have habove : (k : Int) < value := by
      by_contra hle
      have hbelow : n < low := (hlow.shows n hn).mp ⟨value, not_lt.mp hle, hface⟩
      omega
    obtain rfl : value = k + 1 := by
      push_cast at hvalue
      omega
    exact ⟨hn, hface⟩

/-- There are far more samples than faces. -/
theorem two_lt_share (hsides : 2 ≤ sides ∧ sides ≤ largestNumber) : (2 : ℚ) < 2 ^ 53 / sides := by
  have hpos : (0 : ℚ) < sides := by
    have hint : 0 < sides := by omega
    exact_mod_cast hint
  have hlargest : (sides : ℚ) ≤ 9999999999 := by exact_mod_cast hsides.2
  rw [lt_div_iff₀ hpos]
  norm_num
  linarith

theorem card_gridOf (hsides : 2 ≤ sides ∧ sides ≤ largestNumber) {value : Int}
    (hvalue : 1 ≤ value ∧ value ≤ sides) :
    |((gridOf sides value).card : ℚ) - 2 ^ 53 / sides| < 2 := by
  obtain ⟨k, hk⟩ := Int.eq_ofNat_of_zero_le (by omega : 0 ≤ value - 1)
  obtain rfl : value = k + 1 := by omega
  obtain ⟨low, hlow⟩ := exists_faceBorder hsides (k := k) (by omega)
  obtain ⟨high, hhigh⟩ := exists_faceBorder hsides (k := k + 1) (by push_cast; omega)
  have hlowUp := hlow.high
  have hhighLow := hhigh.low
  have hlowLow := hlow.low
  have hhighUp := hhigh.high
  push_cast at hhighLow hhighUp
  have horder : low ≤ high := by
    have hwide := two_lt_share hsides
    have hcast : (low : ℚ) ≤ high := by linarith
    exact_mod_cast hcast
  rw [hlow.gridOf_eq hhigh, Nat.card_Ico, Nat.cast_sub horder, abs_lt]
  constructor <;> linarith

/-- The samples of generators are the multiples of `2 ^ -53` in the unit interval.  Of these every
face of a die has its share, up to less than two, and so every face can come up. -/
theorem dice_are_fair :
    (∀ sample, (∃ state drawn, (Source.generator state drawn).next.1 = sample) ↔
      ∃ n < 2 ^ 53, sample = .ofGrid n ∧ sample.toRat? = some ((n : ℚ) / 2 ^ 53)) ∧
    ∀ sides value : Int, 2 ≤ sides → sides < 10 ^ 10 → 1 ≤ value → value ≤ sides →
      |((gridOf sides value).card : ℚ) - 2 ^ 53 / sides| < 2 ∧
      ∃ state drawn, face sides (Source.generator state drawn).next.1 = .ok value := by
  constructor
  · intro sample
    rw [Source.next_generator_iff]
    constructor
    · rintro ⟨n, hn, rfl⟩
      exact ⟨n, hn, rfl, Sample.toRat?_ofGrid n⟩
    · rintro ⟨n, hn, hsample, -⟩
      exact ⟨n, hn, hsample⟩
  · intro sides value hlow hup hfirst hlast
    have hsides : 2 ≤ sides ∧ sides ≤ largestNumber := by
      unfold largestNumber
      omega
    have hcard := card_gridOf hsides ⟨hfirst, hlast⟩
    refine ⟨hcard, ?_⟩
    have hsome : (gridOf sides value).Nonempty := by
      have hwide := two_lt_share hsides
      have hpos : (0 : ℚ) < (gridOf sides value).card := by
        have hclose := (abs_lt.mp hcard).1
        linarith
      exact Finset.card_pos.mp (by exact_mod_cast hpos)
    obtain ⟨n, hmem⟩ := hsome
    obtain ⟨hn, hface⟩ := mem_gridOf.mp hmem
    obtain ⟨state, drawn, hsample⟩ := Source.next_generator_iff.mpr ⟨n, hn, rfl⟩
    refine ⟨state, drawn, ?_⟩
    rw [hsample]
    exact hface

/-- The last face of the die with the most sides that can be read. -/
theorem dice_are_fair_most_sides :
    |((gridOf 9999999999 9999999999).card : ℚ) - 2 ^ 53 / (9999999999 : Int)| < 2 ∧
      ∃ state drawn, face 9999999999 (Source.generator state drawn).next.1 = .ok 9999999999 := by
  obtain ⟨-, hfair⟩ := dice_are_fair
  exact hfair 9999999999 9999999999 (by decide) (by decide) (by decide) (by decide)

end Dice
end Tabletop
