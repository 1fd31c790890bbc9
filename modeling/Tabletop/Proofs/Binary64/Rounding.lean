import Mathlib
import Tabletop.Binary64

/-!
# Rounding to 53 bits

A finite number stands for a rational one.  The result of an operation is the exact result in
units of the last place that the format keeps of it, taken to the nearest whole number of these
units, and to the even one of two that are equally near.

Both the last place and the nearest whole number grow with the exact result, so rounding is
monotone.  It leaves whole numbers of 53 bits alone.  What stays below a number by more than the
`2 ^ 53`rd part of it is not lifted to that number: half a unit of the last place is not enough.
-/

namespace Tabletop
namespace Binary64

/-- The number that a finite one stands for. -/
def toRat? : Binary64 → Option ℚ
  | finite negative m e => some ((if negative then -1 else 1) * (m * (2 : ℚ) ^ e))
  | _ => none

/-- A number as the format has it: a finite one has at most 53 bits, none of them below the
last place of all. -/
def InFormat : Binary64 → Prop
  | finite _ m e => Fits m e
  | _ => True

/-- A whole number that is nearest to another one, and even if there are two. -/
structure NearestEven (q : ℚ) (k : ℤ) : Prop where
  near : |(k : ℚ) - q| ≤ 1 / 2
  even : |(k : ℚ) - q| = 1 / 2 → Even k

/-- The last place that is kept of a number: the least at which the number has at most 53 bits,
but none below `2 ^ -1074`. -/
structure LastPlace (q : ℚ) (e : ℤ) : Prop where
  least : -1074 ≤ e
  lt : q < 2 ^ 53 * (2 : ℚ) ^ e
  le : -1074 < e → 2 ^ 52 * (2 : ℚ) ^ e ≤ q

/-- A number is rounded to another one. -/
def RoundsTo (q r : ℚ) : Prop :=
  ∃ (e : ℤ) (k : ℤ), LastPlace q e ∧ NearestEven (q / (2 : ℚ) ^ e) k ∧ r = k * (2 : ℚ) ^ e

/-! ## Powers of two -/

theorem two_zpow_pos (e : ℤ) : 0 < (2 : ℚ) ^ e := zpow_pos (by norm_num) e

theorem two_zpow_le {e f : ℤ} (hle : e ≤ f) : (2 : ℚ) ^ e ≤ (2 : ℚ) ^ f :=
  zpow_le_zpow_right₀ (by norm_num) hle

theorem two_zpow_succ (e : ℤ) : (2 : ℚ) ^ (e + 1) = 2 * (2 : ℚ) ^ e := by
  rw [zpow_add_one₀ (by norm_num), mul_comm]

theorem cast_twoTo (n : ℕ) : (twoTo n : ℚ) = (2 : ℚ) ^ n := by
  have hpow : twoTo n = 2 ^ n := rfl
  rw [hpow, Nat.cast_pow, Nat.cast_ofNat]

theorem twoTo_pos (n : ℕ) : 0 < twoTo n := Nat.two_pow_pos n

/-- A power of two is a quotient of two with natural exponents. -/
theorem twoTo_div_twoTo (e : ℤ) :
    (twoTo e.toNat : ℚ) / (twoTo (-e).toNat : ℚ) = (2 : ℚ) ^ e := by
  rw [cast_twoTo, cast_twoTo, ← zpow_natCast, ← zpow_natCast, ← zpow_sub₀ (by norm_num)]
  congr 1
  omega

/-- Measured in units of `2 ^ e`, a quotient is the same number of units. -/
theorem inUnits_eq (num den : ℕ) (e : ℤ) :
    ((inUnits num den e).1 : ℚ) / ((inUnits num den e).2 : ℚ) = num / den / (2 : ℚ) ^ e := by
  have hscale := twoTo_div_twoTo e
  have hback : (twoTo (-e).toNat : ℚ) ≠ 0 := by
    have := twoTo_pos (-e).toNat
    positivity
  rw [← hscale]
  simp only [inUnits, Nat.cast_mul]
  field_simp

/-! ## Values -/

theorem isInfinite_of_toRat? {x : Binary64} {q : ℚ} (hq : x.toRat? = some q) :
    x.isInfinite = false := by
  cases x with
  | finite negative m e => rfl
  | infinite negative => cases hq
  | nan => rfl

theorem floor?_eq (x : Binary64) : x.floor? = x.toRat?.map Int.floor := by
  cases x with
  | finite negative m e =>
      have hsigned : (((if negative then -1 else 1 : ℚ)) * (m * (2 : ℚ) ^ e)) =
          (((if negative then -(m : ℤ) else m) * (twoTo e.toNat : ℤ) : ℤ) : ℚ) /
            (twoTo (-e).toNat : ℕ) := by
        rw [← twoTo_div_twoTo e]
        split
        · push_cast
          ring
        · push_cast
          ring
      simp only [floor?, toRat?, Option.map_some, hsigned, Rat.floor_intCast_div_natCast]
  | infinite negative => rfl
  | nan => rfl

theorem inUnitInterval_iff {x : Binary64} :
    x.inUnitInterval = true ↔ ∃ q, x.toRat? = some q ∧ 0 ≤ q ∧ q < 1 := by
  cases x with
  | finite negative m e =>
      have hpos := two_zpow_pos e
      have hbelow : m * twoTo e.toNat / twoTo (-e).toNat = 0 ↔ (m : ℚ) * (2 : ℚ) ^ e < 1 := by
        have hden : (0 : ℚ) < (twoTo (-e).toNat : ℚ) := by
          exact_mod_cast twoTo_pos (-e).toNat
        rw [Nat.div_eq_zero_iff_lt (twoTo_pos _), ← twoTo_div_twoTo e, ← mul_div_assoc,
          div_lt_one hden]
        norm_cast
      simp only [inUnitInterval, toRat?, Option.some.injEq, exists_eq_left', Bool.and_eq_true,
        beq_iff_eq, hbelow]
      cases negative with
      | false =>
          have hnonneg : 0 ≤ (m : ℚ) * (2 : ℚ) ^ e := by positivity
          simp [hnonneg]
      | true =>
          by_cases hm : m = 0
          · simp [hm]
          · have hlow : 0 < (m : ℚ) * (2 : ℚ) ^ e := by positivity
            simp [hm]
            intro hnonneg
            linarith
  | infinite negative => simp [inUnitInterval, toRat?]
  | nan => simp [inUnitInterval, toRat?]

theorem le_of_exponent_le {m : ℕ} {e : ℤ} (hm : m < 2 ^ 53) (he : e ≤ -53) :
    m * (2 : ℚ) ^ e ≤ 1 - 1 / 2 ^ 53 := by
  have hunit : (2 : ℚ) ^ e ≤ (2 : ℚ) ^ (-53 : ℤ) := two_zpow_le he
  have hbelow : (m : ℚ) ≤ 2 ^ 53 - 1 := by
    have hcast : ((m + 1 : ℕ) : ℚ) ≤ ((2 ^ 53 : ℕ) : ℚ) := by exact_mod_cast hm
    push_cast at hcast
    linarith
  calc
    m * (2 : ℚ) ^ e ≤ (2 ^ 53 - 1) * (2 : ℚ) ^ (-53 : ℤ) :=
      mul_le_mul hbelow hunit (two_zpow_pos e).le (by norm_num)
    _ = 1 - 1 / 2 ^ 53 := by norm_num

/-- A whole number of units that are no smaller is also one of units of `2 ^ -53`. -/
theorem exists_units_eq (k : ℤ) {e : ℤ} (he : -53 ≤ e) :
    ∃ j : ℤ, k * (2 : ℚ) ^ e = j / 2 ^ 53 := by
  refine ⟨k * 2 ^ (e + 53).toNat, ?_⟩
  have hexponent : ((e + 53).toNat : ℤ) = e + 53 := Int.toNat_of_nonneg (by omega)
  have hsplit : (2 : ℚ) ^ (e + 53).toNat = (2 : ℚ) ^ e * 2 ^ 53 := by
    rw [← zpow_natCast _ (e + 53).toNat, hexponent, zpow_add₀ (by norm_num)]
    norm_num
  push_cast
  rw [hsplit, ← mul_assoc, mul_div_cancel_right₀ _ (by norm_num)]

theorem units_le_of_lt_one {j : ℤ} (hlt : (j : ℚ) / 2 ^ 53 < 1) :
    (j : ℚ) / 2 ^ 53 ≤ 1 - 1 / 2 ^ 53 := by
  have hbelow : (j : ℚ) < 2 ^ 53 := by
    rwa [div_lt_one (by norm_num)] at hlt
  have hwhole : j ≤ 2 ^ 53 - 1 := by
    have hint : j < 2 ^ 53 := by exact_mod_cast hbelow
    omega
  have hcast : (j : ℚ) ≤ 2 ^ 53 - 1 := by exact_mod_cast hwhole
  rw [div_le_iff₀ (by norm_num)]
  linarith

/-- A number of the format below one stays below it by the last place of its neighbours. -/
theorem InFormat.le_of_lt_one {x : Binary64} (hx : x.InFormat) {q : ℚ} (hq : x.toRat? = some q)
    (hlt : q < 1) : q ≤ 1 - 1 / 2 ^ 53 := by
  cases x with
  | finite negative m e =>
      obtain rfl := Option.some.inj hq
      by_cases he : e ≤ -53
      · have hmagnitude := le_of_exponent_le hx.mantissa_lt he
        have hnonneg : 0 ≤ (m : ℚ) * (2 : ℚ) ^ e :=
          mul_nonneg m.cast_nonneg (two_zpow_pos e).le
        split
        · linarith
        · linarith
      · have hunits : ∃ j : ℤ, (if negative then -1 else 1 : ℚ) * (m * (2 : ℚ) ^ e) =
            j / 2 ^ 53 := by
          obtain ⟨j, hj⟩ := exists_units_eq ((if negative then -1 else 1) * m) (by omega : -53 ≤ e)
          refine ⟨j, ?_⟩
          rw [← hj, ← mul_assoc]
          push_cast
          rfl
        obtain ⟨j, hj⟩ := hunits
        rw [hj] at hlt ⊢
        exact units_le_of_lt_one hlt
  | infinite negative => cases hq
  | nan => cases hq

/-! ## The nearest whole number -/

theorem NearestEven.of_lt {q : ℚ} {k : ℤ} (hlt : |(k : ℚ) - q| < 1 / 2) : NearestEven q k :=
  ⟨hlt.le, fun htie => absurd htie hlt.ne⟩

theorem NearestEven.self (k : ℤ) : NearestEven k k := by
  apply NearestEven.of_lt
  simp

theorem nearestEven_of_lt_half {n : ℕ} {r : ℚ} (hlow : 0 ≤ r) (hhalf : r < 1 / 2) :
    NearestEven (n + r) n := by
  apply NearestEven.of_lt
  rw [abs_lt, Int.cast_natCast]
  constructor <;> linarith

theorem nearestEven_of_half_lt {n : ℕ} {r : ℚ} (hhalf : 1 / 2 < r) (hup : r < 1) :
    NearestEven (n + r) (n + 1 : ℕ) := by
  apply NearestEven.of_lt
  rw [abs_lt, Int.cast_natCast, Nat.cast_add, Nat.cast_one]
  constructor <;> linarith

theorem nearestEven_of_half (n : ℕ) : NearestEven (n + 1 / 2) (n + n % 2 : ℕ) := by
  have heven : Even ((n + n % 2 : ℕ) : ℤ) := by
    rw [Int.even_iff]
    omega
  refine ⟨?_, fun _ => heven⟩
  rcases Nat.mod_two_eq_zero_or_one n with hzero | hone
  · rw [hzero, abs_le, Int.cast_natCast]
    constructor <;> push_cast <;> linarith
  · rw [hone, abs_le, Int.cast_natCast]
    constructor <;> push_cast <;> linarith

theorem nearestEven_roundHalfEven (num : ℕ) {den : ℕ} (hden : 0 < den) :
    NearestEven (num / den) (roundHalfEven num den : ℕ) := by
  have hpos : (0 : ℚ) < den := by exact_mod_cast hden
  have hrest : num % den < den := Nat.mod_lt num hden
  have hquotient : (num : ℚ) / den = (num / den : ℕ) + (num % den : ℕ) / den := by
    have hsplit : (num : ℚ) = den * (num / den : ℕ) + (num % den : ℕ) := by
      exact_mod_cast (Nat.div_add_mod num den).symm
    conv_lhs => rw [hsplit]
    field_simp
  simp only [roundHalfEven]
  rw [hquotient]
  generalize num / den = quotient
  generalize num % den = rest at hrest
  by_cases hbelow : 2 * rest < den
  · rw [if_pos hbelow]
    apply nearestEven_of_lt_half (by positivity)
    have hcast : (2 : ℚ) * rest < den := by exact_mod_cast hbelow
    rw [div_lt_iff₀ hpos]
    linarith
  · by_cases habove : den < 2 * rest
    · rw [if_neg hbelow, if_pos habove]
      have hlt : (rest : ℚ) / den < 1 := by
        rw [div_lt_one hpos]
        exact_mod_cast hrest
      apply nearestEven_of_half_lt ?_ hlt
      have hcast : (den : ℚ) < 2 * rest := by exact_mod_cast habove
      rw [lt_div_iff₀ hpos]
      linarith
    · have hhalf : (rest : ℚ) / den = 1 / 2 := by
        have hcast : (den : ℚ) = 2 * rest := by
          have htie : den = 2 * rest := by omega
          exact_mod_cast htie
        rw [div_eq_iff hpos.ne']
        linarith
      rw [if_neg hbelow, if_neg habove, hhalf]
      exact nearestEven_of_half quotient

theorem NearestEven.mono {p q : ℚ} {j k : ℤ} (hj : NearestEven p j) (hk : NearestEven q k)
    (hle : p ≤ q) : j ≤ k := by
  have hjnear := abs_le.mp hj.near
  have hknear := abs_le.mp hk.near
  by_contra hlt
  have hstep : (k : ℚ) + 1 ≤ j := by
    have hint : k + 1 ≤ j := by omega
    exact_mod_cast hint
  -- Both numbers lie halfway between two neighbours, and only one of these is even.
  have htieLeft : |(j : ℚ) - p| = 1 / 2 := by
    rw [abs_eq (by norm_num)]
    left
    linarith
  have htieRight : |(k : ℚ) - q| = 1 / 2 := by
    rw [abs_eq (by norm_num)]
    right
    linarith
  have hneighbour : j = k + 1 := by
    have hcast : (j : ℚ) = k + 1 := by linarith
    exact_mod_cast hcast
  have hjeven := hj.even htieLeft
  have hkeven := hk.even htieRight
  rw [Int.even_iff] at hjeven hkeven
  omega

/-! ## The last place -/

theorem LastPlace.mono {p q : ℚ} {e f : ℤ} (he : LastPlace p e) (hf : LastPlace q f)
    (hle : p ≤ q) : e ≤ f := by
  by_contra hlt
  have hlow : 2 ^ 52 * (2 : ℚ) ^ e ≤ p := he.le (by have := hf.least; omega)
  have hup : q < 2 ^ 52 * (2 : ℚ) ^ (f + 1) := by
    have := hf.lt
    rw [two_zpow_succ]
    linarith
  have hunits : (2 : ℚ) ^ (f + 1) ≤ (2 : ℚ) ^ e := two_zpow_le (by omega)
  linarith

theorem LastPlace.of_bounds {q : ℚ} {e : ℤ} (hlt : q < 2 ^ 53 * (2 : ℚ) ^ e)
    (hle : 2 ^ 52 * (2 : ℚ) ^ e ≤ q) : LastPlace q (max (-1074) e) := by
  refine ⟨le_max_left _ _, ?_, ?_⟩
  · have hunits : (2 : ℚ) ^ e ≤ (2 : ℚ) ^ max (-1074) e := two_zpow_le (le_max_right _ _)
    linarith
  · intro hnormal
    rw [max_eq_right (by omega)]
    exact hle

theorem cast_lt_two_zpow_log2 (n : ℕ) : (n : ℚ) < (2 : ℚ) ^ ((n.log2 : ℤ) + 1) := by
  have hlt : n < 2 ^ (n.log2 + 1) := Nat.lt_log2_self
  have hcast : (n : ℚ) < (2 : ℚ) ^ (n.log2 + 1) := by exact_mod_cast hlt
  exact_mod_cast hcast

theorem two_zpow_log2_le {n : ℕ} (hn : 0 < n) : (2 : ℚ) ^ (n.log2 : ℤ) ≤ n := by
  have hle : 2 ^ n.log2 ≤ n := Nat.log2_self_le hn.ne'
  have hcast : (2 : ℚ) ^ n.log2 ≤ n := by exact_mod_cast hle
  exact_mod_cast hcast

/-- The bits of the two parts bound a quotient to a factor of four. -/
theorem lt_of_log2 (num : ℕ) {den : ℕ} (hden : 0 < den) :
    (num : ℚ) / den < 2 ^ 54 * (2 : ℚ) ^ ((num.log2 : ℤ) - den.log2 - 53) := by
  have hpos : (0 : ℚ) < den := by exact_mod_cast hden
  have hsplit : (2 : ℚ) ^ ((num.log2 : ℤ) + 1) =
      2 ^ 54 * (2 : ℚ) ^ ((num.log2 : ℤ) - den.log2 - 53) * 2 ^ (den.log2 : ℤ) := by
    rw [← zpow_natCast 2 54, ← zpow_add₀ (by norm_num), ← zpow_add₀ (by norm_num)]
    congr 1
    simp only [Nat.cast_ofNat]
    omega
  rw [div_lt_iff₀ hpos]
  calc
    (num : ℚ) < (2 : ℚ) ^ ((num.log2 : ℤ) + 1) := cast_lt_two_zpow_log2 num
    _ = 2 ^ 54 * (2 : ℚ) ^ ((num.log2 : ℤ) - den.log2 - 53) * 2 ^ (den.log2 : ℤ) := hsplit
    _ ≤ 2 ^ 54 * (2 : ℚ) ^ ((num.log2 : ℤ) - den.log2 - 53) * den :=
        mul_le_mul_of_nonneg_left (two_zpow_log2_le hden) (by positivity)

theorem le_of_log2 {num den : ℕ} (hnum : 0 < num) (hden : 0 < den) :
    2 ^ 52 * (2 : ℚ) ^ ((num.log2 : ℤ) - den.log2 - 53) ≤ num / den := by
  have hpos : (0 : ℚ) < den := by exact_mod_cast hden
  have hsplit : 2 ^ 52 * (2 : ℚ) ^ ((num.log2 : ℤ) - den.log2 - 53) *
      2 ^ ((den.log2 : ℤ) + 1) = (2 : ℚ) ^ (num.log2 : ℤ) := by
    rw [← zpow_natCast 2 52, ← zpow_add₀ (by norm_num), ← zpow_add₀ (by norm_num)]
    congr 1
    simp only [Nat.cast_ofNat]
    omega
  rw [le_div_iff₀ hpos]
  calc
    2 ^ 52 * (2 : ℚ) ^ ((num.log2 : ℤ) - den.log2 - 53) * den ≤
        2 ^ 52 * (2 : ℚ) ^ ((num.log2 : ℤ) - den.log2 - 53) * 2 ^ ((den.log2 : ℤ) + 1) :=
      mul_le_mul_of_nonneg_left (cast_lt_two_zpow_log2 den).le (by positivity)
    _ = (2 : ℚ) ^ (num.log2 : ℤ) := hsplit
    _ ≤ num := two_zpow_log2_le hnum

/-- Whether a quotient has at most so many bits in some units is seen from whole numbers. -/
theorem inUnits_lt_iff (num : ℕ) {den : ℕ} (hden : 0 < den) (e : ℤ) (n : ℕ) :
    (inUnits num den e).1 / (inUnits num den e).2 < twoTo n ↔
      (num : ℚ) / den < 2 ^ n * (2 : ℚ) ^ e := by
  have hdenUnits : 0 < (inUnits num den e).2 := Nat.mul_pos hden (twoTo_pos _)
  have hcast : (0 : ℚ) < (inUnits num den e).2 := by exact_mod_cast hdenUnits
  rw [Nat.div_lt_iff_lt_mul hdenUnits, ← div_lt_iff₀ (two_zpow_pos e), ← inUnits_eq,
    div_lt_iff₀ hcast, ← Nat.cast_lt (α := ℚ), Nat.cast_mul, cast_twoTo]

theorem lastPlace_spec {num den : ℕ} (hnum : 0 < num) (hden : 0 < den) :
    LastPlace (num / den) (lastPlace num den) := by
  have hup := lt_of_log2 num hden
  have hlow := le_of_log2 hnum hden
  have hshort := inUnits_lt_iff num hden ((num.log2 : ℤ) - den.log2 - 53) 53
  simp only [lastPlace]
  rw [if_congr hshort rfl rfl]
  generalize (num.log2 : ℤ) - den.log2 - 53 = e at hup hlow
  -- The first guess is right or too low by one.
  by_cases hbelow : (num : ℚ) / den < 2 ^ 53 * (2 : ℚ) ^ e
  · rw [if_pos hbelow]
    exact .of_bounds hbelow hlow
  · rw [if_neg hbelow]
    apply LastPlace.of_bounds
    · rw [two_zpow_succ]
      linarith
    · rw [two_zpow_succ]
      linarith

/-! ## Rounding -/

theorem RoundsTo.mono {p q r s : ℚ} (hp : RoundsTo p r) (hq : RoundsTo q s) (hle : p ≤ q) :
    r ≤ s := by
  obtain ⟨e, j, he, hj, rfl⟩ := hp
  obtain ⟨f, k, hf, hk, rfl⟩ := hq
  have heunit := two_zpow_pos e
  have hfunit := two_zpow_pos f
  rcases (he.mono hf hle).eq_or_lt with rfl | hlt
  · have hwhole : j ≤ k := hj.mono hk (div_le_div_of_nonneg_right hle heunit.le)
    have hcast : (j : ℚ) ≤ k := by exact_mod_cast hwhole
    exact mul_le_mul_of_nonneg_right hcast heunit.le
  · -- What ends below the last place of the other number is at most the power of two between.
    have hj53 : j ≤ 2 ^ 53 := by
      have hbelow : p / (2 : ℚ) ^ e ≤ ((2 ^ 53 : ℤ) : ℚ) := by
        rw [div_le_iff₀ heunit]
        push_cast
        exact he.lt.le
      exact hj.mono (.self (2 ^ 53)) hbelow
    have hk52 : 2 ^ 52 ≤ k := by
      have hnormal : 2 ^ 52 * (2 : ℚ) ^ f ≤ q := hf.le (by have := he.least; omega)
      have habove : ((2 ^ 52 : ℤ) : ℚ) ≤ q / (2 : ℚ) ^ f := by
        rw [le_div_iff₀ hfunit]
        push_cast
        exact hnormal
      exact NearestEven.mono (.self (2 ^ 52)) hk habove
    have hjcast : (j : ℚ) ≤ 2 ^ 53 := by exact_mod_cast hj53
    have hkcast : (2 : ℚ) ^ 52 ≤ k := by exact_mod_cast hk52
    have hunits : (2 : ℚ) ^ (e + 1) ≤ (2 : ℚ) ^ f := two_zpow_le hlt
    calc
      (j : ℚ) * (2 : ℚ) ^ e ≤ 2 ^ 53 * (2 : ℚ) ^ e :=
          mul_le_mul_of_nonneg_right hjcast heunit.le
      _ = 2 ^ 52 * (2 : ℚ) ^ (e + 1) := by
          rw [two_zpow_succ]
          ring
      _ ≤ k * (2 : ℚ) ^ f := mul_le_mul hkcast hunits (two_zpow_pos _).le (by positivity)

theorem RoundsTo.unique {q r s : ℚ} (hr : RoundsTo q r) (hs : RoundsTo q s) : r = s :=
  le_antisymm (hr.mono hs le_rfl) (hs.mono hr le_rfl)

/-- A whole number of units of its last place is left alone. -/
theorem roundsTo_self {e k : ℤ} (he : LastPlace (k * (2 : ℚ) ^ e) e) :
    RoundsTo (k * (2 : ℚ) ^ e) (k * (2 : ℚ) ^ e) := by
  have hunits : (k : ℚ) * (2 : ℚ) ^ e / (2 : ℚ) ^ e = k :=
    mul_div_cancel_right₀ (k : ℚ) (two_zpow_pos e).ne'
  refine ⟨e, k, he, ?_, rfl⟩
  rw [hunits]
  exact .self k

theorem roundsTo_zero : RoundsTo 0 0 := by
  have hplace : LastPlace ((0 : ℤ) * (2 : ℚ) ^ (-1074 : ℤ)) (-1074) :=
    ⟨le_rfl, by simp, fun hlt => absurd hlt (lt_irrefl _)⟩
  have hself := roundsTo_self hplace
  rwa [Int.cast_zero, zero_mul] at hself

theorem RoundsTo.nonneg {q r : ℚ} (hr : RoundsTo q r) (hq : 0 ≤ q) : 0 ≤ r :=
  roundsTo_zero.mono hr hq

/-- What is below a number by the `2 ^ 53`rd part of it or more stays below it. -/
theorem RoundsTo.lt {q r s : ℚ} (hr : RoundsTo q r) (hs : 1 ≤ s) (hq : q ≤ s - s / 2 ^ 53) :
    r < s := by
  obtain ⟨e, k, he, hk, rfl⟩ := hr
  have hunit := two_zpow_pos e
  by_contra hge
  have hhalf : (k : ℚ) * (2 : ℚ) ^ e - q ≤ (2 : ℚ) ^ e / 2 := by
    have hnear : (k : ℚ) ≤ q / (2 : ℚ) ^ e + 1 / 2 := by
      have := (abs_le.mp hk.near).2
      linarith
    have hscaled := mul_le_mul_of_nonneg_right hnear hunit.le
    rw [add_mul, div_mul_cancel₀ _ hunit.ne'] at hscaled
    linarith
  have hwide : s ≤ 2 ^ 52 * (2 : ℚ) ^ e := by
    have hgap : s / 2 ^ 53 ≤ (2 : ℚ) ^ e / 2 := by linarith
    rw [div_le_iff₀ (by norm_num)] at hgap
    linarith
  have hqs : q < s := by
    have hpart : 0 < s / 2 ^ 53 := by positivity
    linarith
  by_cases hleast : -1074 < e
  · have hnormal := he.le hleast
    linarith
  · -- At the least of all last places half a unit is far below one.
    have hsmall : (2 : ℚ) ^ e ≤ (2 : ℚ) ^ (-53 : ℤ) := two_zpow_le (by omega)
    norm_num at hsmall
    linarith

/-! ## Results of operations -/

/-- A quotient of less than 64 bits never becomes infinite. -/
theorem toRat?_ofQuotient (negative : Bool) {num den : ℕ} (hden : 0 < den)
    (hlt : (num : ℚ) / den < 2 ^ 64) :
    ∃ r, RoundsTo (num / den) r ∧
      (ofQuotient negative num den).toRat? = some ((if negative then -1 else 1) * r) := by
  rcases Nat.eq_zero_or_pos num with rfl | hnum
  · refine ⟨0, ?_, ?_⟩
    · rw [Nat.cast_zero, zero_div]
      exact roundsTo_zero
    · simp [ofQuotient, toRat?]
  · have hplace := lastPlace_spec hnum hden
    have hdenUnits : 0 < (inUnits num den (lastPlace num den)).2 :=
      Nat.mul_pos hden (twoTo_pos _)
    have hnearest := nearestEven_roundHalfEven (inUnits num den (lastPlace num den)).1 hdenUnits
    rw [inUnits_eq] at hnearest
    refine ⟨_, ⟨_, _, hplace, hnearest, rfl⟩, ?_⟩
    have hsmall : lastPlace num den < 12 := by
      by_contra hlarge
      have hnormal := hplace.le (by omega)
      have hunits : (2 : ℚ) ^ (12 : ℤ) ≤ (2 : ℚ) ^ lastPlace num den := two_zpow_le (by omega)
      norm_num at hunits hlt hnormal
      linarith
    simp only [ofQuotient]
    rw [if_neg hnum.ne']
    split
    next hcarry =>
      rw [if_neg (by omega), hcarry, toRat?, two_zpow_succ, cast_twoTo, Int.cast_natCast,
        cast_twoTo]
      congr 1
      ring
    next =>
      rw [if_neg (by omega), toRat?, Int.cast_natCast]

theorem roundsTo_natCast {n : ℕ} (hn : n < 2 ^ 53) : RoundsTo n n := by
  rcases Nat.eq_zero_or_pos n with rfl | hpos
  · rw [Nat.cast_zero]
    exact roundsTo_zero
  · have hplace := lastPlace_spec hpos Nat.one_pos
    rw [Nat.cast_one, div_one] at hplace
    generalize lastPlace n 1 = e at hplace
    have he : e ≤ 0 := by
      by_contra hlarge
      have hnormal := hplace.le (by omega)
      have hunits : (2 : ℚ) ^ (1 : ℤ) ≤ (2 : ℚ) ^ e := two_zpow_le (by omega)
      have hcast : (n : ℚ) < 2 ^ 53 := by exact_mod_cast hn
      norm_num at hunits hnormal
      linarith
    have hwhole : (n : ℚ) = ((n * 2 ^ (-e).toNat : ℤ) : ℚ) * (2 : ℚ) ^ e := by
      have hcancel : (2 : ℚ) ^ (-e).toNat * (2 : ℚ) ^ e = 1 := by
        rw [← zpow_natCast, ← zpow_add₀ (by norm_num), Int.toNat_of_nonneg (by omega),
          neg_add_cancel, zpow_zero]
      push_cast
      rw [mul_assoc, hcancel, mul_one]
    rw [hwhole] at hplace ⊢
    exact roundsTo_self hplace

theorem toRat?_ofInt {n : ℕ} (hn : n < 2 ^ 53) : (ofInt n).toRat? = some (n : ℚ) := by
  have hlt : (n : ℚ) / (1 : ℕ) < 2 ^ 64 := by
    have hcast : (n : ℚ) < 2 ^ 53 := by exact_mod_cast hn
    rw [Nat.cast_one, div_one]
    linarith
  obtain ⟨r, hr, hvalue⟩ := toRat?_ofQuotient false Nat.one_pos hlt
  rw [Nat.cast_one, div_one] at hr
  have hexact : r = n := hr.unique (roundsTo_natCast hn)
  have hsign : decide ((n : ℤ) < 0) = false := by simp
  rw [ofInt, hsign, Int.natAbs_natCast, hvalue, hexact]
  simp

/-- A number that is not negative is as large as its mantissa says; only zero has a minus sign. -/
theorem magnitude_of_nonneg {negative : Bool} {m : ℕ} {e : ℤ} {q : ℚ}
    (hq : (finite negative m e).toRat? = some q) (hnonneg : 0 ≤ q) :
    q = m * (2 : ℚ) ^ e ∧ (negative = true → q = 0) := by
  have hsigned := Option.some.inj hq
  have hmagnitude : 0 ≤ (m : ℚ) * (2 : ℚ) ^ e := mul_nonneg m.cast_nonneg (two_zpow_pos e).le
  cases negative with
  | false =>
      rw [if_neg (by decide), one_mul] at hsigned
      exact ⟨hsigned.symm, nofun⟩
  | true =>
      rw [if_pos rfl] at hsigned
      refine ⟨by linarith, fun _ => by linarith⟩

/-- The product of two numbers that are not negative is their exact product, rounded. -/
theorem toRat?_mul {x y : Binary64} {a b : ℚ} (hx : x.toRat? = some a) (hy : y.toRat? = some b)
    (ha : 0 ≤ a) (hb : 0 ≤ b) (hlt : a * b < 2 ^ 64) :
    ∃ r, RoundsTo (a * b) r ∧ (x.mul y).toRat? = some r := by
  cases x with
  | finite s m e =>
      cases y with
      | finite t n f =>
          obtain ⟨hm, hzeroLeft⟩ := magnitude_of_nonneg hx ha
          obtain ⟨hn, hzeroRight⟩ := magnitude_of_nonneg hy hb
          have hproduct : ((m * n * twoTo (e + f).toNat : ℕ) : ℚ) / (twoTo (-(e + f)).toNat : ℕ) =
              a * b := by
            rw [Nat.cast_mul, mul_div_assoc, twoTo_div_twoTo, Nat.cast_mul, hm, hn,
              zpow_add₀ (by norm_num)]
            ring
          rw [← hproduct] at hlt
          obtain ⟨r, hr, hvalue⟩ := toRat?_ofQuotient (s ^^ t) (twoTo_pos _) hlt
          rw [hproduct] at hr
          refine ⟨r, hr, ?_⟩
          rw [mul, hvalue]
          by_cases hsign : (s ^^ t) = true
          · -- One of the factors is a negative zero, and then so is the product.
            have hzero : a * b = 0 := by
              cases s with
              | true => rw [hzeroLeft rfl, zero_mul]
              | false =>
                  rw [Bool.false_xor] at hsign
                  rw [hzeroRight hsign, mul_zero]
            rw [hzero] at hr
            rw [hr.unique roundsTo_zero, mul_zero]
          · rw [if_neg hsign, one_mul]
      | infinite _ => cases hy
      | nan => cases hy
  | infinite _ => cases hx
  | nan => cases hx

end Binary64
end Tabletop
