import Tabletop.Proofs.Binary64.Rounding
import Tabletop.Random.Source
import Mathlib

/-!
# Samples

What a sample is that is fit for a die, and which samples the generator makes.
-/

namespace Tabletop
namespace Random

/-!
## Samples in the unit interval

A sample stands for a number.  A source is fit to roll with if all samples that are
still to come from it lie in `[0, 1)`.  It stays fit while it is used up, and every
generator is fit: two words of it make a number below `2 ^ 53`.
-/

namespace Sample

/-- The number that a sample stands for. -/
def toRat? : Sample → Option ℚ
  | whole n => some n
  | real x => x.toRat?

/-- A sample is a whole number or a number of the floating point format. -/
def InFormat : Sample → Prop
  | whole _ => True
  | real x => x.InFormat

/-- A sample stands for a number of `[0, 1)`. -/
def InRange (sample : Sample) : Prop := ∃ q, sample.toRat? = some q ∧ 0 ≤ q ∧ q < 1

theorem inUnitInterval_iff {sample : Sample} :
    sample.inUnitInterval = true ↔ sample.InRange := by
  unfold InRange
  cases sample with
  | whole n =>
      simp only [inUnitInterval, toRat?, Option.some.injEq, exists_eq_left', beq_iff_eq]
      constructor
      · rintro rfl
        exact ⟨le_rfl, one_pos⟩
      · rintro ⟨hlow, hup⟩
        have hnonneg : 0 ≤ n := by exact_mod_cast hlow
        have hlt : n < 1 := by exact_mod_cast hup
        omega
  | real x => exact Binary64.inUnitInterval_iff

theorem toRat?_ofGrid (n : ℕ) : (ofGrid n).toRat? = some ((n : ℚ) / 2 ^ 53) := by
  have hunit : (2 : ℚ) ^ (-53 : ℤ) = 1 / 2 ^ 53 := by norm_num
  simp only [ofGrid, toRat?, Binary64.toRat?, hunit]
  congr 1
  simp only [Bool.false_eq_true, if_false]
  ring

theorem inFormat_ofGrid {n : Nat} (hn : n < 2 ^ 53) : (ofGrid n).InFormat :=
  ⟨hn, by decide, by decide⟩

theorem InFormat.le_of_lt_one {sample : Sample} (hsample : sample.InFormat) {q : ℚ}
    (hq : sample.toRat? = some q) (hup : q < 1) : q ≤ 1 - 1 / 2 ^ 53 := by
  cases sample with
  | whole n =>
      obtain rfl : (n : ℚ) = q := Option.some.inj hq
      have hn : n ≤ 0 := by
        have hlt : n < 1 := by exact_mod_cast hup
        omega
      have hcast : (n : ℚ) ≤ 0 := by exact_mod_cast hn
      norm_num
      linarith
  | real x => exact Binary64.InFormat.le_of_lt_one hsample hq hup

end Sample

theorem Sample.inUnitInterval_ofGrid {n : Nat} (hn : n < 2 ^ 53) :
    (ofGrid n).inUnitInterval = true := by
  have hquotient :
      n * Binary64.twoTo (-53 : Int).toNat / Binary64.twoTo (- -53 : Int).toNat = 0 := by
    rw [show Binary64.twoTo (-53 : Int).toNat = 1 by decide,
      show Binary64.twoTo (- -53 : Int).toNat = 2 ^ 53 by decide, Nat.mul_one]
    exact Nat.div_eq_of_lt hn
  simp only [inUnitInterval, ofGrid, Binary64.inUnitInterval, Bool.not_false, Bool.true_or,
    Bool.true_and, hquotient, BEq.rfl]

theorem Twister.next53_lt (t : Twister) : t.next53.1 < 2 ^ 53 := by
  have hhigh : (t.next.1 >>> 5).toNat < 2 ^ 27 := by
    have hword := t.next.1.toNat_lt
    rw [UInt32.toNat_shiftRight, Nat.shiftRight_eq_div_pow]
    exact Nat.div_lt_of_lt_mul hword
  have hlow : (t.next.2.next.1 >>> 6).toNat < 2 ^ 26 := by
    have hword := t.next.2.next.1.toNat_lt
    rw [UInt32.toNat_shiftRight, Nat.shiftRight_eq_div_pow]
    exact Nat.div_lt_of_lt_mul hword
  simp only [next53]
  omega

namespace Source

/-- All samples that are still to come lie in `[0, 1)`. -/
def InUnitInterval (source : Source) : Prop := ∀ n, (source.peek n).inUnitInterval = true

variable {source : Source}

theorem InUnitInterval.skip (hsource : source.InUnitInterval) (n : Nat) :
    (source.skip n).InUnitInterval := by
  intro k
  rw [peek, skip_skip]
  exact hsource (n + k)

theorem peek_stream (samples : Nat → Sample) (drawn n : Nat) :
    (stream samples drawn).peek n = samples (drawn + n) := by
  induction n generalizing drawn with
  | zero => rfl
  | succ n ih =>
      have hrest := ih (drawn + 1)
      rwa [Nat.add_right_comm, Nat.add_assoc] at hrest

theorem inUnitInterval_stream {samples : Nat → Sample}
    (hsamples : ∀ n, (samples n).inUnitInterval = true) (drawn : Nat) :
    (stream samples drawn).InUnitInterval := by
  intro n
  rw [peek_stream]
  exact hsamples (drawn + n)

/-- What comes from a generator is a multiple of `2 ^ -53`. -/
theorem peek_generator (state : Twister) (drawn n : Nat) :
    ∃ grid < 2 ^ 53, (generator state drawn).peek n = .ofGrid grid := by
  induction n generalizing state drawn with
  | zero => exact ⟨state.next53.1, state.next53_lt, rfl⟩
  | succ n ih => exact ih state.next53.2 (drawn + 1)

theorem inUnitInterval_generator (state : Twister) (drawn : Nat) :
    (generator state drawn).InUnitInterval := by
  intro n
  obtain ⟨grid, hgrid, hpeek⟩ := peek_generator state drawn n
  rw [hpeek]
  exact Sample.inUnitInterval_ofGrid hgrid

/-- A seed always makes a source that is fit to roll with. -/
theorem inUnitInterval_ofSeed (seed : Seed) : (ofSeed seed).InUnitInterval :=
  inUnitInterval_generator seed.twister 0

/-- All samples that are still to come are whole numbers or floating point numbers of 64 bits. -/
def InFormat (source : Source) : Prop := ∀ n, (source.peek n).InFormat

theorem inFormat_stream {samples : Nat → Sample} (hsamples : ∀ n, (samples n).InFormat)
    (drawn : Nat) : (stream samples drawn).InFormat := by
  intro n
  rw [peek_stream]
  exact hsamples (drawn + n)

theorem inFormat_ofSeed (seed : Seed) : (ofSeed seed).InFormat := by
  intro n
  obtain ⟨grid, hgrid, hpeek⟩ := peek_generator seed.twister 0 n
  rw [ofSeed, hpeek]
  exact Sample.inFormat_ofGrid hgrid

end Source

/-!
## What a generator can hand out

Tempering mixes a word with shifted copies of itself.  From the end that the shift leaves alone,
the bits of the word can be told one after the other, so no two words are tempered alike, and every
word is the tempered form of one.  Two words of the ring decide a sample, and they may be any.  So
the samples of generators are all multiples of `2 ^ -53` in `[0, 1)`.
-/

/-! ### Words and their shifted copies -/

section Bits

variable {w k : ℕ} {x y m : BitVec w}

/-- Bits are told from the highest one down. -/
theorem eq_of_xor_shiftRight (hk : 0 < k) (hxy : x ^^^ (x >>> k) = y ^^^ (y >>> k)) : x = y := by
  have hbits : ∀ d i, w ≤ i + d → x.getLsbD i = y.getLsbD i := by
    intro d
    induction d with
    | zero =>
        intro i hi
        rw [BitVec.getLsbD_of_ge x i hi, BitVec.getLsbD_of_ge y i hi]
    | succ d ih =>
        intro i hi
        have hhigher := ih (k + i) (by omega)
        have hbit := congrArg (·.getLsbD i) hxy
        simp only [BitVec.getLsbD_xor, BitVec.getLsbD_ushiftRight, hhigher] at hbit
        exact Bool.xor_left_inj.mp hbit
  apply BitVec.eq_of_getLsbD_eq
  intro i _
  exact hbits w i (by omega)

/-- Bits are told from the lowest one up. -/
theorem eq_of_xor_shiftLeft (hk : 0 < k)
    (hxy : x ^^^ ((x <<< k) &&& m) = y ^^^ ((y <<< k) &&& m)) : x = y := by
  have hbits : ∀ i, x.getLsbD i = y.getLsbD i := by
    intro i
    induction i using Nat.strong_induction_on with
    | h i ih =>
        have hbit := congrArg (·.getLsbD i) hxy
        by_cases hi : i < k
        · simpa [hi] using hbit
        · have hlower := ih (i - k) (by omega)
          simp only [BitVec.getLsbD_xor, BitVec.getLsbD_and, BitVec.getLsbD_shiftLeft, hlower]
            at hbit
          exact Bool.xor_left_inj.mp hbit
  apply BitVec.eq_of_getLsbD_eq
  intro i _
  exact hbits i

end Bits

namespace Twister

theorem word_eq_of_xor_shiftRight {x y k : UInt32} (hk : 0 < k.toNat % 32)
    (hxy : x ^^^ (x >>> k) = y ^^^ (y >>> k)) : x = y := by
  have hbits := congrArg UInt32.toBitVec hxy
  simp only [UInt32.toBitVec_xor, UInt32.toBitVec_shiftRight, BitVec.ushiftRight_eq'] at hbits
  exact UInt32.toBitVec_inj.mp (eq_of_xor_shiftRight (by simpa using hk) hbits)

theorem word_eq_of_xor_shiftLeft {x y k m : UInt32} (hk : 0 < k.toNat % 32)
    (hxy : x ^^^ ((x <<< k) &&& m) = y ^^^ ((y <<< k) &&& m)) : x = y := by
  have hbits := congrArg UInt32.toBitVec hxy
  simp only [UInt32.toBitVec_xor, UInt32.toBitVec_and, UInt32.toBitVec_shiftLeft,
    BitVec.shiftLeft_eq'] at hbits
  exact UInt32.toBitVec_inj.mp (eq_of_xor_shiftLeft (by simpa using hk) hbits)

/-- Each of the four mixings can be undone. -/
theorem temper_injective : Function.Injective temper := by
  intro x y htemper
  unfold temper at htemper
  have hthird := word_eq_of_xor_shiftRight (by decide) htemper
  have hsecond := word_eq_of_xor_shiftLeft (by decide) hthird
  have hfirst := word_eq_of_xor_shiftLeft (by decide) hsecond
  exact word_eq_of_xor_shiftRight (by decide) hfirst

theorem temper_surjective : Function.Surjective temper :=
  Finite.surjective_of_injective temper_injective

/-! ### Samples -/

/-- Where the two words that are joined are zero, the third is handed out tempered. -/
theorem next_of_zero {t : Twister} (hfirst : t.wordAt 0 = 0) (hsecond : t.wordAt 1 = 0) :
    t.next.1 = temper (t.wordAt 397) := by
  have htwisted : t.wordAt 397 ^^^ 0 = t.wordAt 397 := UInt32.xor_zero
  simp only [next, hfirst, hsecond]
  exact congrArg temper htwisted

/-- A step moves the cursor on by one place, and no word but the one under it has changed. -/
theorem wordAt_next (t : Twister) {distance : ℕ} (hdistance : distance + 1 < 624) :
    t.next.2.wordAt distance = t.wordAt (distance + 1) := by
  have hcursor := t.cursor.isLt
  have hplace : ((t.cursor + 1) % 624 + distance) % 624 = (t.cursor + (distance + 1)) % 624 := by
    omega
  have hother : (t.cursor : ℕ) ≠ (t.cursor + (distance + 1)) % 624 := by omega
  simp only [wordAt, next, Vector.get_eq_getElem, hplace]
  rw [Vector.getElem_set_ne _ _ hother]

/-- The generator with two words where the next two steps look for them, and zeros elsewhere. -/
def holding (t : Twister) (first second : UInt32) : Twister where
  words := Vector.ofFn fun i =>
    if i.val = (t.cursor + 397) % 624 then first
    else if i.val = (t.cursor + 398) % 624 then second
    else 0
  cursor := t.cursor

theorem wordAt_holding (t : Twister) (first second : UInt32) {distance : ℕ}
    (hdistance : distance < 624) :
    (t.holding first second).wordAt distance =
      if distance = 397 then first else if distance = 398 then second else 0 := by
  have hplace : ∀ k < 624,
      ((t.cursor + distance) % 624 = (t.cursor + k) % 624) = (distance = k) := by
    intro k hk
    have hcursor := t.cursor.isLt
    rw [eq_iff_iff]
    omega
  simp only [wordAt, holding, Vector.get_ofFn, hplace 397 (by decide), hplace 398 (by decide)]

theorem next_holding (t : Twister) (first second : UInt32) :
    (t.holding first second).next.1 = temper first ∧
      (t.holding first second).next.2.next.1 = temper second := by
  constructor
  · rw [next_of_zero]
    · simp [wordAt_holding]
    · simp [wordAt_holding]
    · simp [wordAt_holding]
  · rw [next_of_zero]
    · simp [wordAt_next, wordAt_holding]
    · simp [wordAt_next, wordAt_holding]
    · simp [wordAt_next, wordAt_holding]

/-- Any two words can come next. -/
theorem exists_next (first second : UInt32) :
    ∃ t : Twister, t.next.1 = first ∧ t.next.2.next.1 = second := by
  obtain ⟨a, rfl⟩ := temper_surjective first
  obtain ⟨b, rfl⟩ := temper_surjective second
  exact ⟨(ofKey #[]).holding a b, next_holding (ofKey #[]) a b⟩

theorem exists_next53 {n : ℕ} (hn : n < 2 ^ 53) : ∃ t : Twister, t.next53.1 = n := by
  obtain ⟨t, hfirst, hsecond⟩ :=
    exists_next (UInt32.ofNat (n / 2 ^ 26 * 2 ^ 5)) (UInt32.ofNat (n % 2 ^ 26 * 2 ^ 6))
  refine ⟨t, ?_⟩
  have hhigh : (t.next.1 >>> 5).toNat = n / 2 ^ 26 := by
    have hword : n / 2 ^ 26 * 2 ^ 5 < 2 ^ 32 := by omega
    rw [hfirst, UInt32.toNat_shiftRight, Nat.shiftRight_eq_div_pow, UInt32.toNat_ofNat',
      Nat.mod_eq_of_lt hword]
    exact Nat.mul_div_cancel _ (by norm_num)
  have hlow : (t.next.2.next.1 >>> 6).toNat = n % 2 ^ 26 := by
    have hword : n % 2 ^ 26 * 2 ^ 6 < 2 ^ 32 := by omega
    rw [hsecond, UInt32.toNat_shiftRight, Nat.shiftRight_eq_div_pow, UInt32.toNat_ofNat',
      Nat.mod_eq_of_lt hword]
    exact Nat.mul_div_cancel _ (by norm_num)
  simp only [next53, hhigh, hlow]
  omega

end Twister

/-- The samples of generators are the multiples of `2 ^ -53` in the unit interval. -/
theorem Source.next_generator_iff {sample : Sample} :
    (∃ state drawn, (Source.generator state drawn).next.1 = sample) ↔
      ∃ n < 2 ^ 53, sample = .ofGrid n := by
  constructor
  · rintro ⟨state, drawn, rfl⟩
    exact ⟨state.next53.1, state.next53_lt, rfl⟩
  · rintro ⟨n, hn, rfl⟩
    obtain ⟨state, hstate⟩ := Twister.exists_next53 hn
    exact ⟨state, 0, congrArg Sample.ofGrid hstate⟩

end Random
end Tabletop
