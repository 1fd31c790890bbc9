import Mathlib
import Tabletop.Proofs.Dice.Grammar

/-!
# Canonical writing

Every list of terms that reading returns is well formed, and every well-formed
list is read back from its canonical writing.  So reading and writing are
inverse to each other on exactly the well-formed lists.
-/

namespace Tabletop
namespace Dice

open Text

variable {limits : Limits} {cs : List Char} {body : Body} {terms : List Term}

/-- The largest number of ten digits. -/
def largestNumber : Int := 9999999999

/-- What a term is, apart from its sign, when it has been read within limits. -/
def Body.WellFormed (limits : Limits) : Body → Prop
  | .dice count sides =>
      (1 ≤ count ∧ count ≤ min limits.maxCount largestNumber) ∧
        (2 ≤ sides ∧ sides ≤ min limits.maxSides largestNumber)
  | .number value => 0 ≤ value ∧ value ≤ largestNumber
  | .ability code => ∃ ability : Ability, ability.code = code
  | .proficiency => True
  | .void => False

/-- What a list of terms is when it has been read within limits. -/
structure WellFormed (limits : Limits) (terms : List Term) : Prop where
  first : ∃ body rest, terms = ⟨1, body⟩ :: rest
  signs : ∀ term ∈ terms, term.sign = 1 ∨ term.sign = -1
  bodies : ∀ term ∈ terms, term.body.WellFormed limits
  dice : ∃ term ∈ terms, term.body.isDice = true
  total : totalDice terms ≤ limits.maxTotal

/-! ## Numbers of ten digits -/

theorem numeral_nonneg (digits : List Char) : 0 ≤ numeral digits :=
  Int.natCast_nonneg _

theorem numeral_le_largestNumber {digits : List Char} (hdigits : Digits digits)
    (hlength : digits.length ≤ 10) : numeral digits ≤ largestNumber := by
  have hvalue : Decimal.value digits < 10 ^ digits.length := Decimal.value_lt hdigits
  have hpower : 10 ^ digits.length ≤ 10 ^ 10 := Nat.pow_le_pow_right (by omega) hlength
  have hnat : Decimal.value digits < 10000000000 := by omega
  unfold numeral largestNumber
  rw [← Decimal.value_eq_ofDigitChars]
  omega

theorem countOf_le_largestNumber {digits : List Char} (hdigits : Digits digits)
    (hlength : digits.length ≤ 10) : countOf digits ≤ largestNumber := by
  unfold countOf
  split
  · decide
  · exact numeral_le_largestNumber hdigits hlength

/-- The digits of a number of at most ten digits, and what they are read as. -/
theorem signed_spec {n : Int} (hn : 0 ≤ n) (hle : n ≤ largestNumber) :
    Digits (Decimal.signed n) ∧
      (1 ≤ (Decimal.signed n).length ∧ (Decimal.signed n).length ≤ 10) ∧
      numeral (Decimal.signed n) = n ∧ countOf (Decimal.signed n) = n := by
  have hne : Decimal.digits n.toNat ≠ [] := Decimal.digits_ne_nil _
  have hnumeral : numeral (Decimal.digits n.toNat) = n := by
    unfold numeral
    rw [← Decimal.value_eq_ofDigitChars, Decimal.value_digits, Int.toNat_of_nonneg hn]
  have hlength : (Decimal.digits n.toNat).length ≤ 10 := by
    rw [Decimal.length_digits_le_iff (by omega)]
    unfold largestNumber at hle
    omega
  rw [Decimal.signed_of_nonneg hn]
  refine ⟨Decimal.digits_digits _, ⟨List.length_pos_iff.mpr hne, hlength⟩, hnumeral, ?_⟩
  rw [countOf, if_neg hne, hnumeral]

/-! ## What is read is well formed -/

theorem BodyText.wellFormed (htext : BodyText limits cs body) : body.WellFormed limits := by
  cases htext with
  | dice hcount hsides hd hcountLength hsidesLength hcountRange hsidesRange =>
      have hcountLe := countOf_le_largestNumber hcount hcountLength
      have hsidesLe := numeral_le_largestNumber hsides hsidesLength.2
      exact ⟨⟨hcountRange.1, le_min hcountRange.2 hcountLe⟩,
        ⟨hsidesRange.1, le_min hsidesRange.2 hsidesLe⟩⟩
  | number hdigits hlength =>
      exact ⟨numeral_nonneg _, numeral_le_largestNumber hdigits hlength.2⟩
  | ability ability hword => exact ⟨ability, rfl⟩
  | proficiency hword => trivial

theorem TailText.wellFormed (htail : TailText limits cs terms) :
    ∀ term ∈ terms,
      (term.sign = 1 ∨ term.sign = -1) ∧ term.body.WellFormed limits := by
  induction htail with
  | nil => simp
  | cons hbefore hsign hafter htext _ ih =>
      refine List.forall_mem_cons.mpr ⟨⟨?_, htext.wellFormed⟩, ih⟩
      cases hsign with
      | plus => exact .inl rfl
      | minus => exact .inr rfl

theorem ExpressionText.wellFormed (hwrites : ExpressionText limits cs terms) :
    WellFormed limits terms := by
  cases hwrites with
  | intro hleft htext hrest hright hdice htotal =>
      have hmore := hrest.wellFormed
      exact {
        first := ⟨_, _, rfl⟩
        signs := List.forall_mem_cons.mpr ⟨.inl rfl, fun term hterm => (hmore term hterm).1⟩
        bodies := List.forall_mem_cons.mpr
          ⟨htext.wellFormed, fun term hterm => (hmore term hterm).2⟩
        dice := hdice
        total := htotal }

/-! ## What is well formed is read back -/

theorem caseVariant_code (code : String) : CaseVariant code.toList code :=
  List.forall₂_same.mpr fun _ _ => .inl rfl

theorem Body.WellFormed.bodyText (hbody : body.WellFormed limits) :
    BodyText limits body.chars body := by
  cases body with
  | dice count sides =>
      obtain ⟨⟨hcount, hcountLe⟩, hsides, hsidesLe⟩ := hbody
      rw [le_min_iff] at hcountLe hsidesLe
      obtain ⟨hcDigits, hcLength, -, hcValue⟩ :=
        signed_spec (by omega : 0 ≤ count) hcountLe.2
      obtain ⟨hsDigits, hsLength, hsValue, -⟩ :=
        signed_spec (by omega : 0 ≤ sides) hsidesLe.2
      have hcRange : 1 ≤ countOf (Decimal.signed count) ∧
          countOf (Decimal.signed count) ≤ limits.maxCount := by
        rw [hcValue]
        exact ⟨hcount, hcountLe.1⟩
      have hsRange : 2 ≤ numeral (Decimal.signed sides) ∧
          numeral (Decimal.signed sides) ≤ limits.maxSides := by
        rw [hsValue]
        exact ⟨hsides, hsidesLe.1⟩
      have htext :=
        BodyText.dice hcDigits hsDigits (.inl rfl) hcLength.2 hsLength hcRange hsRange
      rwa [hcValue, hsValue] at htext
  | number value =>
      obtain ⟨hDigits, hLength, hValue, -⟩ := signed_spec hbody.1 hbody.2
      have htext : BodyText limits _ _ := .number hDigits hLength
      rwa [hValue] at htext
  | ability code =>
      obtain ⟨ability, rfl⟩ := hbody
      exact .ability ability (caseVariant_code _)
  | proficiency => exact .proficiency (caseVariant_code _)
  | void => exact hbody.elim

theorem tailText_chars
    (hterms : ∀ term ∈ terms,
      (term.sign = 1 ∨ term.sign = -1) ∧ term.body.WellFormed limits) :
    TailText limits (terms.flatMap (Term.chars false)) terms := by
  induction terms with
  | nil => exact .nil
  | cons term rest ih =>
      obtain ⟨sign, body⟩ := term
      obtain ⟨⟨hsign, hbody⟩, hrest⟩ := List.forall_mem_cons.mp hterms
      have htail := ih hrest
      rcases hsign with rfl | rfl
      · exact .cons blanks_nil .plus blanks_nil hbody.bodyText htail
      · exact .cons blanks_nil .minus blanks_nil hbody.bodyText htail

theorem WellFormed.expressionText (hterms : WellFormed limits terms) :
    ExpressionText limits (renderChars terms) terms := by
  obtain ⟨body, rest, rfl⟩ := hterms.first
  have hbody : body.WellFormed limits := hterms.bodies ⟨1, body⟩ (by simp)
  have hrest : TailText limits (rest.flatMap (Term.chars false)) rest := by
    apply tailText_chars
    intro term hterm
    have hmem : term ∈ (⟨1, body⟩ : Term) :: rest := List.mem_cons_of_mem _ hterm
    exact ⟨hterms.signs term hmem, hterms.bodies term hmem⟩
  have htext := ExpressionText.intro blanks_nil hbody.bodyText hrest blanks_nil
    hterms.dice hterms.total
  simpa [renderChars, Term.chars, signChars] using htext

theorem WellFormed.parse_eq (hterms : WellFormed limits terms) :
    parse limits (render terms) = .ok terms := by
  rw [parse_eq_ok_iff, render, String.toList_ofList]
  exact hterms.expressionText

theorem wellFormed_of_parse {string : Loose} (hparse : parse limits string = .ok terms) :
    WellFormed limits terms := by
  obtain ⟨text, rfl⟩ := text_of_parse hparse
  exact (parse_eq_ok_iff.mp hparse).wellFormed

/-- Reading and writing are inverse to each other on exactly the well-formed lists. -/
theorem parse_render_inverse (limits : Limits) :
    (∀ string terms, parse limits string = .ok terms →
      parse limits (render terms) = .ok terms) ∧
    (∀ terms, WellFormed limits terms → parse limits (render terms) = .ok terms) ∧
    (∀ string terms, parse limits string = .ok terms → WellFormed limits terms) ∧
    (∀ string string' terms terms', parse limits string = .ok terms →
      parse limits string' = .ok terms' → render terms = render terms' → terms = terms') ∧
    (∀ string terms, parse limits string = .ok terms →
      ∃ again, parse limits (render terms) = .ok again ∧ render again = render terms) := by
  refine ⟨?_, ?_, ?_, ?_, ?_⟩
  · intro string terms hparse
    exact (wellFormed_of_parse hparse).parse_eq
  · intro terms hterms
    exact hterms.parse_eq
  · intro string terms hparse
    exact wellFormed_of_parse hparse
  · intro string string' terms terms' hparse hparse' hrender
    have hback := (wellFormed_of_parse hparse).parse_eq
    have hback' := (wellFormed_of_parse hparse').parse_eq
    rw [hrender, hback'] at hback
    exact (Except.ok.inj hback).symm
  · intro string terms hparse
    exact ⟨terms, (wellFormed_of_parse hparse).parse_eq, rfl⟩

theorem parse_render_inverse_mixed :
    let terms : List Term := [⟨1, .dice 2 6⟩, ⟨-1, .ability "DEX"⟩, ⟨1, .number 7⟩]
    parse {} " 2D06 -  dEx+007" = .ok terms ∧ WellFormed {} terms ∧
      parse {} (render terms) = .ok terms := by
  intro terms
  have hparse : parse {} " 2D06 -  dEx+007" = .ok terms := by decide
  have hterms : WellFormed {} terms := (parse_render_inverse {}).2.2.1 _ _ hparse
  exact ⟨hparse, hterms, (parse_render_inverse {}).2.1 terms hterms⟩

end Dice
end Tabletop
