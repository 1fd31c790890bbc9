import Tabletop.Proofs.Dice.Pieces
import Tabletop.Proofs.Fallible
import Mathlib

/-!
# The grammar of expressions

The grammar says which texts write which terms, without saying how they are
found: terms with signs between them, blank characters around the signs and at
the ends, and bounds on the numbers.  Reading succeeds on exactly these texts,
with exactly these terms.
-/

namespace Tabletop
namespace Dice

open Text

/-!
## The texts of a term

A term is written as dice, as a number, or as a word in letters of any case.
The three forms exclude each other, and reading a piece succeeds exactly on the
texts that have one of them and stay within the limits.
-/

variable {limits : Limits} {cs count sides word : List Char} {body : Body}
  {terms : List Term}

/-! ### Classes of characters -/

theorem isDigit_iff {c : Char} : c.isDigit = true ↔ 48 ≤ c.toNat ∧ c.toNat ≤ 57 :=
  Char.isDigit_iff_toNat

theorem isAlpha_iff {c : Char} :
    c.isAlpha = true ↔
      65 ≤ c.toNat ∧ c.toNat ≤ 90 ∨ 97 ≤ c.toNat ∧ c.toNat ≤ 122 := by
  simp [Char.isAlpha, Char.isUpper, Char.isLower, UInt32.le_iff_toNat_le]

theorem isDigit_eq_false_of_isAlpha {c : Char} (hc : c.isAlpha = true) :
    c.isDigit = false := by
  have halpha := isAlpha_iff.mp hc
  rw [Bool.eq_false_iff, ne_eq, isDigit_iff]
  omega

theorem toUpper_eq_iff {c u : Char} (hu : u.isUpper = true) :
    c.toUpper = u ↔ c = u ∨ c = u.toLower := by
  have hself : u.toUpper = u :=
    Char.toUpper_eq_of_not_isLower (Char.not_isLower_of_isUpper hu)
  constructor
  · intro hc
    by_cases hlower : c.isLower = true
    · right
      rw [← hc, Char.toLower_toUpper_eq_toLower,
        Char.toLower_eq_of_not_isUpper (Char.not_isUpper_of_isLower hlower)]
    · left
      rw [← hc, Char.toUpper_eq_of_not_isLower hlower]
  · rintro (rfl | rfl)
    · exact hself
    · rw [Char.toUpper_toLower_eq_toUpper, hself]

/-! ### The form of a text -/

@[simp] theorem Token.of_chars (cs : List Char) : Token.of cs = Token.ofChars cs := by
  simp [Token.of]

theorem Token.ofChars_dice {d : Char} (hcount : Digits count) (hsides : Digits sides)
    (hd : d = 'd' ∨ d = 'D') :
    Token.ofChars (count ++ d :: sides) = .dice count sides := by
  have hdDigit : d.isDigit = false := by
    rcases hd with rfl | rfl <;> decide
  have hall : sides.all Char.isDigit = true := all_isDigit_iff.mpr hsides
  have htake : (count ++ d :: sides).takeWhile Char.isDigit = count := by
    rw [List.takeWhile_append_of_pos hcount,
      List.takeWhile_cons_of_neg (by simp [hdDigit]), List.append_nil]
  have hdrop : (count ++ d :: sides).dropWhile Char.isDigit = d :: sides := by
    rw [List.dropWhile_append_of_pos hcount,
      List.dropWhile_cons_of_neg (by simp [hdDigit])]
  unfold Token.ofChars
  rw [htake, hdrop]
  simp only [hd, hall, and_self, if_true]

theorem Token.ofChars_number (hdigits : Digits cs) (hne : cs ≠ []) :
    Token.ofChars cs = .number cs := by
  have htake : cs.takeWhile Char.isDigit = cs := List.takeWhile_eq_self_iff.mpr hdigits
  have hdrop : cs.dropWhile Char.isDigit = [] := List.dropWhile_eq_nil_iff.mpr hdigits
  unfold Token.ofChars
  rw [htake, hdrop]
  simp [hne]

/-- A text has the form of dice: a `d` between two texts of digits, each of which may be empty. -/
def DiceForm (cs : List Char) : Prop :=
  ∃ count d sides, Digits count ∧ Digits sides ∧ (d = 'd' ∨ d = 'D') ∧ cs = count ++ d :: sides

/-- A word of letters; a single `d` is dice without count and sides. -/
theorem Token.ofChars_word (halpha : ∀ c ∈ cs, c.isAlpha = true) (hne : cs ≠ [])
    (hform : ¬ DiceForm cs) : Token.ofChars cs = .word cs := by
  obtain ⟨c, rest, rfl⟩ := List.exists_cons_of_ne_nil hne
  have hc : c.isDigit = false := isDigit_eq_false_of_isAlpha (halpha c (by simp))
  have hall : (c :: rest).all Char.isAlpha = true := by simpa using halpha
  have hdice : ¬ ((c = 'd' ∨ c = 'D') ∧ rest.all Char.isDigit = true) := by
    rintro ⟨hd, hsides⟩
    exact hform ⟨[], c, rest, nofun, all_isDigit_iff.mp hsides, hd, rfl⟩
  unfold Token.ofChars
  rw [List.dropWhile_cons_of_neg (by simp [hc])]
  simp only [hdice, hall, if_false, if_true]

/-- Dice that are letters throughout are a single letter. -/
theorem not_diceForm_of_isAlpha (halpha : ∀ c ∈ cs, c.isAlpha = true) (hlong : 2 ≤ cs.length) :
    ¬ DiceForm cs := by
  rintro ⟨count, d, sides, hcount, hsides, -, rfl⟩
  have hnone : ∀ c, c.isDigit = true → c ∉ count ++ d :: sides := by
    intro c hdigit hc
    have hnot := isDigit_eq_false_of_isAlpha (halpha c hc)
    rw [hdigit] at hnot
    contradiction
  have hcountNil : count = [] := by
    apply List.eq_nil_iff_forall_not_mem.mpr
    intro c hc
    exact hnone c (hcount c hc) (by simp [hc])
  have hsidesNil : sides = [] := by
    apply List.eq_nil_iff_forall_not_mem.mpr
    intro c hc
    exact hnone c (hsides c hc) (by simp [hc])
  rw [hcountNil, hsidesNil] at hlong
  simp at hlong

/-- What a token says about the text that it was found in. -/
def Token.Describes (cs : List Char) : Token → Prop
  | .dice count sides =>
      Digits count ∧ Digits sides ∧
        ∃ d, (d = 'd' ∨ d = 'D') ∧ cs = count ++ d :: sides
  | .number digits => cs = digits ∧ Digits cs ∧ cs ≠ []
  | .word letters => cs = letters ∧ ∀ c ∈ cs, c.isAlpha = true
  | .other => True

theorem Token.ofChars_describes (cs : List Char) :
    (Token.ofChars cs).Describes cs := by
  have hjoin := List.takeWhile_append_dropWhile (p := Char.isDigit) (l := cs)
  have hcount : Digits (cs.takeWhile Char.isDigit) :=
    fun c hc => List.mem_takeWhile_imp hc
  simp only [Token.ofChars]
  split
  next hdrop =>
    rw [hdrop, List.append_nil] at hjoin
    rw [hjoin] at hcount ⊢
    split
    next => trivial
    next hne => exact ⟨rfl, hcount, by simpa using hne⟩
  next d sides hdrop =>
    split
    next hdice =>
      refine ⟨hcount, all_isDigit_iff.mp hdice.2, d, hdice.1, ?_⟩
      rw [← hdrop, hjoin]
    next =>
      split
      next hall => exact ⟨rfl, List.all_eq_true.mp hall⟩
      next => trivial

/-! ## The texts of an expression -/

/-- The number that a text of digits writes. -/
def numeral (digits : List Char) : Int := (Nat.ofDigitChars 10 digits 0 : Nat)

/-- The count in front of dice; one that is not written is one. -/
def countOf (digits : List Char) : Int := if digits = [] then 1 else numeral digits

/-- A word that differs from a code in capitals by the case of its letters at most. -/
def CaseVariant (word : List Char) (code : String) : Prop :=
  List.Forall₂ (fun c capital => c = capital ∨ c = capital.toLower) word code.toList

/-- The texts of a term without its sign. -/
inductive BodyText (limits : Limits) : List Char → Body → Prop
  | dice {count sides : List Char} {d : Char}
      (hcount : Digits count) (hsides : Digits sides) (hd : d = 'd' ∨ d = 'D')
      (hcountLength : count.length ≤ 10)
      (hsidesLength : 1 ≤ sides.length ∧ sides.length ≤ 10)
      (hcountRange : 1 ≤ countOf count ∧ countOf count ≤ limits.maxCount)
      (hsidesRange : 2 ≤ numeral sides ∧ numeral sides ≤ limits.maxSides) :
      BodyText limits (count ++ d :: sides) (.dice (countOf count) (numeral sides))
  | number {digits : List Char} (hdigits : Digits digits)
      (hlength : 1 ≤ digits.length ∧ digits.length ≤ 10) :
      BodyText limits digits (.number (numeral digits))
  | ability {word : List Char} (ability : Ability)
      (hword : CaseVariant word ability.code) :
      BodyText limits word (.ability ability.code)
  | proficiency {word : List Char} (hword : CaseVariant word "PROF") :
      BodyText limits word .proficiency

/-- What a sign makes of the term behind it. -/
inductive SignText : Char → Int → Prop
  | plus : SignText '+' 1
  | minus : SignText '-' (-1)

/-- The texts of the terms behind the first one: a sign among blanks, then a term. -/
inductive TailText (limits : Limits) : List Char → List Term → Prop
  | nil : TailText limits [] []
  | cons {before after text rest : List Char} {c : Char} {sign : Int} {body : Body}
      {terms : List Term} (hbefore : Blanks before) (hsign : SignText c sign)
      (hafter : Blanks after) (htext : BodyText limits text body)
      (hrest : TailText limits rest terms) :
      TailText limits (before ++ c :: (after ++ text ++ rest)) (⟨sign, body⟩ :: terms)

/-- The texts of an expression: a first term without sign, the others, and blanks
at both ends.  One term at least is dice, and there are not too many dice. -/
inductive ExpressionText (limits : Limits) : List Char → List Term → Prop
  | intro {left text rest right : List Char} {body : Body} {terms : List Term}
      (hleft : Blanks left) (htext : BodyText limits text body)
      (hrest : TailText limits rest terms) (hright : Blanks right)
      (hdice : ∃ term ∈ (⟨1, body⟩ : Term) :: terms, term.body.isDice = true)
      (htotal : totalDice (⟨1, body⟩ :: terms) ≤ limits.maxTotal) :
      ExpressionText limits (left ++ text ++ rest ++ right) (⟨1, body⟩ :: terms)

/-! ## Words in any case -/

theorem caseVariant_iff {code : String} (hcode : ∀ u ∈ code.toList, u.isUpper = true) :
    CaseVariant word code ↔ word.map Char.toUpper = code.toList := by
  unfold CaseVariant
  generalize code.toList = letters at hcode
  induction letters generalizing word with
  | nil => simp
  | cons u rest ih =>
      have hu : u.isUpper = true := hcode u (by simp)
      have hrest : ∀ v ∈ rest, v.isUpper = true := fun v hv => hcode v (by simp [hv])
      cases word with
      | nil => simp
      | cons c cs =>
          rw [List.forall₂_cons, List.map_cons, List.cons.injEq, toUpper_eq_iff hu,
            ih hrest]

theorem CaseVariant.isAlpha {code : String} (hword : CaseVariant word code)
    (hcode : ∀ u ∈ code.toList, u.isUpper = true) : ∀ c ∈ word, c.isAlpha = true := by
  intro c hc
  have hupper : c.toUpper ∈ code.toList := by
    rw [← (caseVariant_iff hcode).mp hword]
    exact List.mem_map_of_mem hc
  have halpha : c.toUpper.isAlpha = true := by simp [Char.isAlpha, hcode _ hupper]
  simpa using halpha

theorem CaseVariant.length_eq {code : String} (hword : CaseVariant word code) :
    word.length = code.toList.length := List.Forall₂.length_eq hword

theorem isUpper_of_mem_code (ability : Ability) :
    ∀ u ∈ ability.code.toList, u.isUpper = true := by
  cases ability <;> simp [Ability.code, Char.isUpper]

theorem isUpper_of_mem_proficiencyCode :
    ∀ u ∈ proficiencyCode.toList, u.isUpper = true := by
  simp [proficiencyCode, Char.isUpper]

theorem two_le_length_code (ability : Ability) : 2 ≤ ability.code.toList.length := by
  cases ability <;> simp [Ability.code]

theorem ofCode?_proficiencyCode : Ability.ofCode? proficiencyCode = none := by decide

/-! ## Reading one term -/

theorem readDice_eq (limits : Limits) (fragment : Loose) (count sides : List Char) :
    readDice limits fragment count sides =
      if 10 < count.length ∨ 10 < sides.length then .error (.tooManyDigits fragment)
      else if countOf count < 1 then .error (.countBelowOne fragment)
      else if sides.length = 0 then .error (.sidesMissing fragment)
      else if numeral sides < 2 then .error (.sidesBelowTwo fragment)
      else if limits.maxCount < countOf count then
        .error (.countOverLimit fragment limits.maxCount)
      else if limits.maxSides < numeral sides then
        .error (.sidesOverLimit fragment limits.maxSides)
      else .ok (.dice (countOf count) (numeral sides)) := by
  have hcount : (if count.isEmpty = true then 1 else (Decimal.value count : Int)) =
      countOf count := by
    simp [countOf, numeral, Decimal.value_eq_ofDigitChars]
  have hsides : (Decimal.value sides : Int) = numeral sides := rfl
  have hempty : sides.isEmpty = true ↔ sides.length = 0 := by
    rw [List.isEmpty_iff, List.length_eq_zero_iff]
  unfold readDice
  simp only [hcount, hsides, hempty, maxDigits]

theorem readDice_eq_ok_iff {fragment : Loose} :
    readDice limits fragment count sides = .ok body ↔
      count.length ≤ 10 ∧ (1 ≤ sides.length ∧ sides.length ≤ 10) ∧
        (1 ≤ countOf count ∧ countOf count ≤ limits.maxCount) ∧
        (2 ≤ numeral sides ∧ numeral sides ≤ limits.maxSides) ∧
        body = .dice (countOf count) (numeral sides) := by
  rw [readDice_eq]
  constructor
  · intro hread
    split_ifs at hread with h1 h2 h3 h4 h5 h6
    -- Every other branch is an error.
    refine ⟨by omega, by omega, by omega, by omega, ?_⟩
    exact (Except.ok.inj hread).symm
  · rintro ⟨hcountLength, hsidesLength, hcountRange, hsidesRange, rfl⟩
    rw [if_neg (by omega), if_neg (by omega), if_neg (by omega), if_neg (by omega),
      if_neg (by omega), if_neg (by omega)]

theorem CaseVariant.upper_eq {code : String} (hword : CaseVariant word code)
    (hcode : ∀ u ∈ code.toList, u.isUpper = true) :
    String.ofList (word.map Char.toUpper) = code := by
  rw [(caseVariant_iff hcode).mp hword, String.ofList_toList]

/-- A code in any case is a word and neither dice nor a number. -/
theorem CaseVariant.ofChars_eq {code : String} (hword : CaseVariant word code)
    (hcode : ∀ u ∈ code.toList, u.isUpper = true) (hlong : 2 ≤ code.toList.length) :
    word ≠ [] ∧ Token.ofChars word = .word word := by
  rw [← hword.length_eq] at hlong
  have hne : word ≠ [] := by
    rintro rfl
    simp at hlong
  have halpha := hword.isAlpha hcode
  exact ⟨hne, Token.ofChars_word halpha hne (not_diceForm_of_isAlpha halpha hlong)⟩

theorem BodyText.readBody_eq (htext : BodyText limits cs body) :
    readBody limits cs = .ok body := by
  cases htext with
  | @dice count sides d hcount hsides hd hcountLength hsidesLength hcountRange hsidesRange =>
      have hne : (count ++ d :: sides).isEmpty = false := by simp
      unfold readBody
      simp only [hne, Bool.false_eq_true, if_false, Token.of_chars,
        Token.ofChars_dice hcount hsides hd]
      exact readDice_eq_ok_iff.mpr
        ⟨hcountLength, hsidesLength, hcountRange, hsidesRange, rfl⟩
  | number hdigits hlength =>
      have hne : cs ≠ [] := by
        rintro rfl
        simp at hlength
      have hshort : ¬ maxDigits < cs.length := by
        unfold maxDigits
        omega
      unfold readBody
      simp only [List.isEmpty_iff, hne, if_false, Token.of_chars,
        Token.ofChars_number hdigits hne, hshort]
      rfl
  | ability ability hword =>
      have hcode := isUpper_of_mem_code ability
      obtain ⟨hne, htoken⟩ := hword.ofChars_eq hcode (two_le_length_code ability)
      unfold readBody
      simp only [List.isEmpty_iff, hne, if_false, Token.of_chars, htoken, hword.upper_eq hcode,
        Ability.ofCode?_code, Option.isSome_some, if_true]
  | proficiency hprof =>
      have hword : CaseVariant cs proficiencyCode := hprof
      have hcode := isUpper_of_mem_proficiencyCode
      obtain ⟨hne, htoken⟩ := hword.ofChars_eq hcode (by simp [proficiencyCode])
      unfold readBody
      simp only [List.isEmpty_iff, hne, if_false, Token.of_chars, htoken, hword.upper_eq hcode,
        ofCode?_proficiencyCode, Option.isSome_none, Bool.false_eq_true, if_true]

theorem BodyText.of_readBody (hread : readBody limits cs = .ok body) :
    BodyText limits cs body := by
  have hform := Token.ofChars_describes cs
  simp only [readBody, Token.of_chars] at hread
  split at hread
  · contradiction
  next =>
    split at hread
    next count sides htoken =>
      rw [htoken] at hform
      obtain ⟨hcount, hsides, d, hd, rfl⟩ := hform
      obtain ⟨h1, h2, h3, h4, rfl⟩ := readDice_eq_ok_iff.mp hread
      exact .dice hcount hsides hd h1 h2 h3 h4
    next digits htoken =>
      rw [htoken] at hform
      obtain ⟨rfl, hdigits, hne⟩ := hform
      split at hread
      · contradiction
      next hshort =>
        obtain rfl := Except.ok.inj hread
        refine .number hdigits ⟨List.length_pos_iff.mpr hne, ?_⟩
        exact Nat.not_lt.mp hshort
    next letters htoken =>
      rw [htoken] at hform
      obtain ⟨rfl, -⟩ := hform
      split at hread
      next hsome =>
        obtain rfl := Except.ok.inj hread
        obtain ⟨ability, hability⟩ := Option.isSome_iff_exists.mp hsome
        have hcode := Ability.code_of_ofCode? hability
        rw [← hcode]
        refine .ability ability ((caseVariant_iff (isUpper_of_mem_code ability)).mpr ?_)
        rw [hcode, String.toList_ofList]
      next =>
        split at hread
        next hprof =>
          obtain rfl := Except.ok.inj hread
          have hupper : cs.map Char.toUpper = proficiencyCode.toList := by
            rw [← hprof, String.toList_ofList]
          exact .proficiency
            ((caseVariant_iff isUpper_of_mem_proficiencyCode).mpr hupper)
        next => contradiction
    next => contradiction

theorem readBody_eq_ok_iff : readBody limits cs = .ok body ↔ BodyText limits cs body :=
  ⟨BodyText.of_readBody, BodyText.readBody_eq⟩

/-! ## Reading the terms in order -/

theorem readTerms_eq_ok_iff {bodies : List (Int × List Char)} :
    readTerms limits bodies = .ok terms ↔
      List.Forall₂ (fun piece term => term.sign = piece.1 ∧
        BodyText limits piece.2 term.body) bodies terms := by
  induction bodies generalizing terms with
  | nil =>
      rw [List.forall₂_nil_left_iff, readTerms, Except.ok.injEq]
      exact eq_comm
  | cons piece rest ih =>
      obtain ⟨sign, text⟩ := piece
      rw [List.forall₂_cons_left_iff, readTerms, Except.bind_eq_ok_iff]
      constructor
      · rintro ⟨body, hbody, hread⟩
        obtain ⟨more, hrest, hterms⟩ := Except.bind_eq_ok_iff.mp hread
        exact ⟨⟨sign, body⟩, more, ⟨rfl, readBody_eq_ok_iff.mp hbody⟩, ih.mp hrest,
          (Except.pure_eq_ok_iff.mp hterms).symm⟩
      · rintro ⟨⟨sign', body⟩, more, ⟨hsign, htext⟩, hrest, rfl⟩
        refine ⟨body, readBody_eq_ok_iff.mpr htext, ?_⟩
        refine Except.bind_eq_ok_iff.mpr ⟨more, ih.mpr hrest, ?_⟩
        obtain rfl : sign' = sign := hsign
        rfl

theorem checkWhole_of_no_dice (hnone : ¬ ∃ term ∈ terms, term.body.isDice = true) :
    checkWhole limits terms = .error .noDice := by
  have hany : terms.any (·.body.isDice) = false := by
    rw [← Bool.not_eq_true, List.any_eq_true]
    exact hnone
  rw [checkWhole, hany]
  rfl

theorem checkWhole_of_dice (hdice : ∃ term ∈ terms, term.body.isDice = true) :
    checkWhole limits terms =
      if limits.maxTotal < totalDice terms then
        .error (.tooManyDice (totalDice terms) limits.maxTotal)
      else .ok terms := by
  have hany : terms.any (·.body.isDice) = true := List.any_eq_true.mpr hdice
  rw [checkWhole, hany]
  rfl

theorem checkWhole_eq_ok_iff {result : List Term} :
    checkWhole limits terms = .ok result ↔
      (∃ term ∈ terms, term.body.isDice = true) ∧ totalDice terms ≤ limits.maxTotal ∧
        result = terms := by
  constructor
  · intro hread
    by_cases hdice : ∃ term ∈ terms, term.body.isDice = true
    · rw [checkWhole_of_dice hdice] at hread
      split_ifs at hread with htotal
      exact ⟨hdice, Int.not_lt.mp htotal, (Except.ok.inj hread).symm⟩
    · rw [checkWhole_of_no_dice hdice] at hread
      contradiction
  · rintro ⟨hdice, htotal, rfl⟩
    rw [checkWhole_of_dice hdice, if_neg (Int.not_lt.mpr htotal)]

theorem BodyText.isAlphanum (htext : BodyText limits cs body) :
    ∀ c ∈ cs, c.isAlphanum = true := by
  intro c hc
  unfold Char.isAlphanum
  rw [Bool.or_eq_true]
  cases htext with
  | dice hcount hsides hd =>
      rcases List.mem_append.mp hc with hmem | hmem
      · exact .inr (hcount c hmem)
      · rcases List.mem_cons.mp hmem with rfl | hmem
        · left
          rcases hd with rfl | rfl <;> decide
        · exact .inr (hsides c hmem)
  | number hdigits => exact .inr (hdigits c hc)
  | ability ability hword =>
      exact .inl (hword.isAlpha (isUpper_of_mem_code ability) c hc)
  | proficiency hword =>
      exact .inl (CaseVariant.isAlpha hword isUpper_of_mem_proficiencyCode c hc)

theorem not_isBlank_of_isAlphanum {c : Char} (hc : c.isAlphanum = true) :
    isBlank c = false := by
  have hrange : 48 ≤ Letter.code c ∧ Letter.code c ≤ 122 := by
    have hcode : Letter.code c = c.toNat := rfl
    rw [hcode]
    rcases Bool.or_eq_true_iff.mp hc with halpha | hdigit
    · have := isAlpha_iff.mp halpha
      omega
    · have := isDigit_iff.mp hdigit
      omega
  simp only [isBlank, isSpace, Bool.or_eq_false_iff, Bool.and_eq_false_iff,
    beq_eq_false_iff_ne, decide_eq_false_iff_not]
  omega

theorem not_isSign_of_isAlphanum {c : Char} (hc : c.isAlphanum = true) :
    isSign c = false := by
  rw [Bool.eq_false_iff]
  intro hsign
  rcases isSign_iff.mp hsign with rfl | rfl
  · exact absurd hc (by decide)
  · exact absurd hc (by decide)

theorem BodyText.bare (htext : BodyText limits cs body) : Bare isBlank cs :=
  .of_forall fun c hc => not_isBlank_of_isAlphanum (htext.isAlphanum c hc)

theorem BodyText.signless (htext : BodyText limits cs body) : Signless cs :=
  fun c hc => not_isSign_of_isAlphanum (htext.isAlphanum c hc)

theorem BodyText.ne_nil (htext : BodyText limits cs body) : cs ≠ [] := by
  rintro rfl
  have hread := htext.readBody_eq
  simp [readBody] at hread

/-! ## From the grammar to the terms and back -/

theorem SignText.signOf_eq {c : Char} {sign : Int} (hsign : SignText c sign) :
    isSign c = true ∧ signOf c = sign := by
  cases hsign with
  | plus => decide
  | minus => decide

theorem SignText.of_isSign {c : Char} (hc : isSign c = true) : SignText c (signOf c) := by
  rcases isSign_iff.mp hc with rfl | rfl
  · exact .plus
  · exact .minus

/-- The texts of terms are laid out as bodies that are read as these terms. -/
theorem TailText.layout {rest : List Char} (hrest : TailText limits rest terms) :
    ∃ tail, TailLayout rest tail ∧
      readTerms limits (tail.map fun (sign, text) => (signOf sign, text)) = .ok terms := by
  induction hrest with
  | nil => exact ⟨[], .nil blanks_nil, rfl⟩
  | @cons before after text rest c sign body terms hbefore hsign hafter htext _ ih =>
      obtain ⟨hc, hsignOf⟩ := hsign.signOf_eq
      obtain ⟨tail, hlayout, hread⟩ := ih
      refine ⟨(c, text) :: tail, .cons hbefore hc hafter htext.signless htext.bare hlayout, ?_⟩
      rw [List.map_cons, readTerms_eq_ok_iff]
      exact .cons ⟨hsignOf.symm, htext⟩ (readTerms_eq_ok_iff.mp hread)

/-- Bodies that are laid out and read as terms are texts of these terms, apart from blanks behind
the last one. -/
theorem TailLayout.tailText {rest : List Char} {tail : List (Char × List Char)}
    (hlayout : TailLayout rest tail)
    (hread : List.Forall₂ (fun part term => term.sign = signOf part.1 ∧
      BodyText limits part.2 term.body) tail terms) :
    ∃ texts right, TailText limits texts terms ∧ Blanks right ∧ rest = texts ++ right := by
  induction hlayout generalizing terms with
  | nil hblanks =>
      cases hread
      exact ⟨[], _, .nil, hblanks, rfl⟩
  | @cons before after body rest c tail hbefore hc hafter _ _ _ ih =>
      obtain ⟨⟨sign, value⟩, terms, ⟨hsign, htext⟩, hmore, rfl⟩ :=
        List.forall₂_cons_left_iff.mp hread
      obtain ⟨texts, right, htexts, hright, rfl⟩ := ih hmore
      obtain rfl : sign = signOf c := hsign
      refine ⟨_, right, .cons hbefore (.of_isSign hc) hafter htext htexts, hright, ?_⟩
      simp

theorem readPieces_cons_eq_ok_iff {c : Char} {parts : List (Char × List Char)} :
    readPieces limits (c :: cs, parts) = .ok terms ↔
      readTerms limits (signedBodies (c :: cs) parts) = .ok terms ∧
        (∃ term ∈ terms, term.body.isDice = true) ∧ totalDice terms ≤ limits.maxTotal := by
  rw [readPieces, Except.bind_eq_ok_iff]
  constructor
  · rintro ⟨found, hread, hwhole⟩
    obtain ⟨hdice, htotal, rfl⟩ := checkWhole_eq_ok_iff.mp hwhole
    exact ⟨hread, hdice, htotal⟩
  · rintro ⟨hread, hdice, htotal⟩
    exact ⟨terms, hread, checkWhole_eq_ok_iff.mpr ⟨hdice, htotal, rfl⟩⟩

/-- What is read from the pieces of a text is written in the text. -/
theorem ExpressionText.of_readPieces
    (hread : readPieces limits (pieces cs) = .ok terms) : ExpressionText limits cs terms := by
  rcases hpieces : pieces cs with ⟨- | ⟨c, text⟩, parts⟩
  · -- Without a first piece the text is blank or begins with a sign.
    rw [hpieces] at hread
    rcases parts with - | ⟨⟨sign, body⟩, more⟩ <;> simp [readPieces] at hread
  · rw [hpieces, readPieces_cons_eq_ok_iff, readTerms_eq_ok_iff] at hread
    obtain ⟨hterms, hdice, htotal⟩ := hread
    rw [signedBodies, List.forall₂_cons_left_iff] at hterms
    obtain ⟨⟨sign, body⟩, more, ⟨hsign, htext⟩, hmore, rfl⟩ := hterms
    obtain rfl : sign = 1 := hsign
    obtain ⟨hleft, -, -, hrest⟩ := layout_iff.mpr hpieces
    obtain ⟨texts, right, htexts, hright, rfl⟩ :=
      hrest.tailText (List.forall₂_map_left_iff.mp hmore)
    rw [← List.append_assoc]
    exact .intro hleft htext htexts hright hdice htotal

/-- What is written in a text is read from its pieces. -/
theorem ExpressionText.readPieces_eq (hwrites : ExpressionText limits cs terms) :
    readPieces limits (pieces cs) = .ok terms := by
  obtain @⟨left, text, rest, right, body, terms, hleft, htext, hrest, hright, hdice, htotal⟩ :=
    hwrites
  obtain ⟨tail, htail, hterms⟩ := hrest.layout
  have hlayout : Layout (left ++ text ++ rest) text tail :=
    .intro hleft htext.signless htext.bare htail
  have hpieces : pieces (left ++ text ++ rest ++ right) = (text, tail) := by
    rw [pieces_append_right hright, hlayout.pieces_eq]
  obtain ⟨c, cs, rfl⟩ := List.exists_cons_of_ne_nil htext.ne_nil
  rw [hpieces, readPieces_cons_eq_ok_iff]
  refine ⟨readTerms_eq_ok_iff.mpr ?_, hdice, htotal⟩
  exact .cons ⟨rfl, htext⟩ (readTerms_eq_ok_iff.mp hterms)

/-- An expression is read as some terms exactly if it writes these terms. -/
theorem parse_eq_ok_iff {text : String} :
    parse limits text = .ok terms ↔ ExpressionText limits text.toList terms := by
  rw [parse_eq_readPieces]
  exact ⟨.of_readPieces, ExpressionText.readPieces_eq⟩

/-! ## Strings that are no texts -/

section Halves

variable {α : Type} [Letter α] {letters : List α}

/-- Half of a pair has a higher code than all letters that a string is cut at. -/
theorem not_isBlank_of_half {letter : α} (hhalf : char? (Letter.code letter) = none) :
    isBlank letter = false := by
  have hhigh : 0xD800 ≤ Letter.code letter := by
    by_contra hlow
    exact char?_ne_none_of_lt (Nat.not_le.mp hlow) hhalf
  simp only [isBlank, isSpace, Bool.or_eq_false_iff, Bool.and_eq_false_iff,
    beq_eq_false_iff_ne, decide_eq_false_iff_not]
  omega

theorem not_isSign_of_half {letter : α} (hhalf : char? (Letter.code letter) = none) :
    isSign letter = false := by
  rw [Bool.eq_false_iff]
  intro hsign
  have hchar : ∃ c : Char, letter = Letter.ofChar c := by
    rcases isSign_iff.mp hsign with rfl | rfl
    · exact ⟨_, rfl⟩
    · exact ⟨_, rfl⟩
  obtain ⟨c, rfl⟩ := hchar
  rw [char?_eq_some_iff.mpr (Letter.code_ofChar c)] at hhalf
  cases hhalf

theorem readBody_of_half {body : List α} (hhalf : HasHalf body) (limits : Limits) :
    readBody limits body = .error (.unknownToken (.ofLetters body)) := by
  unfold readBody Token.of
  simp only [List.isEmpty_iff, hhalf.ne_nil, if_false, chars?_eq_none_iff.mpr hhalf,
    Option.elim_none]

theorem readTerms_fails {bodies : List (Int × List α)} {body : List α} {cause : InvalidRoll}
    (hmem : body ∈ bodies.map Prod.snd) (hbody : readBody limits body = .error cause) :
    ∃ first : InvalidRoll, readTerms limits bodies = .error first := by
  induction bodies with
  | nil => cases hmem
  | cons piece rest ih =>
      obtain ⟨sign, text⟩ := piece
      cases htext : readBody limits text with
      | error first =>
          refine ⟨first, ?_⟩
          rw [readTerms, htext]
          rfl
      | ok value =>
          have hrest : body ∈ rest.map Prod.snd := by
            refine (List.mem_cons.mp hmem).resolve_left ?_
            rintro rfl
            cases hbody.symm.trans htext
          obtain ⟨first, hfirst⟩ := ih hrest
          refine ⟨first, ?_⟩
          rw [readTerms, htext, hfirst]
          rfl

/-- What is neither blank nor a sign lies in one of the bodies. -/
theorem TailLayout.exists_body {tail : List (α × List α)} (hlayout : TailLayout letters tail)
    {letter : α} (hmem : letter ∈ letters) (hblank : isBlank letter = false)
    (hsign : isSign letter = false) : ∃ body ∈ tail.map Prod.snd, letter ∈ body := by
  induction hlayout with
  | nil hblanks => cases (hblanks letter hmem).symm.trans hblank
  | @cons before after body rest c tail hbefore hc hafter _ _ _ ih =>
      simp only [List.mem_append, List.mem_cons] at hmem
      rcases hmem with hmem | rfl | (hmem | hmem) | hmem
      · cases (hbefore letter hmem).symm.trans hblank
      · cases hc.symm.trans hsign
      · cases (hafter letter hmem).symm.trans hblank
      · exact ⟨body, by simp, hmem⟩
      · obtain ⟨other, hother, hletter⟩ := ih hmem
        exact ⟨other, List.mem_cons_of_mem _ hother, hletter⟩

theorem Layout.exists_body {head : List α} {tail : List (α × List α)}
    (hlayout : Layout letters head tail) {letter : α} (hmem : letter ∈ letters)
    (hblank : isBlank letter = false) (hsign : isSign letter = false) :
    ∃ body ∈ head :: tail.map Prod.snd, letter ∈ body := by
  cases hlayout with
  | intro hleft hhead hbare hrest =>
      simp only [List.mem_append] at hmem
      rcases hmem with (hmem | hmem) | hmem
      · cases (hleft letter hmem).symm.trans hblank
      · exact ⟨head, List.mem_cons_self, hmem⟩
      · obtain ⟨body, hbody, hletter⟩ := hrest.exists_body hmem hblank hsign
        exact ⟨body, List.mem_cons_of_mem _ hbody, hletter⟩

/-- A string with a body that is no term is refused. -/
theorem parseLetters_fails {body : List α} {cause : InvalidRoll}
    (hmem : body ∈ (pieces letters).1 :: (pieces letters).2.map Prod.snd)
    (hbody : readBody limits body = .error cause) :
    ∃ first : InvalidRoll, parseLetters limits letters = .error first := by
  rw [parseLetters_eq_readPieces]
  rcases hpieces : pieces letters with ⟨- | ⟨c, head⟩, tail⟩
  · rcases tail with - | ⟨⟨sign, body⟩, more⟩
    · exact ⟨_, rfl⟩
    · exact ⟨_, rfl⟩
  · rw [hpieces, ← map_snd_signedBodies] at hmem
    obtain ⟨first, hfirst⟩ := readTerms_fails hmem hbody
    refine ⟨first, ?_⟩
    rw [readPieces, hfirst]
    rfl

/-- Half of a pair is part of a body, and this is no term. -/
theorem parseLetters_of_half (hhalf : HasHalf letters) (limits : Limits) :
    ∃ cause : InvalidRoll, parseLetters limits letters = .error cause := by
  obtain ⟨letter, hmem, hchar⟩ := hhalf
  have hlayout : Layout letters (pieces letters).1 (pieces letters).2 := layout_iff.mpr rfl
  obtain ⟨body, hbody, hletter⟩ := hlayout.exists_body hmem
    (not_isBlank_of_half hchar) (not_isSign_of_half hchar)
  exact parseLetters_fails hbody (readBody_of_half ⟨letter, hletter, hchar⟩ limits)

end Halves

theorem parse_broken (limits : Limits) (string : Broken) :
    ∃ cause : InvalidRoll, parse limits (.broken string) = .error cause :=
  parseLetters_of_half (chars?_eq_none_iff.mp string.half) limits

/-- What is read is a text. -/
theorem text_of_parse {string : Loose} (hparse : parse limits string = .ok terms) :
    ∃ text : String, string = text := by
  cases string with
  | text value => exact ⟨value, rfl⟩
  | broken string =>
      obtain ⟨cause, hcause⟩ := parse_broken limits string
      cases hcause.symm.trans hparse

/-- A string writes some terms if it is a text of the grammar. -/
def Writes (limits : Limits) (string : Loose) (terms : List Term) : Prop :=
  ∃ text : String, string = text ∧ ExpressionText limits text.toList terms

/-- The strings of the grammar are read, each as the terms that it writes, and every
other string is refused. -/
theorem parse_accepts_grammar (limits : Limits) (string : Loose) :
    (∀ terms, parse limits string = .ok terms ↔ Writes limits string terms) ∧
    ((∃ cause : InvalidRoll, parse limits string = .error cause) ↔
      ∀ terms, ¬ Writes limits string terms) := by
  have hread : ∀ terms, parse limits string = .ok terms ↔ Writes limits string terms := by
    intro terms
    constructor
    · intro hparse
      obtain ⟨text, rfl⟩ := text_of_parse hparse
      exact ⟨text, rfl, parse_eq_ok_iff.mp hparse⟩
    · rintro ⟨text, rfl, hwrites⟩
      exact parse_eq_ok_iff.mpr hwrites
  refine ⟨hread, ?_⟩
  constructor
  · rintro ⟨cause, hcause⟩ terms hwrites
    rw [(hread terms).mpr hwrites] at hcause
    contradiction
  · intro hnone
    cases hparse : parse limits string with
    | error cause => exact ⟨cause, rfl⟩
    | ok terms => exact absurd ((hread terms).mp hparse) (hnone terms)

end Dice
end Tabletop
