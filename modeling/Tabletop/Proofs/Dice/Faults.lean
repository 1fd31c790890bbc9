import Mathlib
import Tabletop.Proofs.Dice.Grammar

/-!
# Which fault of a text is reported

The faults of a term are ordered, and the first of them is its fault.  A text that begins with a
sign is refused for that.  Any other text is refused for its first term that is none, with the
fault that this term has alone: what stands behind the term is not looked at, and may be replaced
by anything behind a sign.  Only a text of terms throughout is asked for dice, and for not too
many of them.
-/

namespace Tabletop
namespace Dice

open Text

variable {limits : Limits} {cs count sides : List Char} {message : String}

/-- What a refusal tells about its cause. -/
structure InvalidRoll.Says (cause : InvalidRoll) (message : Loose) (details : Option Json) :
    Prop where
  message_eq : cause.message = message
  details_eq : cause.details = details

/-- The details of a fault in some part of a string; an empty part is not shown. -/
def fragmentDetails {α : Type} [Letter α] (letters : List α) : Option Json :=
  if letters = [] then none
  else some (.record [("fragment", .ofLoose (.ofLetters letters))])

/-- The faults of dice.  Each of them comes up only where the ones before it do not. -/
inductive DiceFault (limits : Limits) (count sides : List Char) : String → Prop
  | tooManyDigits (hlong : 10 < count.length ∨ 10 < sides.length) :
      DiceFault limits count sides "Dice term has too many digits"
  | countBelowOne (hshort : count.length ≤ 10 ∧ sides.length ≤ 10) (hcount : countOf count < 1) :
      DiceFault limits count sides "Dice count must be an integer greater than or equal to 1"
  | sidesMissing (hshort : count.length ≤ 10 ∧ sides.length ≤ 10) (hcount : 1 ≤ countOf count)
      (hsides : sides.length = 0) :
      DiceFault limits count sides "Dice term is missing its number of sides"
  | sidesBelowTwo (hshort : count.length ≤ 10 ∧ sides.length ≤ 10) (hcount : 1 ≤ countOf count)
      (hwritten : 1 ≤ sides.length) (hsides : numeral sides < 2) :
      DiceFault limits count sides "Dice sides must be an integer greater than or equal to 2"
  | countOverLimit (hshort : count.length ≤ 10 ∧ sides.length ≤ 10) (hcount : 1 ≤ countOf count)
      (hwritten : 1 ≤ sides.length) (hsides : 2 ≤ numeral sides)
      (hover : limits.maxCount < countOf count) :
      DiceFault limits count sides
        ("Dice count exceeds maximum allowed (" ++ Decimal.text limits.maxCount ++ ")")
  | sidesOverLimit (hshort : count.length ≤ 10 ∧ sides.length ≤ 10)
      (hcount : 1 ≤ countOf count ∧ countOf count ≤ limits.maxCount)
      (hwritten : 1 ≤ sides.length) (hsides : 2 ≤ numeral sides)
      (hover : limits.maxSides < numeral sides) :
      DiceFault limits count sides
        ("Dice sides exceed maximum allowed (" ++ Decimal.text limits.maxSides ++ ")")

/-- The fault of a text that is not one of a term. -/
inductive TermFault (limits : Limits) : List Char → String → Prop
  | empty : TermFault limits [] "Dice expression contains empty terms"
  | dice {count sides : List Char} {d : Char} {message : String} (hcount : Digits count)
      (hsides : Digits sides) (hd : d = 'd' ∨ d = 'D')
      (hfault : DiceFault limits count sides message) :
      TermFault limits (count ++ d :: sides) message
  | number {digits : List Char} (hdigits : Digits digits) (hlong : 10 < digits.length) :
      TermFault limits digits "Number literal has too many digits"
  | word {word : List Char} (halpha : ∀ c ∈ word, c.isAlpha = true) (hne : word ≠ [])
      (hform : ¬ DiceForm word) (hability : ∀ ability : Ability, ¬ CaseVariant word ability.code)
      (hproficiency : ¬ CaseVariant word "PROF") :
      TermFault limits word ("Unknown ability code: " ++ String.ofList word)
  | other {token : List Char} (hne : token ≠ []) (hform : ¬ DiceForm token)
      (hdigits : ¬ Digits token) (halpha : ¬ ∀ c ∈ token, c.isAlpha = true) :
      TermFault limits token ("Unknown token in dice expression: " ++ String.ofList token)

/-! ## One term -/

theorem DiceFault.readDice_eq (hfault : DiceFault limits count sides message)
    (fragment : Loose) :
    ∃ cause : InvalidRoll, readDice limits fragment count sides = .error cause ∧
      cause.Says message (some (.record [("fragment", .ofLoose fragment)])) := by
  rw [Dice.readDice_eq]
  cases hfault with
  | tooManyDigits hlong =>
      rw [if_pos hlong]
      exact ⟨_, rfl, rfl, rfl⟩
  | countBelowOne hshort hcount =>
      rw [if_neg (by omega), if_pos hcount]
      exact ⟨_, rfl, rfl, rfl⟩
  | sidesMissing hshort hcount hsides =>
      rw [if_neg (by omega), if_neg (by omega), if_pos hsides]
      exact ⟨_, rfl, rfl, rfl⟩
  | sidesBelowTwo hshort hcount hwritten hsides =>
      rw [if_neg (by omega), if_neg (by omega), if_neg (by omega), if_pos hsides]
      exact ⟨_, rfl, rfl, rfl⟩
  | countOverLimit hshort hcount hwritten hsides hover =>
      rw [if_neg (by omega), if_neg (by omega), if_neg (by omega), if_neg (by omega),
        if_pos hover]
      exact ⟨_, rfl, rfl, rfl⟩
  | sidesOverLimit hshort hcount hwritten hsides hover =>
      rw [if_neg (by omega), if_neg (by omega), if_neg (by omega), if_neg (by omega),
        if_neg (by omega), if_pos hover]
      exact ⟨_, rfl, rfl, rfl⟩

theorem exists_diceFault {d : Char} (hcount : Digits count) (hsides : Digits sides)
    (hd : d = 'd' ∨ d = 'D') (hnone : ∀ value, ¬ BodyText limits (count ++ d :: sides) value) :
    ∃ message, DiceFault limits count sides message := by
  by_cases hlong : 10 < count.length ∨ 10 < sides.length
  · exact ⟨_, .tooManyDigits hlong⟩
  have hshort : count.length ≤ 10 ∧ sides.length ≤ 10 := by omega
  by_cases hcountLow : countOf count < 1
  · exact ⟨_, .countBelowOne hshort hcountLow⟩
  by_cases hmissing : sides.length = 0
  · exact ⟨_, .sidesMissing hshort (by omega) hmissing⟩
  by_cases hsidesLow : numeral sides < 2
  · exact ⟨_, .sidesBelowTwo hshort (by omega) (by omega) hsidesLow⟩
  by_cases hcountHigh : limits.maxCount < countOf count
  · exact ⟨_, .countOverLimit hshort (by omega) (by omega) (by omega) hcountHigh⟩
  by_cases hsidesHigh : limits.maxSides < numeral sides
  · exact ⟨_, .sidesOverLimit hshort (by omega) (by omega) (by omega) hsidesHigh⟩
  -- Nothing is left that could be wrong.
  have htext : BodyText limits (count ++ d :: sides) (.dice (countOf count) (numeral sides)) :=
    .dice hcount hsides hd hshort.1 (by omega) (by omega) (by omega)
  exact absurd htext (hnone _)

/-- A text is that of a term or has a fault. -/
theorem exists_termFault (hnone : ∀ value, ¬ BodyText limits cs value) :
    ∃ message, TermFault limits cs message := by
  by_cases hne : cs = []
  · rw [hne]
    exact ⟨_, .empty⟩
  by_cases hform : DiceForm cs
  · obtain ⟨count, d, sides, hcount, hsides, hd, rfl⟩ := hform
    obtain ⟨message, hfault⟩ := exists_diceFault hcount hsides hd hnone
    exact ⟨message, .dice hcount hsides hd hfault⟩
  by_cases hdigits : Digits cs
  · have hpos : 1 ≤ cs.length := List.length_pos_iff.mpr hne
    have hlong : 10 < cs.length := by
      by_contra hshort
      exact hnone _ (.number hdigits ⟨hpos, by omega⟩)
    exact ⟨_, .number hdigits hlong⟩
  by_cases halpha : ∀ c ∈ cs, c.isAlpha = true
  · have hability : ∀ ability : Ability, ¬ CaseVariant cs ability.code :=
      fun ability hword => hnone _ (.ability ability hword)
    have hproficiency : ¬ CaseVariant cs "PROF" := fun hword => hnone _ (.proficiency hword)
    exact ⟨_, .word halpha hne hform hability hproficiency⟩
  · exact ⟨_, .other hne hform hdigits halpha⟩

theorem ofCode?_eq_none (hability : ∀ ability : Ability, ¬ CaseVariant cs ability.code) :
    Ability.ofCode? (String.ofList (cs.map Char.toUpper)) = none := by
  rw [Option.eq_none_iff_forall_ne_some]
  intro ability hfound
  have hcode := Ability.code_of_ofCode? hfound
  apply hability ability
  rw [caseVariant_iff (isUpper_of_mem_code ability), hcode, String.toList_ofList]

theorem upper_ne_proficiencyCode (hproficiency : ¬ CaseVariant cs "PROF") :
    String.ofList (cs.map Char.toUpper) ≠ proficiencyCode := by
  intro hcode
  apply hproficiency
  have hupper : cs.map Char.toUpper = proficiencyCode.toList := by
    rw [← hcode, String.toList_ofList]
  exact (caseVariant_iff isUpper_of_mem_proficiencyCode).mpr hupper

theorem Token.ofChars_other (hform : ¬ DiceForm cs) (hdigits : ¬ Digits cs)
    (halpha : ¬ ∀ c ∈ cs, c.isAlpha = true) : Token.ofChars cs = .other := by
  have hdescribes := Token.ofChars_describes cs
  cases htoken : Token.ofChars cs with
  | dice count sides =>
      rw [htoken] at hdescribes
      obtain ⟨hcount, hsides, d, hd, hcs⟩ := hdescribes
      exact absurd ⟨count, d, sides, hcount, hsides, hd, hcs⟩ hform
  | number digits =>
      rw [htoken] at hdescribes
      exact absurd hdescribes.2.1 hdigits
  | word letters =>
      rw [htoken] at hdescribes
      exact absurd hdescribes.2 halpha
  | other => rfl

/-- A text with a fault is refused for it. -/
theorem TermFault.readBody_eq (hfault : TermFault limits cs message) :
    ∃ cause : InvalidRoll, readBody limits cs = .error cause ∧
      cause.Says message (fragmentDetails cs) := by
  unfold readBody fragmentDetails
  cases hfault with
  | empty => exact ⟨.emptyTerm, rfl, rfl, rfl⟩
  | @dice count sides d message hcount hsides hd hfault =>
      have hne : count ++ d :: sides ≠ [] := by simp
      simp only [List.isEmpty_iff, hne, if_false, Token.of_chars,
        Token.ofChars_dice hcount hsides hd]
      exact hfault.readDice_eq _
  | number hdigits hlong =>
      have hne : cs ≠ [] := by
        rintro rfl
        simp at hlong
      simp only [List.isEmpty_iff, hne, if_false, Token.of_chars,
        Token.ofChars_number hdigits hne, maxDigits, hlong, if_true]
      exact ⟨_, rfl, rfl, rfl⟩
  | word halpha hne hform hability hproficiency =>
      simp only [List.isEmpty_iff, hne, if_false, Token.of_chars,
        Token.ofChars_word halpha hne hform, ofCode?_eq_none hability,
        upper_ne_proficiencyCode hproficiency, Option.isSome_none, Bool.false_eq_true,
        Loose.ofLetters_chars]
      exact ⟨_, rfl, rfl, rfl⟩
  | other hne hform hdigits halpha =>
      simp only [List.isEmpty_iff, hne, if_false, Token.of_chars,
        Token.ofChars_other hform hdigits halpha, Loose.ofLetters_chars]
      exact ⟨_, rfl, rfl, rfl⟩

/-! ## Terms among the letters of a string -/

section Letters

variable {α : Type} [Letter α] {body head : List α} {tail : List (α × List α)}

/-- Letters that spell a term. -/
def Spells (limits : Limits) (letters : List α) (value : Body) : Prop :=
  ∃ cs : List Char, letters = cs.map Letter.ofChar ∧ BodyText limits cs value

/-- Letters that have the form of dice. -/
def SpellsDice (letters : List α) : Prop :=
  ∃ cs : List Char, letters = cs.map Letter.ofChar ∧ DiceForm cs

/-- The fault of letters that spell no term: that of their text, or half of a pair in them. -/
inductive LettersFault (limits : Limits) : List α → Loose → Prop
  | text {cs : List Char} {message : String} (hfault : TermFault limits cs message) :
      LettersFault limits (cs.map Letter.ofChar) message
  | half {letters : List α} (hhalf : HasHalf letters) :
      LettersFault limits letters
        (.text "Unknown token in dice expression: " ++ .ofLetters letters)

theorem readBody_ofChar (limits : Limits) (cs : List Char) :
    readBody limits (cs.map (Letter.ofChar : Char → α)) = readBody limits cs :=
  readBody_map Letter.code_ofChar limits cs

theorem Spells.readBody_eq {letters : List α} {value : Body}
    (hspells : Spells limits letters value) : readBody limits letters = .ok value := by
  obtain ⟨cs, rfl, htext⟩ := hspells
  rw [readBody_ofChar, htext.readBody_eq]

theorem Spells.ne_nil {letters : List α} {value : Body}
    (hspells : Spells limits letters value) : letters ≠ [] := by
  obtain ⟨cs, rfl, htext⟩ := hspells
  exact fun hnil => htext.ne_nil (List.map_eq_nil_iff.mp hnil)

theorem exists_lettersFault {letters : List α}
    (hnone : ∀ value, ¬ Spells limits letters value) :
    ∃ message, LettersFault limits letters message := by
  rcases hasHalf_or_text letters with hhalf | ⟨cs, rfl⟩
  · exact ⟨_, .half hhalf⟩
  · obtain ⟨message, hfault⟩ := exists_termFault fun value htext => hnone value ⟨cs, rfl, htext⟩
    exact ⟨message, .text hfault⟩

theorem fragmentDetails_ofChar (cs : List Char) :
    fragmentDetails (cs.map (Letter.ofChar : Char → α)) = fragmentDetails cs := by
  unfold fragmentDetails
  rw [Loose.ofLetters_map Letter.code_ofChar]
  simp only [List.map_eq_nil_iff]

/-- Letters with a fault are refused for it. -/
theorem LettersFault.readBody_eq {letters : List α} {message : Loose}
    (hfault : LettersFault limits letters message) :
    ∃ cause : InvalidRoll, readBody limits letters = .error cause ∧
      cause.Says message (fragmentDetails letters) := by
  cases hfault with
  | text hfault =>
      rw [readBody_ofChar, fragmentDetails_ofChar]
      exact hfault.readBody_eq
  | half hhalf =>
      refine ⟨_, readBody_of_half hhalf limits, rfl, ?_⟩
      rw [fragmentDetails, if_neg hhalf.ne_nil]
      rfl

theorem isDice_iff {letters : List α} :
    (Token.of letters).isDice = true ↔ SpellsDice letters := by
  constructor
  · intro hdice
    rcases hasHalf_or_text letters with hhalf | ⟨cs, rfl⟩
    · rw [Token.of, chars?_eq_none_iff.mpr hhalf] at hdice
      contradiction
    · rw [Token.of, chars?_map_ofChar] at hdice
      have hform := Token.ofChars_describes cs
      cases htoken : Token.ofChars cs with
      | dice count sides =>
          rw [htoken] at hform
          obtain ⟨hcount, hsides, d, hd, hcs⟩ := hform
          exact ⟨cs, rfl, count, d, sides, hcount, hsides, hd, hcs⟩
      | number digits => simp [htoken, Token.isDice] at hdice
      | word letters => simp [htoken, Token.isDice] at hdice
      | other => simp [htoken, Token.isDice] at hdice
  · rintro ⟨cs, rfl, count, d, sides, hcount, hsides, hd, rfl⟩
    rw [Token.of, chars?_map_ofChar, Option.elim_some, Token.ofChars_dice hcount hsides hd]
    rfl

theorem signOf_eq_neg_one_iff {sign : α} : signOf sign = -1 ↔ sign = Letter.ofChar '-' := by
  rw [signOf, ← Letter.code_eq_iff]
  by_cases hminus : Letter.code sign = '-'.toNat
  · rw [if_pos hminus]
    exact ⟨fun _ => hminus, fun _ => rfl⟩
  · rw [if_neg hminus]
    exact ⟨fun hone => absurd hone (by decide), fun hfound => absurd hfound hminus⟩

/-! ## Terms in order -/

/-- The first body that spells no term decides, whatever comes behind it. -/
theorem readTerms_eq_error {bodies : List (Int × List α)} {before after : List (List α)}
    {cause : InvalidRoll} (hbodies : bodies.map Prod.snd = before ++ body :: after)
    (hbefore : ∀ earlier ∈ before, ∃ value, Spells limits earlier value)
    (hbody : readBody limits body = .error cause) : readTerms limits bodies = .error cause := by
  induction before generalizing bodies with
  | nil =>
      obtain ⟨piece, rest, rfl, hpiece, -⟩ := List.map_eq_cons_iff.mp hbodies
      obtain ⟨sign, text⟩ := piece
      obtain rfl : text = body := hpiece
      rw [readTerms, hbody]
      rfl
  | cons earlier before ih =>
      obtain ⟨piece, rest, rfl, hpiece, hrest⟩ := List.map_eq_cons_iff.mp hbodies
      obtain ⟨sign, text⟩ := piece
      obtain rfl : text = earlier := hpiece
      obtain ⟨⟨value, hvalue⟩, hmore⟩ := List.forall_mem_cons.mp hbefore
      rw [readTerms, hvalue.readBody_eq, ih hrest hmore]
      rfl

theorem readPieces_eq_error {before after : List (List α)} {cause : InvalidRoll}
    (hhead : head ≠ []) (hbodies : head :: tail.map Prod.snd = before ++ body :: after)
    (hbefore : ∀ earlier ∈ before, ∃ value, Spells limits earlier value)
    (hbody : readBody limits body = .error cause) :
    readPieces limits (head, tail) = .error cause := by
  obtain ⟨c, cs, rfl⟩ := List.exists_cons_of_ne_nil hhead
  rw [← map_snd_signedBodies] at hbodies
  rw [readPieces, readTerms_eq_error hbodies hbefore hbody]
  rfl

theorem readTerms_of_bodies {bodies : List (Int × List α)} {values : List Body}
    (hvalues : List.Forall₂ (Spells limits) (bodies.map Prod.snd) values) :
    ∃ terms, readTerms limits bodies = .ok terms ∧ terms.map Term.body = values := by
  induction bodies generalizing values with
  | nil =>
      cases hvalues
      exact ⟨[], rfl, rfl⟩
  | cons piece rest ih =>
      obtain ⟨sign, text⟩ := piece
      obtain ⟨value, more, hvalue, hmore, rfl⟩ := List.forall₂_cons_left_iff.mp hvalues
      obtain ⟨terms, hread, rfl⟩ := ih hmore
      have hbody : readBody limits text = .ok value := hvalue.readBody_eq
      refine ⟨⟨sign, value⟩ :: terms, ?_, rfl⟩
      rw [readTerms, hbody, hread]
      rfl

end Letters

/-! ## Strings -/

variable {string : Loose} {body head : List Nat} {tail : List (Nat × List Nat)}

theorem parse_codes (limits : Limits) (codes : List Nat) :
    parse limits (.ofLetters codes) = readPieces limits (pieces codes) := by
  rw [parse_ofLetters, parseLetters_eq_readPieces]

theorem Layout.parse_eq (hlayout : Layout string.codes head tail) :
    parse limits string = readPieces limits (head, tail) := by
  rw [parse_eq_codes, parseLetters_eq_readPieces, hlayout.pieces_eq]

/-- A string is refused for a body in it that spells no term.  The body is refused for the same
alone, and so is every string that goes on differently behind it. -/
structure RefusedFor (limits : Limits) (string : Loose) (head : List Nat)
    (tail : List (Nat × List Nat)) (place : Nat) (body : List Nat) (cause : InvalidRoll) :
    Prop where
  refused : parse limits string = .error cause
  fault : ∃ message, LettersFault limits body message ∧
    cause.Says message (fragmentDetails body)
  alone : body ≠ [] → parse limits (.ofLetters body) = .error cause
  reached : ∃ front rest, string.codes = front ++ rest ∧
    Layout front head (tail.take place) ∧ ∀ c ∈ rest.head?, isSign c = true
  kept : ∀ front sign other, Layout front head (tail.take place) → isSign sign = true →
    parse limits (.ofLetters (front ++ sign :: other)) = .error cause

/-- What a string is refused for, by its layout. -/
structure FaultsFromLeft (limits : Limits) (string : Loose) (head : List Nat)
    (tail : List (Nat × List Nat)) : Prop where
  leadingSign : head = [] → ∃ sign body more cause, tail = (sign, body) :: more ∧
    parse limits string = .error cause ∧
    (sign = '-'.toNat ∧ SpellsDice body →
      cause.Says "Dice count must be an integer greater than or equal to 1"
        (fragmentDetails (sign :: body))) ∧
    (¬ (sign = '-'.toNat ∧ SpellsDice body) →
      cause.Says "Dice expression cannot start with a sign" (fragmentDetails (sign :: body)))
  firstTerm : head ≠ [] → ∀ before body after,
    head :: tail.map Prod.snd = before ++ body :: after →
    (∀ earlier ∈ before, ∃ value, Spells limits earlier value) →
    (∀ value, ¬ Spells limits body value) →
    ∃ cause, RefusedFor limits string head tail before.length body cause
  noDice : ∀ values, List.Forall₂ (Spells limits) (head :: tail.map Prod.snd) values →
    (∀ value ∈ values, value.isDice = false) →
    ∃ cause, parse limits string = .error cause ∧
      cause.Says "Dice expression must include at least one dice term" none
  tooManyDice : ∀ values, List.Forall₂ (Spells limits) (head :: tail.map Prod.snd) values →
    (∃ value ∈ values, value.isDice = true) →
    limits.maxTotal < (values.map Body.diceCount).sum →
    ∃ cause, parse limits string = .error cause ∧
      cause.Says
        (.text ("Dice expression rolls too many dice: " ++
          Decimal.text (values.map Body.diceCount).sum ++
          " (max " ++ Decimal.text limits.maxTotal ++ ")"))
        (some (.record [("totalDice", .int (values.map Body.diceCount).sum)]))
  accepted : ∀ values, List.Forall₂ (Spells limits) (head :: tail.map Prod.snd) values →
    (∃ value ∈ values, value.isDice = true) →
    (values.map Body.diceCount).sum ≤ limits.maxTotal →
    ∃ terms, parse limits string = .ok terms ∧ terms.map Term.body = values

theorem parse_leadingSign (hlayout : Layout string.codes [] tail)
    (hstring : ¬ Blanks string.codes) :
    ∃ sign body more cause, tail = (sign, body) :: more ∧ parse limits string = .error cause ∧
      (sign = '-'.toNat ∧ SpellsDice body →
        cause.Says "Dice count must be an integer greater than or equal to 1"
          (fragmentDetails (sign :: body))) ∧
      (¬ (sign = '-'.toNat ∧ SpellsDice body) →
        cause.Says "Dice expression cannot start with a sign"
          (fragmentDetails (sign :: body))) := by
  have hpieces := hlayout.pieces_eq
  cases tail with
  | nil => exact absurd (pieces_eq_nil_iff.mp hpieces) hstring
  | cons part more =>
      obtain ⟨sign, body⟩ := part
      have hparse : parse limits string = .error (leadingSignError sign body) :=
        hlayout.parse_eq
      have hminus : (signOf sign = -1 ∧ (Token.of body).isDice = true) ↔
          (sign = '-'.toNat ∧ SpellsDice body) :=
        and_congr signOf_eq_neg_one_iff isDice_iff
      refine ⟨sign, body, more, leadingSignError sign body, rfl, hparse, ?_, ?_⟩
      · intro hdice
        rw [leadingSignError, if_pos (hminus.mpr hdice)]
        exact ⟨rfl, rfl⟩
      · intro hdice
        rw [leadingSignError, if_neg fun hfound => hdice (hminus.mp hfound)]
        exact ⟨rfl, rfl⟩

theorem exists_refusedFor {before after : List (List Nat)}
    (hlayout : Layout string.codes head tail) (hhead : head ≠ [])
    (hbodies : head :: tail.map Prod.snd = before ++ body :: after)
    (hbefore : ∀ earlier ∈ before, ∃ value, Spells limits earlier value)
    (hnone : ∀ value, ¬ Spells limits body value) :
    ∃ cause, RefusedFor limits string head tail before.length body cause := by
  obtain ⟨message, hfault⟩ := exists_lettersFault hnone
  obtain ⟨cause, hread, hsays⟩ := hfault.readBody_eq
  refine ⟨cause, ?_, ⟨message, hfault, hsays⟩, ?_, hlayout.exists_front before.length, ?_⟩
  · rw [hlayout.parse_eq]
    exact readPieces_eq_error hhead hbodies hbefore hread
  · intro hne
    have hmem : body ∈ head :: tail.map Prod.snd := by
      rw [hbodies]
      simp
    obtain ⟨hsignless, hbare⟩ := hlayout.bare body hmem
    have halone : body :: ([] : List (Nat × List Nat)).map Prod.snd = [] ++ body :: [] := rfl
    rw [parse_codes, pieces_of_bare hsignless hbare]
    exact readPieces_eq_error hne halone nofun hread
  · intro front sign other hfront hsign
    have hfirst : head :: (tail.take before.length).map Prod.snd = before ++ [body] := by
      have htake := congrArg (List.take (before.length + 1)) hbodies
      rw [List.take_succ_cons, ← List.map_take] at htake
      rw [htake]
      simp [List.take_append]
    have hmore : head :: (tail.take before.length ++
        (sign, (pieces other).1) :: (pieces other).2).map Prod.snd =
          before ++ body :: ((pieces other).1 :: (pieces other).2.map Prod.snd) := by
      rw [List.map_append, ← List.cons_append, hfirst]
      simp
    rw [parse_codes, pieces_append_cons hsign, hfront.pieces_eq]
    exact readPieces_eq_error hhead hmore hbefore hread

/-! ## Strings of terms throughout -/

theorem totalDice_eq_sum (terms : List Term) :
    totalDice terms = ((terms.map Term.body).map Body.diceCount).sum := by
  induction terms with
  | nil => rfl
  | cons term rest ih => rw [totalDice_cons, ih, List.map_cons, List.map_cons, List.sum_cons]

/-- A string of terms throughout is read as they are, up to the check of the whole. -/
theorem parse_of_bodies {values : List Body} (hlayout : Layout string.codes head tail)
    (hvalues : List.Forall₂ (Spells limits) (head :: tail.map Prod.snd) values) :
    ∃ terms, parse limits string = checkWhole limits terms ∧ terms.map Term.body = values := by
  have hhead : head ≠ [] := by
    obtain ⟨value, more, hvalue, -, -⟩ := List.forall₂_cons_left_iff.mp hvalues
    exact hvalue.ne_nil
  rw [← map_snd_signedBodies] at hvalues
  obtain ⟨terms, hread, hterms⟩ := readTerms_of_bodies hvalues
  obtain ⟨c, cs, rfl⟩ := List.exists_cons_of_ne_nil hhead
  refine ⟨terms, ?_, hterms⟩
  rw [hlayout.parse_eq, readPieces, hread]
  rfl

theorem exists_dice_iff {terms : List Term} :
    (∃ value ∈ terms.map Term.body, value.isDice = true) ↔
      ∃ term ∈ terms, term.body.isDice = true := by simp

/-! ## What a refusal shows -/

/-- A refusal shows no part of its string that is no text. -/
def InvalidRoll.IsText (cause : InvalidRoll) : Prop :=
  ∀ fragment, cause.fragment? = some fragment → ∃ text : String, fragment = text

theorem InvalidRoll.isText_of_none {cause : InvalidRoll} (hnone : cause.fragment? = none) :
    cause.IsText := by
  intro fragment hfragment
  rw [hnone] at hfragment
  cases hfragment

theorem InvalidRoll.isText_of_text {cause : InvalidRoll} {text : String}
    (htext : cause.fragment? = some (Loose.text text)) : cause.IsText := by
  intro fragment hfragment
  rw [htext] at hfragment
  exact ⟨text, (Option.some.inj hfragment).symm⟩

theorem InvalidRoll.details_of_fragment {cause : InvalidRoll} {fragment : Loose}
    (hfragment : cause.fragment? = some fragment) :
    cause.details = some (.record [("fragment", .ofLoose fragment)]) := by
  cases cause <;> cases hfragment <;> rfl

theorem readDice_isText (limits : Limits) (text : String) (count sides : List Char) :
    Except.FailsOnly InvalidRoll.IsText (readDice limits text count sides) := by
  rw [Dice.readDice_eq]
  split_ifs
  all_goals first
    | exact Except.failsOnly_ok _
    | exact Except.failsOnly_error (InvalidRoll.isText_of_text rfl)

theorem readBody_isText (limits : Limits) (cs : List Char) :
    Except.FailsOnly InvalidRoll.IsText (readBody limits cs) := by
  simp only [readBody, Loose.ofLetters_chars]
  split
  · exact Except.failsOnly_error (InvalidRoll.isText_of_none rfl)
  cases Token.of cs with
  | dice count sides => exact readDice_isText limits _ count sides
  | number digits =>
      simp only
      split
      · exact Except.failsOnly_error (InvalidRoll.isText_of_text rfl)
      · exact Except.failsOnly_ok _
  | word letters =>
      simp only
      split_ifs
      · exact Except.failsOnly_ok _
      · exact Except.failsOnly_ok _
      · exact Except.failsOnly_error (InvalidRoll.isText_of_text rfl)
  | other => exact Except.failsOnly_error (InvalidRoll.isText_of_text rfl)

theorem readTerms_isText (limits : Limits) (bodies : List (Int × List Char)) :
    Except.FailsOnly InvalidRoll.IsText (readTerms limits bodies) := by
  induction bodies with
  | nil => exact Except.failsOnly_ok _
  | cons piece rest ih =>
      refine (readBody_isText limits piece.2).bind ?_
      intro value hvalue
      refine ih.bind ?_
      intro terms hterms
      exact Except.failsOnly_ok _

theorem checkWhole_isText (limits : Limits) (terms : List Term) :
    Except.FailsOnly InvalidRoll.IsText (checkWhole limits terms) := by
  unfold checkWhole
  split_ifs
  · exact Except.failsOnly_error (InvalidRoll.isText_of_none rfl)
  · exact Except.failsOnly_error (InvalidRoll.isText_of_none rfl)
  · exact Except.failsOnly_ok _

/-- A refused text is shown as text. -/
theorem parse_isText (limits : Limits) (text : String) :
    Except.FailsOnly InvalidRoll.IsText (parse limits text) := by
  rw [parse_eq_readPieces]
  rcases pieces text.toList with ⟨- | ⟨c, head⟩, tail⟩
  · rcases tail with - | ⟨⟨sign, body⟩, more⟩
    · exact Except.failsOnly_error (InvalidRoll.isText_of_none rfl)
    · apply Except.failsOnly_error
      simp only [leadingSignError, Loose.ofLetters_chars]
      split_ifs
      · exact InvalidRoll.isText_of_text rfl
      · exact InvalidRoll.isText_of_text rfl
  · exact (readTerms_isText limits _).bind fun terms _ => checkWhole_isText limits terms

/-- A string that is refused is shown as text, unless it is none. -/
theorem parseJson_isText (limits : Limits) {expr : Json}
    (htext : ∀ string, expr ≠ .broken string) :
    Except.FailsOnly InvalidRoll.IsText (parseJson limits expr) := by
  cases expr with
  | str text => exact parse_isText limits text
  | broken string => exact absurd rfl (htext string)
  | _ => exact Except.failsOnly_error (InvalidRoll.isText_of_none rfl)

/-- A string that is not blank has one layout, and it is refused for the first fault in it from
the left, if there is one. -/
theorem faults_from_left (limits : Limits) (string : Loose)
    (hstring : trim isBlank string.codes ≠ []) :
    ∃ head tail, Layout string.codes head tail ∧
      (∀ otherHead otherTail, Layout string.codes otherHead otherTail →
        otherHead = head ∧ otherTail = tail) ∧
      FaultsFromLeft limits string head tail := by
  have hblank : ¬ Blanks string.codes := fun hblank => hstring (trim_eq_nil_iff.mpr hblank)
  rcases hpieces : pieces string.codes with ⟨head, tail⟩
  have hlayout : Layout string.codes head tail := layout_iff.mpr hpieces
  refine ⟨head, tail, hlayout, ?_, ?_⟩
  · intro otherHead otherTail hother
    have hsame := hother.pieces_eq.symm.trans hpieces
    exact Prod.mk.inj hsame
  · constructor
    · rintro rfl
      exact parse_leadingSign hlayout hblank
    · intro hhead before body after hbodies hbefore hnone
      exact exists_refusedFor hlayout hhead hbodies hbefore hnone
    · intro values hvalues hnone
      obtain ⟨terms, hparse, rfl⟩ := parse_of_bodies hlayout hvalues
      have hdice : ¬ ∃ term ∈ terms, term.body.isDice = true := by
        rw [← exists_dice_iff]
        rintro ⟨value, hvalue, hdice⟩
        rw [hnone value hvalue] at hdice
        contradiction
      rw [hparse, checkWhole_of_no_dice hdice]
      exact ⟨_, rfl, rfl, rfl⟩
    · intro values hvalues hsome hover
      obtain ⟨terms, hparse, rfl⟩ := parse_of_bodies hlayout hvalues
      rw [← totalDice_eq_sum] at hover ⊢
      rw [hparse, checkWhole_of_dice (exists_dice_iff.mp hsome), if_pos hover]
      exact ⟨_, rfl, rfl, rfl⟩
    · intro values hvalues hsome hle
      obtain ⟨terms, hparse, rfl⟩ := parse_of_bodies hlayout hvalues
      rw [← totalDice_eq_sum] at hle
      rw [hparse, checkWhole_of_dice (exists_dice_iff.mp hsome), if_neg (Int.not_lt.mpr hle)]
      exact ⟨terms, rfl, rfl⟩

/-- The count of the second term is too low.  It does not matter that half of a pair stands in
the third and that the fourth is no ability, nor what else might stand there. -/
theorem faults_from_left_zero_count :
    let codes := " 2d6+0d6 +".toList.map Char.toNat ++ 0xD800 :: "+luck".toList.map Char.toNat
    trim isBlank (Loose.ofLetters codes).codes ≠ [] ∧
      parse {} (.ofLetters codes) = .error (.countBelowOne "0d6") ∧
      ∀ other, parse {} (.ofLetters ("2d6 + 0d6 ".toList.map Char.toNat ++ '-'.toNat :: other)) =
        .error (.countBelowOne "0d6") := by
  intro codes
  have hcodes : (Loose.ofLetters codes).codes = codes := Loose.codes_ofCodes codes
  have hstring : trim isBlank (Loose.ofLetters codes).codes ≠ [] := by
    rw [hcodes]
    decide
  have hpieces : pieces codes = ("2d6".toList.map Char.toNat,
      [('+'.toNat, "0d6".toList.map Char.toNat), ('+'.toNat, [0xD800]),
        ('+'.toNat, "luck".toList.map Char.toNat)]) := by decide
  have hterm : Spells {} ("2d6".toList.map Char.toNat) (.dice 2 6) :=
    ⟨"2d6".toList, rfl, readBody_eq_ok_iff.mp (by decide)⟩
  have hnone : ∀ value, ¬ Spells {} ("0d6".toList.map Char.toNat) value := by
    intro value hspells
    have hread : readBody {} ("0d6".toList.map Char.toNat) = .error (.countBelowOne "0d6") := by
      decide
    rw [hspells.readBody_eq] at hread
    contradiction
  obtain ⟨head, tail, hlayout, -, hfaults⟩ :=
    faults_from_left {} (.ofLetters codes) hstring
  rw [hcodes] at hlayout
  obtain ⟨rfl, rfl⟩ := Prod.mk.inj (hlayout.pieces_eq.symm.trans hpieces)
  obtain ⟨cause, hrefused⟩ := hfaults.firstTerm (by decide) ["2d6".toList.map Char.toNat]
    ("0d6".toList.map Char.toNat) [[0xD800], "luck".toList.map Char.toNat] rfl
    (List.forall_mem_singleton.mpr ⟨_, hterm⟩) hnone
  have hcause : cause = .countBelowOne "0d6" := by
    have halone : parse {} (.ofLetters ("0d6".toList.map Char.toNat)) =
        .error (.countBelowOne "0d6") := by decide
    exact Except.error.inj ((hrefused.alone (by decide)).symm.trans halone)
  subst hcause
  have hfront : Layout ("2d6 + 0d6 ".toList.map Char.toNat) ("2d6".toList.map Char.toNat)
      [('+'.toNat, "0d6".toList.map Char.toNat)] := layout_iff.mpr (by decide)
  exact ⟨hstring, hrefused.refused,
    fun other => hrefused.kept _ '-'.toNat other hfront (by decide)⟩

end Dice
end Tabletop
