import Mathlib
import Tabletop.Proofs.Dice.Account

/-!
# Expressions that are joined

Two expressions with a sign between them are one expression, unless both together have too
many dice.  Its terms are those of the first expression and then those of the second, of which
the first one takes the sign.

A roll of it on some samples comes to what the two rolls come to, one after the other on the
same samples.  The sign reaches the parts of one term, all dice of a group or one modifier, and
no part behind them.
-/

namespace Tabletop
namespace Dice

open Text Tabletop.Random

variable {limits : Limits} {terms others : List Term} {c : Char}

/-- The terms with a sign in front of the first one. -/
def signFirst (sign : Int) : List Term → List Term
  | [] => []
  | first :: rest => { first with sign } :: rest

/-! ## Reading -/

theorem totalDice_append (terms others : List Term) :
    totalDice (terms ++ others) = totalDice terms + totalDice others := by
  induction terms with
  | nil => rw [List.nil_append, totalDice_nil, zero_add]
  | cons first rest ih => rw [List.cons_append, totalDice_cons, totalDice_cons, ih, add_assoc]

theorem totalDice_signFirst (sign : Int) (terms : List Term) :
    totalDice (signFirst sign terms) = totalDice terms := by
  cases terms with
  | nil => rfl
  | cons first rest => rfl

theorem readTerms_append {bodies more : List (Int × List Char)}
    (hbodies : readTerms limits bodies = .ok terms) (hmore : readTerms limits more = .ok others) :
    readTerms limits (bodies ++ more) = .ok (terms ++ others) := by
  rw [readTerms_eq_ok_iff] at hbodies hmore ⊢
  exact List.rel_append hbodies hmore

/-- The sign in front of the first piece is the sign of the first term. -/
theorem readTerms_signFirst {sign : Int} {text : List Char} {more : List (Int × List Char)}
    (hread : readTerms limits ((sign, text) :: more) = .ok terms) (other : Int) :
    readTerms limits ((other, text) :: more) = .ok (signFirst other terms) := by
  rw [readTerms_eq_ok_iff, List.forall₂_cons_left_iff] at hread
  obtain ⟨first, rest, ⟨-, htext⟩, hrest, rfl⟩ := hread
  rw [signFirst, readTerms_eq_ok_iff]
  exact .cons ⟨rfl, htext⟩ hrest

/-- Of two texts that can be read only the number of all dice is left to be checked. -/
theorem parseLetters_join {left right before after : List Char} (hc : isSign c = true)
    (hbefore : Blanks before) (hafter : Blanks after)
    (hleft : parseLetters limits left = .ok terms)
    (hright : parseLetters limits right = .ok others) :
    parseLetters limits (left ++ before ++ c :: (after ++ right)) =
      checkWhole limits (terms ++ signFirst (signOf c) others) := by
  have hpieces : pieces (left ++ before ++ c :: (after ++ right)) =
      ((pieces left).1, (pieces left).2 ++ (c, (pieces right).1) :: (pieces right).2) := by
    rw [pieces_append_cons hc, pieces_append_right hbefore, pieces_append_left hafter]
  rw [parseLetters_eq_readPieces] at hleft hright ⊢
  rw [hpieces]
  rcases hfirst : pieces left with ⟨- | ⟨d, text⟩, parts⟩
  · rw [hfirst] at hleft
    rcases parts with - | ⟨⟨sign, body⟩, more⟩ <;> simp [readPieces] at hleft
  rcases hsecond : pieces right with ⟨- | ⟨e, word⟩, more⟩
  · rw [hsecond] at hright
    rcases more with - | ⟨⟨sign, body⟩, more⟩ <;> simp [readPieces] at hright
  rw [hfirst, readPieces_cons_eq_ok_iff] at hleft
  rw [hsecond, readPieces_cons_eq_ok_iff] at hright
  have hsigned : readTerms limits ((signOf c, e :: word) :: (signedBodies (e :: word) more).tail) =
      .ok (signFirst (signOf c) others) := readTerms_signFirst hright.1 (signOf c)
  have hread := readTerms_append hleft.1 hsigned
  have hbodies : signedBodies (d :: text) (parts ++ (c, e :: word) :: more) =
      signedBodies (d :: text) parts ++
        (signOf c, e :: word) :: (signedBodies (e :: word) more).tail := by
    simp only [signedBodies, List.map_append, List.map_cons, List.cons_append, List.tail_cons]
  rw [← hbodies] at hread
  simp only [readPieces, hread]
  rfl

theorem checkWhole_join (sign : Int) (hdice : ∃ term ∈ terms, term.body.isDice = true) :
    checkWhole limits (terms ++ signFirst sign others) =
      if limits.maxTotal < totalDice terms + totalDice others then
        .error (.tooManyDice (totalDice terms + totalDice others) limits.maxTotal)
      else .ok (terms ++ signFirst sign others) := by
  have hjoined : ∃ term ∈ terms ++ signFirst sign others, term.body.isDice = true := by
    obtain ⟨term, hterm, hbody⟩ := hdice
    exact ⟨term, List.mem_append_left _ hterm, hbody⟩
  rw [checkWhole_of_dice hjoined, totalDice_append, totalDice_signFirst]

/-! ## Writing -/

theorem renderChars_join {rest : List Term} {body : Body} (hc : isSign c = true)
    (hterms : terms ≠ []) :
    renderChars (terms ++ ⟨signOf c, body⟩ :: rest) =
      renderChars terms ++ c :: renderChars (⟨1, body⟩ :: rest) := by
  obtain ⟨first, more, rfl⟩ := List.exists_cons_of_ne_nil hterms
  have hsign : signChars false (signOf c) = [c] := by
    rcases isSign_iff.mp hc with rfl | rfl <;> rfl
  have hplain : signChars true 1 = [] := rfl
  simp only [List.cons_append, renderChars, List.flatMap_append, List.flatMap_cons, Term.chars,
    hsign, hplain, List.append_assoc, List.nil_append]

/-! ## Rolling -/

/-- What a part becomes under a further sign. -/
def Part.times (sign : Int) : Part → Part
  | .die value sides own => .die value sides (sign * own)
  | .modifier value => .modifier (sign * value)

def Step.times (sign : Int) : Step → Step
  | .dice own count sides => .dice (sign * own) count sides
  | .modifier value => .modifier (sign * value)

theorem Part.contribution_times (sign : Int) (part : Part) :
    (part.times sign).contribution = sign * part.contribution := by
  cases part with
  | die value sides own => exact mul_assoc sign own value
  | modifier value => rfl

@[simp] theorem Part.times_one (part : Part) : part.times 1 = part := by
  cases part with
  | die value sides own => rw [times, one_mul]
  | modifier value => rw [times, one_mul]

theorem total_append (parts more : List Part) :
    total (parts ++ more) = total parts + total more := by
  rw [total_eq_sum, total_eq_sum, total_eq_sum, List.map_append, List.sum_append]

theorem total_map_times (sign : Int) (parts : List Part) :
    total (parts.map (Part.times sign)) = sign * total parts := by
  induction parts with
  | nil => exact (mul_zero sign).symm
  | cons part rest ih => rw [List.map_cons, total, total, ih, Part.contribution_times, mul_add]

theorem Term.resolve_times (sheet : Option Sheet) (sign own : Int) (body : Body) :
    Term.resolve sheet ⟨sign * own, body⟩ =
      (Term.resolve sheet ⟨own, body⟩).map (Step.times sign) := by
  have hsigned : ∀ value : Except Fault Int,
      (value.map fun v => Step.modifier (sign * own * v)) =
        (value.map fun v => Step.modifier (own * v)).map (Step.times sign) := by
    intro value
    cases value with
    | error fault => rfl
    | ok n => simp only [Except.map, Step.times, mul_assoc]
  cases body with
  | dice count sides => rfl
  | number value => exact hsigned (.ok value)
  | ability code => exact hsigned _
  | proficiency => exact hsigned _
  | void => exact hsigned _

theorem rollDice_times (sign own sides : Int) (count : Nat) (source : Source) :
    rollDice (sign * own) sides count source =
      ((rollDice own sides count source).1.map (List.map (Part.times sign)),
        (rollDice own sides count source).2) := by
  induction count generalizing source with
  | zero => rfl
  | succ count ih =>
      simp only [rollDice]
      cases face sides source.next.1 with
      | error fault => rfl
      | ok value =>
          simp only [ih]
          cases (rollDice own sides count source.next.2).1 <;> rfl

theorem Step.roll_times (sign : Int) (step : Step) (source : Source) :
    (step.times sign).roll source =
      ((step.roll source).1.map (List.map (Part.times sign)), (step.roll source).2) := by
  cases step with
  | dice own count sides => exact rollDice_times sign own sides count.toNat source
  | modifier value => rfl

theorem resolve_append {sheet : Option Sheet} {steps more : List Step}
    (hterms : resolve sheet terms = .ok steps) (hothers : resolve sheet others = .ok more) :
    resolve sheet (terms ++ others) = .ok (steps ++ more) := by
  induction terms generalizing steps with
  | nil =>
      obtain rfl := Except.ok.inj hterms
      exact hothers
  | cons term rest ih =>
      rw [resolve, Except.bind_eq_ok_iff] at hterms
      obtain ⟨step, hstep, hterms⟩ := hterms
      obtain ⟨tail, htail, hsteps⟩ := Except.bind_eq_ok_iff.mp hterms
      obtain rfl := Except.pure_eq_ok_iff.mp hsteps
      rw [List.cons_append, resolve, hstep, ih htail]
      rfl

theorem rollSteps_append {steps more : List Step} {source between after : Source}
    {parts rest : List Part} (hsteps : rollSteps steps source = (.ok parts, between))
    (hmore : rollSteps more between = (.ok rest, after)) :
    rollSteps (steps ++ more) source = (.ok (parts ++ rest), after) := by
  induction steps generalizing source parts with
  | nil =>
      obtain ⟨rfl, rfl⟩ : [] = parts ∧ source = between := by simpa [rollSteps] using hsteps
      exact hmore
  | cons step tail ih =>
      rw [List.cons_append]
      simp only [rollSteps] at hsteps ⊢
      rcases hstep : step.roll source with ⟨fault | block, reached⟩
      · simp [hstep] at hsteps
      · simp only [hstep, Prod.mk.injEq] at hsteps
        obtain ⟨hmap, hbetween⟩ := hsteps
        obtain ⟨tailParts, htail, rfl⟩ := Except.map_eq_ok_iff.mp hmap
        have hwhole := ih (Prod.ext htail hbetween)
        simp only [hwhole, Except.map, List.append_assoc]

theorem evaluate_eq_ok_iff {sheet : Option Sheet} {source after : Source} {parts : List Part} :
    evaluate terms sheet source = (.ok parts, after) ↔
      ∃ steps, resolve sheet terms = .ok steps ∧ rollSteps steps source = (.ok parts, after) := by
  unfold evaluate
  cases resolve sheet terms with
  | error fault => simp
  | ok steps => simp

theorem evaluate_append {sheet : Option Sheet} {source between after : Source}
    {parts more : List Part} (hterms : evaluate terms sheet source = (.ok parts, between))
    (hothers : evaluate others sheet between = (.ok more, after)) :
    evaluate (terms ++ others) sheet source = (.ok (parts ++ more), after) := by
  obtain ⟨steps, hresolve, hsteps⟩ := evaluate_eq_ok_iff.mp hterms
  obtain ⟨rest, hresolveRest, hrest⟩ := evaluate_eq_ok_iff.mp hothers
  exact evaluate_eq_ok_iff.mpr
    ⟨steps ++ rest, resolve_append hresolve hresolveRest, rollSteps_append hsteps hrest⟩

/-- A sign in front of the first term reaches the parts of that term and no others. -/
theorem evaluate_times {sheet : Option Sheet} {source after : Source} {parts : List Part}
    {own : Int} {body : Body} {rest : List Term} (hcount : 0 ≤ body.diceCount)
    (heval : evaluate (⟨own, body⟩ :: rest) sheet source = (.ok parts, after)) (sign : Int) :
    ∃ block more, TermParts sheet ⟨own, body⟩ block ∧ parts = block ++ more ∧
      evaluate (⟨sign * own, body⟩ :: rest) sheet source =
        (.ok (block.map (Part.times sign) ++ more), after) := by
  obtain ⟨steps, hresolve, hsteps⟩ := evaluate_eq_ok_iff.mp heval
  rw [resolve, Except.bind_eq_ok_iff] at hresolve
  obtain ⟨step, hstep, hresolve⟩ := hresolve
  obtain ⟨tail, htail, hcons⟩ := Except.bind_eq_ok_iff.mp hresolve
  obtain rfl := Except.pure_eq_ok_iff.mp hcons
  simp only [rollSteps] at hsteps
  rcases hroll : step.roll source with ⟨fault | block, between⟩
  · simp [hroll] at hsteps
  · simp only [hroll, Prod.mk.injEq] at hsteps
    obtain ⟨hmap, hafter⟩ := hsteps
    obtain ⟨more, hmore, rfl⟩ := Except.map_eq_ok_iff.mp hmap
    have hblock : TermParts sheet ⟨own, body⟩ block :=
      termParts_of_resolve hcount hstep (Step.roll_eq_ok hroll).1
    have hsigned : resolve sheet (⟨sign * own, body⟩ :: rest) =
        .ok (step.times sign :: tail) := by
      rw [resolve, Term.resolve_times, hstep, htail]
      rfl
    have hrolled : rollSteps (step.times sign :: tail) source =
        (.ok (block.map (Part.times sign) ++ more), after) := by
      simp only [rollSteps, Step.roll_times, hroll, Except.map, hmore, hafter]
    exact ⟨block, more, hblock, rfl, evaluate_eq_ok_iff.mpr ⟨_, hsigned, hrolled⟩⟩

theorem play_eq_ok_iff {expr : Json} (hparse : parseJson limits expr = .ok terms)
    {sheet : Option Sheet} {source after : Source} {roll : Roll} :
    play limits expr sheet source = (.ok roll, after) ↔
      ∃ parts, evaluate terms sheet source = (.ok parts, after) ∧
        Roll.ofParts terms parts = roll := by
  simp only [play, hparse]
  rcases evaluate terms sheet source with ⟨fault | parts, reached⟩
  · simp [Except.map]
  · simp [Except.map, and_comm]

/-! ## Joined rolls -/

/-- How a roll of two expressions with a sign between them is made of the rolls of both.  The
first `lead` parts of the second roll belong to its first term. -/
structure Roll.Joins (sign : Char) (lead : Nat) (first second whole : Roll) : Prop where
  canonical : whole.canonical = first.canonical ++ String.singleton sign ++ second.canonical
  added : sign = '+' → whole.parts = first.parts ++ second.parts ∧
    whole.total = first.total + second.total
  taken : sign = '-' →
    whole.parts = first.parts ++
      ((second.parts.take lead).map (Part.times (-1)) ++ second.parts.drop lead) ∧
    whole.total = first.total + second.total - 2 * Dice.total (second.parts.take lead)

/-- What a text of two expressions with a sign between them is read as, and how it rolls. -/
structure Joined (limits : Limits) (left right : String) (terms others : List Term) (sign : Char)
    (text : String) : Prop where
  tooMany : limits.maxTotal < totalDice terms + totalDice others →
    ∃ cause, parse limits text = .error cause ∧
      cause = .tooManyDice (totalDice terms + totalDice others) limits.maxTotal ∧
      cause.details = some (.record [("totalDice", .int (totalDice terms + totalDice others))]) ∧
      ∀ sheet source, play limits (.str text) sheet source = (.error (.invalid cause), source)
  read : totalDice terms + totalDice others ≤ limits.maxTotal →
    parse limits text = .ok (terms ++ signFirst (signOf sign) others)
  /-- The terms roll together, even where the limit keeps a text from being read as them. -/
  evaluated : ∀ sheet source between after parts more,
    evaluate terms sheet source = (.ok parts, between) →
    evaluate others sheet between = (.ok more, after) →
    ∃ whole, evaluate (terms ++ signFirst (signOf sign) others) sheet source = (.ok whole, after) ∧
      Roll.Joins sign ((others.take 1).flatMap Term.kinds).length (Roll.ofParts terms parts)
        (Roll.ofParts others more)
        (Roll.ofParts (terms ++ signFirst (signOf sign) others) whole)
  rolled : totalDice terms + totalDice others ≤ limits.maxTotal →
    ∀ sheet source between after first second,
      play limits (.str left) sheet source = (.ok first, between) →
      play limits (.str right) sheet between = (.ok second, after) →
      ∃ whole, play limits (.str text) sheet source = (.ok whole, after) ∧
        Roll.Joins sign ((others.take 1).flatMap Term.kinds).length first second whole

theorem joins_ofParts {sheet : Option Sheet} {body : Body} {rest : List Term}
    {parts block more : List Part} (hc : isSign c = true) (hterms : terms ≠ [])
    (hblock : TermParts sheet ⟨1, body⟩ block) :
    Roll.Joins c ((List.take 1 (⟨1, body⟩ :: rest)).flatMap Term.kinds).length
      (Roll.ofParts terms parts) (Roll.ofParts (⟨1, body⟩ :: rest) (block ++ more))
      (Roll.ofParts (terms ++ ⟨signOf c, body⟩ :: rest)
        (parts ++ (block.map (Part.times (signOf c)) ++ more))) := by
  have hlead : ((List.take 1 (⟨1, body⟩ :: rest)).flatMap Term.kinds).length = block.length := by
    have hkinds := congrArg List.length hblock.map_kind
    rw [List.length_map] at hkinds
    simp [hkinds]
  rw [hlead]
  refine ⟨?canonical, ?added, ?taken⟩
  case canonical =>
    simp only [Roll.ofParts, render, renderChars_join hc hterms]
    apply String.toList_injective
    simp
  case added =>
    rintro rfl
    have hsame : block.map (Part.times 1) = block :=
      (List.map_congr_left fun part _ => part.times_one).trans (List.map_id block)
    have hplus : signOf '+' = 1 := by decide
    rw [hplus, hsame]
    exact ⟨rfl, total_append _ _⟩
  case taken =>
    rintro rfl
    have hminus : signOf '-' = -1 := by decide
    have htake : (block ++ more).take block.length = block := List.take_left
    have hdrop : (block ++ more).drop block.length = more := List.drop_left
    simp only [Roll.ofParts, hminus, htake, hdrop, true_and]
    rw [total_append, total_append, total_append, total_map_times]
    ring

/-- Terms that roll one after the other roll together. -/
theorem evaluate_join (hc : isSign c = true) (hterms : WellFormed limits terms)
    (hothers : WellFormed limits others) {sheet : Option Sheet} {source between after : Source}
    {parts more : List Part} (hparts : evaluate terms sheet source = (.ok parts, between))
    (hmore : evaluate others sheet between = (.ok more, after)) :
    ∃ whole, evaluate (terms ++ signFirst (signOf c) others) sheet source = (.ok whole, after) ∧
      Roll.Joins c ((others.take 1).flatMap Term.kinds).length (Roll.ofParts terms parts)
        (Roll.ofParts others more) (Roll.ofParts (terms ++ signFirst (signOf c) others) whole) := by
  have hne : terms ≠ [] := by
    obtain ⟨lead, rest, rfl⟩ := hterms.first
    exact List.cons_ne_nil _ _
  obtain ⟨body, rest, rfl⟩ := hothers.first
  have hcount : 0 ≤ body.diceCount := diceCount_nonneg (hothers.bodies ⟨1, body⟩ (by simp))
  obtain ⟨block, tail, hblock, rfl, hsigned⟩ := evaluate_times hcount hmore (signOf c)
  rw [mul_one] at hsigned
  exact ⟨_, evaluate_append hparts hsigned, joins_ofParts hc hne hblock⟩

/-- Two expressions with a sign between them are one expression unless they have too many dice,
and on the same samples it rolls what both roll one after the other.  That their dice are not too
many together is no further condition on the roll: with more of them the first law already says
that there is no expression to be rolled. -/
theorem expressions_join {left right : String} {before after : List Char}
    (hleft : parse limits left = .ok terms) (hright : parse limits right = .ok others)
    {sign : Char} (hsign : sign = '+' ∨ sign = '-') (hbefore : Blanks before)
    (hafter : Blanks after) :
    Joined limits left right terms others sign
      (left ++ String.ofList (before ++ sign :: after) ++ right) := by
  set text := left ++ String.ofList (before ++ sign :: after) ++ right with htext
  have hc : isSign sign = true := isSign_iff.mpr hsign
  have hterms : WellFormed limits terms := wellFormed_of_parse hleft
  have hothers : WellFormed limits others := wellFormed_of_parse hright
  have hchars : text.toList =
      left.toList ++ before ++ sign :: (after ++ right.toList) := by
    simp [htext]
  have hparse : parse limits text =
      if limits.maxTotal < totalDice terms + totalDice others then
        .error (.tooManyDice (totalDice terms + totalDice others) limits.maxTotal)
      else .ok (terms ++ signFirst (signOf sign) others) := by
    rw [parse, hchars, parseLetters_join hc hbefore hafter hleft hright,
      checkWhole_join (signOf sign) hterms.dice]
  have hread : totalDice terms + totalDice others ≤ limits.maxTotal →
      parse limits text = .ok (terms ++ signFirst (signOf sign) others) := by
    intro hfew
    rw [hparse, if_neg (Int.not_lt.mpr hfew)]
  refine ⟨?tooMany, hread, ?evaluated, ?rolled⟩
  case tooMany =>
    intro hmany
    rw [if_pos hmany] at hparse
    refine ⟨_, hparse, rfl, rfl, ?_⟩
    intro sheet source
    have hrefused : parseJson limits (.str text) = .error (.tooManyDice
        (totalDice terms + totalDice others) limits.maxTotal) := hparse
    simp only [play, hrefused]
  case evaluated =>
    intro sheet source between last parts more hparts hmore
    exact evaluate_join hc hterms hothers hparts hmore
  case rolled =>
    intro hfew sheet source between last first second hfirst hsecond
    have hreadLeft : parseJson limits (.str left) = .ok terms := hleft
    have hreadRight : parseJson limits (.str right) = .ok others := hright
    have hreadText : parseJson limits (.str text) =
        .ok (terms ++ signFirst (signOf sign) others) := hread hfew
    obtain ⟨parts, hparts, rfl⟩ := (play_eq_ok_iff hreadLeft).mp hfirst
    obtain ⟨more, hmore, rfl⟩ := (play_eq_ok_iff hreadRight).mp hsecond
    obtain ⟨whole, hwhole, hjoins⟩ := evaluate_join hc hterms hothers hparts hmore
    exact ⟨_, (play_eq_ok_iff hreadText).mpr ⟨whole, hwhole, rfl⟩, hjoins⟩

/-- A group of dice is taken away as a whole, and the number behind it stays. -/
theorem expressions_join_taken :
    let limits : Limits := { maxTotal := 4 }
    let terms : List Term := [⟨1, .dice 2 6⟩, ⟨1, .ability "DEX"⟩]
    let others : List Term := [⟨1, .dice 2 4⟩, ⟨1, .number 3⟩]
    parse limits " 2d6+dex" = .ok terms ∧ parse limits "2d4 + 3" = .ok others ∧
      ('-' = '+' ∨ '-' = '-') ∧ Blanks [' '] ∧ Blanks ['\t', ' '] ∧
      Joined limits " 2d6+dex" "2d4 + 3" terms others '-'
        (" 2d6+dex" ++ String.ofList ([' '] ++ '-' :: ['\t', ' ']) ++ "2d4 + 3") := by
  intro limits terms others
  have hleft : parse limits " 2d6+dex" = .ok terms := by decide
  have hright : parse limits "2d4 + 3" = .ok others := by decide
  have hspace : isBlank ' ' = true := by decide
  have htab : isBlank '\t' = true := by decide
  have hbefore : Blanks [' '] := List.forall_mem_singleton.mpr hspace
  have hafter : Blanks ['\t', ' '] := List.forall_mem_cons.mpr ⟨htab, hbefore⟩
  exact ⟨hleft, hright, .inr rfl, hbefore, hafter,
    expressions_join hleft hright (.inr rfl) hbefore hafter⟩

end Dice
end Tabletop
