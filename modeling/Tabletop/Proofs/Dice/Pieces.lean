import Mathlib.Tactic
import Tabletop.Dice.Notation
import Tabletop.Proofs.Text

/-!
# The pieces of an expression

A text is cut at its signs, and the parts between them, freed of their blank
ends, are its pieces.  Cutting loses nothing and can be undone: every text has
one layout, bodies with signs among blanks between them.  Reading an expression
is a function of its pieces alone, so blank characters beside a sign or at the
ends of the text never matter.  A text may be made of letters of any kind here, of
characters or of the codes of a string that is no text.
-/

namespace Tabletop
namespace Dice

open Text

variable {α : Type}

/-- Signed bodies, one after the other. -/
def glue (tail : List (α × List α)) : List α :=
  tail.flatMap fun (sign, body) => sign :: body

@[simp] theorem glue_nil : glue ([] : List (α × List α)) = [] := rfl

@[simp] theorem glue_cons (sign : α) (body : List α)
    (tail : List (α × List α)) :
    glue ((sign, body) :: tail) = sign :: (body ++ glue tail) := by
  simp [glue]

variable [Letter α] {cs head body left right : List α} {tail : List (α × List α)}

/-- A string of blank letters only. -/
def Blanks (cs : List α) : Prop := ∀ c ∈ cs, isBlank c = true

/-- A string without any sign. -/
def Signless (cs : List α) : Prop := ∀ c ∈ cs, isSign c = false

theorem blanks_nil : Blanks ([] : List α) := by simp [Blanks]

theorem isSign_iff {c : α} :
    isSign c = true ↔ c = Letter.ofChar '+' ∨ c = Letter.ofChar '-' := by
  simp only [isSign, Bool.or_eq_true, beq_iff_eq, Letter.code_eq_iff]

theorem isBlank_ofChar (c : Char) : isBlank (Letter.ofChar c : α) = isBlank c := by
  simp only [isBlank, isSpace, Letter.code_ofChar]
  rfl

theorem Blanks.signless (hblank : Blanks cs) : Signless cs := by
  intro c hc
  rw [Bool.eq_false_iff]
  intro hsign
  have hcBlank := hblank c hc
  rcases isSign_iff.mp hsign with rfl | rfl
  · rw [isBlank_ofChar] at hcBlank
    exact absurd hcBlank (by decide)
  · rw [isBlank_ofChar] at hcBlank
    exact absurd hcBlank (by decide)

theorem isBlank_of_isSign {c : α} (hc : isSign c = true) : isBlank c = false := by
  rw [Bool.eq_false_iff]
  intro hblank
  have hsignless : Signless [c] := Blanks.signless (List.forall_mem_singleton.mpr hblank)
  rw [hsignless c (by simp)] at hc
  contradiction

theorem Signless.append (hleft : Signless left) (hright : Signless right) :
    Signless (left ++ right) :=
  List.forall_mem_append.mpr ⟨hleft, hright⟩

/-! ## Cutting at the signs -/

/-- What follows the head of a cut: each part has a sign in front and none in it. -/
def Signed (tail : List (α × List α)) : Prop :=
  ∀ part ∈ tail, isSign part.1 = true ∧ Signless part.2

theorem cut_cons_of_isSign {c : α} (hc : isSign c = true) (cs : List α) :
    cut (c :: cs) = ([], (c, (cut cs).1) :: (cut cs).2) := by
  simp [cut, hc]

theorem cut_cons_of_not_isSign {c : α} (hc : isSign c = false) (cs : List α) :
    cut (c :: cs) = (c :: (cut cs).1, (cut cs).2) := by
  simp [cut, hc]

theorem cut_append (hbody : Signless body) (cs : List α) :
    cut (body ++ cs) = (body ++ (cut cs).1, (cut cs).2) := by
  induction body with
  | nil => rfl
  | cons c rest ih =>
      have hc : isSign c = false := hbody c (by simp)
      have hrest : Signless rest := fun d hd => hbody d (by simp [hd])
      rw [List.cons_append, cut_cons_of_not_isSign hc, ih hrest]
      rfl

/-- Cutting undoes gluing. -/
theorem cut_append_glue (hhead : Signless head) (htail : Signed tail) :
    cut (head ++ glue tail) = (head, tail) := by
  induction tail generalizing head with
  | nil =>
      rw [cut_append hhead]
      simp [cut]
  | cons part rest ih =>
      obtain ⟨sign, body⟩ := part
      have hpart := htail (sign, body) (by simp)
      have hrest : Signed rest := fun part hp => htail part (by simp [hp])
      rw [cut_append hhead, glue_cons, cut_cons_of_isSign hpart.1,
        ih hpart.2 hrest]
      simp

/-- Gluing undoes cutting. -/
theorem cut_glue (cs : List α) : (cut cs).1 ++ glue (cut cs).2 = cs := by
  induction cs with
  | nil => rfl
  | cons c rest ih =>
      cases hc : isSign c with
      | true => rw [cut_cons_of_isSign hc, glue_cons, ih, List.nil_append]
      | false => rw [cut_cons_of_not_isSign hc, List.cons_append, ih]

/-- A sign between two texts begins a part of the second one. -/
theorem cut_append_cons {c : α} (hc : isSign c = true) (left right : List α) :
    cut (left ++ c :: right) =
      ((cut left).1, (cut left).2 ++ (c, (cut right).1) :: (cut right).2) := by
  induction left with
  | nil =>
      rw [List.nil_append, cut_cons_of_isSign hc]
      rfl
  | cons d rest ih =>
      rw [List.cons_append]
      cases hd : isSign d with
      | true => rw [cut_cons_of_isSign hd, cut_cons_of_isSign hd, ih, List.cons_append]
      | false => rw [cut_cons_of_not_isSign hd, cut_cons_of_not_isSign hd, ih]

theorem cut_signless (cs : List α) : Signless (cut cs).1 ∧ Signed (cut cs).2 := by
  induction cs with
  | nil => simp [cut, Signless, Signed]
  | cons c rest ih =>
      cases hc : isSign c with
      | true =>
          rw [cut_cons_of_isSign hc]
          refine ⟨by simp [Signless], ?_⟩
          exact List.forall_mem_cons.mpr ⟨⟨hc, ih.1⟩, ih.2⟩
      | false =>
          rw [cut_cons_of_not_isSign hc]
          exact ⟨List.forall_mem_cons.mpr ⟨hc, ih.1⟩, ih.2⟩

/-! ## Pieces -/

/-- The parts of a text between its signs, without their blank ends. -/
def pieces (cs : List α) : List α × List (α × List α) :=
  (trim isBlank (cut cs).1,
    (cut cs).2.map fun (sign, body) => (sign, trim isBlank body))

theorem pieces_append_left (hleft : Blanks left) (cs : List α) :
    pieces (left ++ cs) = pieces cs := by
  unfold pieces
  rw [cut_append hleft.signless, trim_append_left hleft]

theorem pieces_append_right (hright : Blanks right) (cs : List α) :
    pieces (cs ++ right) = pieces cs := by
  obtain ⟨hhead, htail⟩ := cut_signless cs
  unfold pieces
  rcases List.eq_nil_or_concat (cut cs).2 with hnil | ⟨init, ⟨sign, body⟩, hlast⟩
  · -- No sign: the blanks belong to the only piece.
    have hcs : cs ++ right = ((cut cs).1 ++ right) ++ glue [] := by
      conv_lhs => rw [← cut_glue cs, hnil]
      simp
    rw [hcs, cut_append_glue (hhead.append hright.signless) (by simp [Signed]), hnil,
      trim_append_right hright]
  · -- The blanks belong to the piece behind the last sign.
    rw [List.concat_eq_append] at hlast
    have hcs : cs ++ right = (cut cs).1 ++ glue (init ++ [(sign, body ++ right)]) := by
      conv_lhs => rw [← cut_glue cs, hlast]
      simp [glue]
    have hsigned : Signed (init ++ [(sign, body ++ right)]) := by
      rw [hlast] at htail
      have hpart := htail (sign, body) (by simp)
      intro part hpart'
      rcases List.mem_append.mp hpart' with hinit | hnew
      · exact htail part (by simp [hinit])
      · obtain rfl := List.mem_singleton.mp hnew
        exact ⟨hpart.1, hpart.2.append hright.signless⟩
    rw [hcs, cut_append_glue hhead hsigned, hlast]
    simp [trim_append_right hright]

theorem pieces_cons_of_isSign {c : α} (hc : isSign c = true) (cs : List α) :
    pieces (c :: cs) = ([], (c, (pieces cs).1) :: (pieces cs).2) := by
  simp [pieces, cut_cons_of_isSign hc]

theorem pieces_append_cons {c : α} (hc : isSign c = true) (left right : List α) :
    pieces (left ++ c :: right) =
      ((pieces left).1, (pieces left).2 ++ (c, (pieces right).1) :: (pieces right).2) := by
  simp only [pieces, cut_append_cons hc, List.map_append, List.map_cons]

/-- A body at the front is the first piece if only blanks follow it up to the next sign. -/
theorem pieces_append_of_bare (hbody : Signless body) (hbare : Bare isBlank body)
    (hcs : (pieces cs).1 = []) : pieces (body ++ cs) = (body, (pieces cs).2) := by
  have hblank : Blanks (cut cs).1 := trim_eq_nil_iff.mp hcs
  unfold pieces
  rw [cut_append hbody, trim_append_right hblank, trim_of_bare hbare]

theorem pieces_trim (cs : List α) : pieces (trim isBlank cs) = pieces cs := by
  obtain ⟨left, right, hleft, hright, hcs⟩ := exists_eq_append_trim isBlank cs
  conv_rhs => rw [hcs]
  rw [pieces_append_right hright, pieces_append_left hleft]

/-- Only a text of blanks has neither a sign nor a piece. -/
theorem pieces_eq_nil_iff : pieces cs = ([], []) ↔ Blanks cs := by
  unfold pieces
  constructor
  · intro hnil
    simp only [Prod.mk.injEq, List.map_eq_nil_iff] at hnil
    have hcs : cs = (cut cs).1 := by
      conv_lhs => rw [← cut_glue cs, hnil.2]
      simp
    rw [hcs]
    exact trim_eq_nil_iff.mp hnil.1
  · intro hblank
    have hcut : cut cs = (cs, []) := by
      have hnone : Signed ([] : List (α × List α)) := by simp [Signed]
      simpa using cut_append_glue hblank.signless hnone
    rw [hcut, trim_eq_nil_iff.mpr hblank]
    rfl

/-! ## Layouts -/

/-- How signed bodies are laid out in a text: blanks around each sign, and no blanks at the ends
of a body. -/
inductive TailLayout : List α → List (α × List α) → Prop
  | nil {blanks : List α} (hblanks : Blanks blanks) : TailLayout blanks []
  | cons {before after body rest : List α} {c : α} {tail : List (α × List α)}
      (hbefore : Blanks before) (hc : isSign c = true) (hafter : Blanks after)
      (hbody : Signless body) (hbare : Bare isBlank body) (hrest : TailLayout rest tail) :
      TailLayout (before ++ c :: (after ++ body ++ rest)) ((c, body) :: tail)

/-- How a first body and signed ones behind it are laid out in a text. -/
inductive Layout : List α → List α → List (α × List α) → Prop
  | intro {left head rest : List α} {tail : List (α × List α)} (hleft : Blanks left)
      (hhead : Signless head) (hbare : Bare isBlank head) (hrest : TailLayout rest tail) :
      Layout (left ++ head ++ rest) head tail

theorem TailLayout.pieces_eq {rest : List α} (hrest : TailLayout rest tail) :
    pieces rest = ([], tail) := by
  induction hrest with
  | nil hblanks => exact pieces_eq_nil_iff.mpr hblanks
  | @cons before after body rest c tail hbefore hc hafter hbody hbare _ ih =>
      have hfirst : (pieces rest).1 = [] := by rw [ih]
      rw [pieces_append_left hbefore, pieces_cons_of_isSign hc, List.append_assoc,
        pieces_append_left hafter, pieces_append_of_bare hbody hbare hfirst, ih]

theorem Layout.pieces_eq (hlayout : Layout cs head tail) : pieces cs = (head, tail) := by
  cases hlayout with
  | @intro left head rest tail hleft hhead hbare hrest =>
      have hfirst : (pieces rest).1 = [] := by rw [hrest.pieces_eq]
      rw [List.append_assoc, pieces_append_left hleft,
        pieces_append_of_bare hhead hbare hfirst, hrest.pieces_eq]

theorem trim_signless (hcs : Signless cs) : Signless (trim isBlank cs) := by
  obtain ⟨left, right, -, -, hsplit⟩ := exists_eq_append_trim isBlank cs
  intro c hc
  apply hcs
  rw [hsplit]
  simp [hc]

/-- The parts of a cut are laid out behind any blanks. -/
theorem tailLayout_glue {parts : List (α × List α)} {blanks : List α}
    (hblanks : Blanks blanks) (hsigned : Signed parts) :
    TailLayout (blanks ++ glue parts)
      (parts.map fun (sign, body) => (sign, trim isBlank body)) := by
  induction parts generalizing blanks with
  | nil =>
      rw [glue_nil, List.append_nil]
      exact .nil hblanks
  | cons part parts ih =>
      obtain ⟨c, text⟩ := part
      obtain ⟨⟨hc, htext⟩, hrest⟩ := List.forall_mem_cons.mp hsigned
      obtain ⟨left, right, hleft, hright, hsplit⟩ := exists_eq_append_trim isBlank text
      have htail := ih hright hrest
      have hcs : blanks ++ glue ((c, text) :: parts) =
          blanks ++ c :: (left ++ trim isBlank text ++ (right ++ glue parts)) := by
        conv_lhs => rw [glue_cons, hsplit]
        simp
      rw [hcs]
      exact .cons hblanks hc hleft (trim_signless htext) (bare_trim isBlank text) htail

/-- A text has one layout, that of its pieces. -/
theorem layout_iff : Layout cs head tail ↔ pieces cs = (head, tail) := by
  refine ⟨Layout.pieces_eq, fun hpieces => ?_⟩
  obtain ⟨hhead, htail⟩ := Prod.mk.inj hpieces
  obtain ⟨hsignless, hsigned⟩ := cut_signless cs
  obtain ⟨left, right, hleft, hright, hsplit⟩ := exists_eq_append_trim isBlank (cut cs).1
  have hcs : cs = left ++ trim isBlank (cut cs).1 ++ (right ++ glue (cut cs).2) := by
    conv_lhs => rw [← cut_glue cs, hsplit]
    simp
  rw [hcs, ← hhead, ← htail]
  exact .intro hleft (trim_signless hsignless) (bare_trim isBlank _)
    (tailLayout_glue hright hsigned)

theorem Signed.take (hsigned : Signed tail) (n : Nat) : Signed (tail.take n) :=
  fun part hpart => hsigned part (List.mem_of_mem_take hpart)

theorem isSign_of_mem_head?_glue {c : α} (hsigned : Signed tail)
    (hc : c ∈ (glue tail).head?) : isSign c = true := by
  cases tail with
  | nil => simp at hc
  | cons part rest =>
      obtain ⟨sign, body⟩ := part
      rw [glue_cons, List.head?_cons] at hc
      obtain rfl := Option.some.inj hc
      exact (hsigned (sign, body) (by simp)).1

/-- The first bodies of a text are laid out in the text up to the next sign. -/
theorem Layout.exists_front (hlayout : Layout cs head tail) (n : Nat) :
    ∃ front rest, cs = front ++ rest ∧ Layout front head (tail.take n) ∧
      ∀ c ∈ rest.head?, isSign c = true := by
  obtain ⟨hsignless, hsigned⟩ := cut_signless cs
  refine ⟨(cut cs).1 ++ glue ((cut cs).2.take n), glue ((cut cs).2.drop n), ?_, ?_, ?_⟩
  · have hparts : glue ((cut cs).2.take n) ++ glue ((cut cs).2.drop n) = glue (cut cs).2 := by
      simp only [glue, ← List.flatMap_append, List.take_append_drop]
    rw [List.append_assoc, hparts, cut_glue]
  · obtain ⟨hhead, htail⟩ := Prod.mk.inj hlayout.pieces_eq
    rw [layout_iff, pieces, cut_append_glue hsignless (hsigned.take n), List.map_take, hhead,
      htail]
  · intro c hc
    have hrest : Signed ((cut cs).2.drop n) :=
      fun part hpart => hsigned part (List.mem_of_mem_drop hpart)
    exact isSign_of_mem_head?_glue hrest hc

theorem TailLayout.bare (hlayout : TailLayout cs tail) :
    ∀ body ∈ tail.map Prod.snd, Signless body ∧ Bare isBlank body := by
  induction hlayout with
  | nil hblanks => simp
  | cons hbefore hc hafter hbody hbare _ ih =>
      exact List.forall_mem_cons.mpr ⟨⟨hbody, hbare⟩, ih⟩

theorem Layout.bare (hlayout : Layout cs head tail) :
    ∀ body ∈ head :: tail.map Prod.snd, Signless body ∧ Bare isBlank body := by
  cases hlayout with
  | intro hleft hhead hbare hrest =>
      exact List.forall_mem_cons.mpr ⟨⟨hhead, hbare⟩, hrest.bare⟩

theorem pieces_of_bare (hbody : Signless body) (hbare : Bare isBlank body) :
    pieces body = (body, []) := by
  have hnone : pieces ([] : List α) = ([], []) := pieces_eq_nil_iff.mpr blanks_nil
  have hpieces : pieces (body ++ []) = (body, (pieces []).2) :=
    pieces_append_of_bare hbody hbare (by rw [hnone])
  rwa [hnone, List.append_nil] at hpieces

/-! ## Reading from the pieces -/

/-- The first piece has no sign of its own and counts as added. -/
def signedBodies (head : List α) (tail : List (α × List α)) :
    List (Int × List α) :=
  (1, head) :: tail.map fun (sign, body) => (signOf sign, body)

theorem map_snd_signedBodies (head : List α) (tail : List (α × List α)) :
    (signedBodies head tail).map Prod.snd = head :: tail.map Prod.snd := by
  simp [signedBodies]

/-- What the pieces of a text are read as. -/
def readPieces (limits : Limits) :
    List α × List (α × List α) → Except InvalidRoll (List Term)
  | ([], []) => .error .blank
  | ([], (sign, body) :: _) => .error (leadingSignError sign body)
  | (c :: cs, tail) => do
    let terms ← readTerms limits (signedBodies (c :: cs) tail)
    checkWhole limits terms

theorem split_eq (cs : List α) :
    split cs =
      match pieces cs with
      | ([], (sign, body) :: _) => .error (leadingSignError sign body)
      | (head, tail) => .ok (signedBodies head tail) := by
  unfold split pieces
  rcases htrim : trim isBlank (cut cs).1 with - | ⟨c, rest⟩
  · rcases htail : (cut cs).2 with - | ⟨⟨sign, body⟩, more⟩ <;>
      simp [htrim, htail, signedBodies]
  · simp [htrim, signedBodies]

/-- An expression is read from its pieces and from nothing else. -/
theorem parseLetters_eq_readPieces (limits : Limits) (cs : List α) :
    parseLetters limits cs = readPieces limits (pieces cs) := by
  unfold parseLetters
  by_cases hblank : Blanks cs
  · have hnil : trim isBlank cs = [] := trim_eq_nil_iff.mpr hblank
    simp [hnil, pieces_eq_nil_iff.mpr hblank, readPieces]
  · have hne : trim isBlank cs ≠ [] := by
      intro hnil
      exact hblank (trim_eq_nil_iff.mp hnil)
    have hpieces : pieces cs ≠ ([], []) := by
      intro hnil
      exact hblank (pieces_eq_nil_iff.mp hnil)
    simp only [List.isEmpty_iff, hne, if_false]
    rw [split_eq, pieces_trim]
    rcases hcs : pieces cs with ⟨- | ⟨c, rest⟩, - | ⟨⟨sign, body⟩, more⟩⟩
    · exact absurd hcs hpieces
    · rfl
    · rfl
    · rfl

/-- A text is read from its pieces. -/
theorem parse_eq_readPieces (limits : Limits) (text : String) :
    parse limits text = readPieces limits (pieces text.toList) :=
  parseLetters_eq_readPieces limits text.toList

/-! ## The same letters -/

section Same

variable {β : Type} [Letter β] {f : α → β} (hf : ∀ x, Letter.code (f x) = Letter.code x)
include hf

theorem isSign_map (x : α) : isSign (f x) = isSign x := by
  simp only [isSign, hf]

theorem signOf_map (x : α) : signOf (f x) = signOf x := by
  simp only [signOf, hf]

theorem cut_map (cs : List α) :
    cut (cs.map f) = ((cut cs).1.map f, (cut cs).2.map fun part => (f part.1, part.2.map f)) := by
  induction cs with
  | nil => rfl
  | cons c cs ih =>
      cases hc : isSign c with
      | true =>
          have hsign : isSign (f c) = true := by rw [isSign_map hf, hc]
          rw [List.map_cons, cut_cons_of_isSign hsign, cut_cons_of_isSign hc, ih]
          rfl
      | false =>
          have hsign : isSign (f c) = false := by rw [isSign_map hf, hc]
          rw [List.map_cons, cut_cons_of_not_isSign hsign, cut_cons_of_not_isSign hc, ih]
          rfl

theorem pieces_map (cs : List α) :
    pieces (cs.map f) =
      ((pieces cs).1.map f, (pieces cs).2.map fun part => (f part.1, part.2.map f)) := by
  simp only [pieces, cut_map hf, trim_map, List.map_map, Function.comp_def, isBlank_map hf]

theorem readBody_map (limits : Limits) (body : List α) :
    readBody limits (body.map f) = readBody limits body := by
  simp only [readBody, Token.of, chars?_map hf, Loose.ofLetters_map hf, List.isEmpty_map]

theorem readTerms_map (limits : Limits) (bodies : List (Int × List α)) :
    readTerms limits (bodies.map fun piece => (piece.1, piece.2.map f)) =
      readTerms limits bodies := by
  induction bodies with
  | nil => rfl
  | cons piece rest ih => simp only [List.map_cons, readTerms, readBody_map hf, ih]

theorem leadingSignError_map (sign : α) (body : List α) :
    leadingSignError (f sign) (body.map f) = leadingSignError sign body := by
  have hfragment := Loose.ofLetters_map hf (sign :: body)
  rw [List.map_cons] at hfragment
  unfold leadingSignError Token.of
  rw [hfragment, chars?_map hf, signOf_map hf]

/-- How the letters are written does not matter. -/
theorem parseLetters_map (limits : Limits) (cs : List α) :
    parseLetters limits (cs.map f) = parseLetters limits cs := by
  rw [parseLetters_eq_readPieces, parseLetters_eq_readPieces, pieces_map hf]
  rcases pieces cs with ⟨- | ⟨c, head⟩, tail⟩
  · rcases tail with - | ⟨⟨sign, body⟩, more⟩
    · rfl
    · exact congrArg Except.error (leadingSignError_map hf sign body)
  · have hbodies := readTerms_map hf limits (signedBodies (c :: head) tail)
    simp only [signedBodies, List.map_cons, List.map_map, Function.comp_def] at hbodies
    simp only [List.map_cons, readPieces, signedBodies, List.map_map, Function.comp_def,
      signOf_map hf, hbodies]

end Same

/-- A text could as well be read by its codes, as strings are that are no texts. -/
theorem parse_eq_codes (limits : Limits) (string : Loose) :
    parse limits string = parseLetters limits string.codes := by
  cases string with
  | text value => exact (parseLetters_map (f := Char.toNat) (fun _ => rfl) limits _).symm
  | broken string => rfl

/-- Letters that are written as a string are read as they are. -/
theorem parse_ofLetters (limits : Limits) (letters : List α) :
    parse limits (.ofLetters letters) = parseLetters limits letters := by
  rw [parse_eq_codes, Loose.codes_ofLetters]
  have hcodes : ∀ letter : α, Letter.code (Letter.code letter) = Letter.code letter :=
    fun _ => rfl
  exact parseLetters_map hcodes limits letters

end Dice
end Tabletop
