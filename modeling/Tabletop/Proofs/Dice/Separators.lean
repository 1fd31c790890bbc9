import Mathlib
import Tabletop.Proofs.Dice.Pieces

/-!
# Searching for separators

The pieces of an expression can also be found by a search.  A separator is a sign
with the blanks on both sides of it; it is looked for at each place from the left, and
it takes as many blanks as there are.  What stands between the separators, and the sign
of each, are the parts of the text, bodies at even places and signs at odd ones.

On a text without blank ends the search finds the pieces, there is always a body behind
a sign, and so no place is missing when the parts are read off in turn.  The signed
bodies that are read make up the text but for the blanks beside its signs, and no others
do.
-/

namespace Tabletop
namespace Dice

open Text

variable {α : Type}

/-! ## Bodies and signs in turn -/

/-- A body, and signed bodies behind it, as parts in turn. -/
def inTurn (head : List α) (tail : List (α × List α)) : List (List α) :=
  head :: tail.flatMap fun (c, body) => [[c], body]

theorem inTurn_cons (head : List α) (c : α) (body : List α)
    (tail : List (α × List α)) :
    inTurn head ((c, body) :: tail) = head :: [c] :: inTurn body tail := rfl

theorem length_inTurn (head : List α) (tail : List (α × List α)) :
    (inTurn head tail).length = 2 * tail.length + 1 := by
  induction tail generalizing head with
  | nil => rfl
  | cons part tail ih =>
      rw [inTurn_cons, List.length_cons, List.length_cons, ih, List.length_cons]
      omega

/-- Behind the first body, signs and bodies take turns. -/
theorem getElem?_inTurn (head : List α) (tail : List (α × List α)) (k : Nat) :
    (inTurn head tail)[2 * k + 1]? = tail[k]?.map (fun part => [part.1]) ∧
      (inTurn head tail)[2 * k + 2]? = tail[k]?.map Prod.snd := by
  induction tail generalizing head k with
  | nil => simp [inTurn]
  | cons part tail ih =>
      cases k with
      | zero => exact ⟨rfl, rfl⟩
      | succ k => exact ih part.2 k

variable [Letter α] {cs head body rest left before after : List α}
  {tail : List (α × List α)} {c : α}

/-! ## Separators -/

/-- The sign of a separator at the front of a text, and what is left behind it. -/
def separator? (cs : List α) : Option (α × List α) :=
  match cs.dropWhile isBlank with
  | [] => none
  | c :: rest => if isSign c then some (c, rest.dropWhile isBlank) else none

/-- A text that begins with a sign among blanks, and what stands behind these. -/
def BeginsWithSeparator (cs : List α) (c : α) (rest : List α) : Prop :=
  ∃ before after, Blanks before ∧ isSign c = true ∧ Blanks after ∧
    cs = before ++ c :: (after ++ rest)

theorem dropWhile_append_sign (hbefore : Blanks before) (hc : isSign c = true)
    (cs : List α) : (before ++ c :: cs).dropWhile isBlank = c :: cs := by
  rw [List.dropWhile_append_of_pos hbefore,
    List.dropWhile_cons_of_neg (by simp [isBlank_of_isSign hc])]

theorem separator?_append_sign (hbefore : Blanks before) (hc : isSign c = true)
    (rest : List α) :
    separator? (before ++ c :: rest) = some (c, rest.dropWhile isBlank) := by
  simp [separator?, dropWhile_append_sign hbefore hc, hc]

/-- A separator is found with all blanks that are there. -/
theorem separator?_eq_some_iff :
    separator? cs = some (c, rest) ↔
      BeginsWithSeparator cs c rest ∧ ∀ d ∈ rest.head?, isBlank d = false := by
  constructor
  · intro hfound
    unfold separator? at hfound
    split at hfound
    · cases hfound
    next d more hmore =>
      split at hfound
      next hd =>
        obtain ⟨rfl, rfl⟩ := Prod.mk.inj (Option.some.inj hfound)
        refine ⟨⟨cs.takeWhile isBlank, more.takeWhile isBlank, ?_, hd, ?_, ?_⟩, ?_⟩
        · exact fun b hb => List.mem_takeWhile_imp hb
        · exact fun b hb => List.mem_takeWhile_imp hb
        · rw [List.takeWhile_append_dropWhile, ← hmore, List.takeWhile_append_dropWhile]
        · intro b hb
          have hnot := List.head?_dropWhile_not isBlank more
          rw [Option.mem_def.mp hb] at hnot
          simpa using hnot
      · cases hfound
  · rintro ⟨⟨before, after, hbefore, hc, hafter, rfl⟩, hhead⟩
    rw [separator?_append_sign hbefore hc, List.dropWhile_append_of_pos hafter,
      dropWhile_of_head hhead]

/-- No separator begins in a body that ends in something else than a blank. -/
theorem separator?_append (hbody : Signless body) (hne : body ≠ [])
    (hlast : ∀ c ∈ body.getLast?, isBlank c = false) (rest : List α) :
    separator? (body ++ rest) = none := by
  have hkept : body.dropWhile isBlank ≠ [] := by
    intro hnil
    have hblank := List.dropWhile_eq_nil_iff.mp hnil _ (List.getLast_mem hne)
    rw [hlast _ (List.getLast_mem_getLast? hne)] at hblank
    contradiction
  obtain ⟨d, more, hmore⟩ := List.exists_cons_of_ne_nil hkept
  have hd : isSign d = false := by
    apply hbody
    apply (List.dropWhile_suffix isBlank).subset
    rw [hmore]
    exact List.mem_cons_self
  have hdrop : (body ++ rest).dropWhile isBlank = d :: (more ++ rest) := by
    rw [List.dropWhile_append, if_neg (by simp [hmore]), hmore, List.cons_append]
  simp [separator?, hdrop, hd]

theorem length_of_separator? (hfound : separator? cs = some (c, rest)) :
    rest.length < cs.length := by
  obtain ⟨⟨before, after, -, -, -, rfl⟩, -⟩ := separator?_eq_some_iff.mp hfound
  simp only [List.length_append, List.length_cons]
  omega

/-! ## Parts -/

/-- The bodies and signs of a text in turn, found from the left. -/
def separate (cs : List α) : List (List α) :=
  match _hfound : separator? cs with
  | some (c, rest) => [] :: [c] :: separate rest
  | none =>
    match cs with
    | [] => [[]]
    | c :: rest => (separate rest).modifyHead (c :: ·)
termination_by cs.length
decreasing_by
  · exact length_of_separator? _hfound
  · exact Nat.lt_succ_self _

theorem separate_of_some (hfound : separator? cs = some (c, rest)) :
    separate cs = [] :: [c] :: separate rest := by
  rw [separate]
  split
  next d more hmore =>
    obtain ⟨rfl, rfl⟩ := Prod.mk.inj (Option.some.inj (hmore.symm.trans hfound))
    rfl
  next hnone => cases hnone.symm.trans hfound

theorem separate_nil : separate ([] : List α) = [[]] := by
  rw [separate]
  rfl

theorem separate_cons_of_none (hnone : separator? (c :: cs) = none) :
    separate (c :: cs) = (separate cs).modifyHead (c :: ·) := by
  rw [separate]
  split
  next hsome => cases hsome.symm.trans hnone
  next => rfl

/-- The search goes through a body up to its end. -/
theorem separate_append (hbody : Signless body)
    (hlast : ∀ c ∈ body.getLast?, isBlank c = false) (rest : List α) :
    separate (body ++ rest) = (separate rest).modifyHead (body ++ ·) := by
  induction body with
  | nil => exact (congrFun List.modifyHead_id (separate rest)).symm
  | cons c body ih =>
      have hmore : Signless body := fun d hd => hbody d (List.mem_cons_of_mem c hd)
      have hend : ∀ d ∈ body.getLast?, isBlank d = false := by
        intro d hd
        apply hlast
        rw [List.getLast?_cons, Option.mem_def.mp hd]
        rfl
      have hnone : separator? (c :: (body ++ rest)) = none :=
        separator?_append hbody (List.cons_ne_nil c body) hlast rest
      rw [List.cons_append, separate_cons_of_none hnone, ih hmore hend]
      simp [Function.comp_def]

/-- Blanks in front of a separator belong to it. -/
theorem separate_dropWhile (hfound : separator? cs = some (c, rest)) :
    separate (cs.dropWhile isBlank) = separate cs := by
  have hsame : separator? (cs.dropWhile isBlank) = some (c, rest) := by
    rw [← hfound, separator?, List.dropWhile_idempotent, separator?]
  rw [separate_of_some hsame, separate_of_some hfound]

/-! ## Parts are pieces -/

theorem eq_nil_of_blanks (hblanks : Blanks cs)
    (hlast : ∀ c ∈ cs.getLast?, isBlank c = false) : cs = [] := by
  by_contra hne
  have hblank := hblanks _ (List.getLast_mem hne)
  rw [hlast _ (List.getLast_mem_getLast? hne)] at hblank
  contradiction

/-- The end of a text is that of its second part, unless this is empty. -/
theorem last_of_append (left : List α)
    (hlast : ∀ c ∈ (left ++ rest).getLast?, isBlank c = false) :
    ∀ c ∈ rest.getLast?, isBlank c = false := by
  intro c hc
  apply hlast
  rw [List.getLast?_append, Option.mem_def.mp hc]
  rfl

theorem TailLayout.separate_dropWhile (hlayout : TailLayout rest tail)
    (hlast : ∀ c ∈ rest.getLast?, isBlank c = false) :
    separate (rest.dropWhile isBlank) = separate rest := by
  cases hlayout with
  | nil hblanks =>
      rw [eq_nil_of_blanks hblanks hlast]
      rfl
  | cons hbefore hc _ _ _ _ =>
      exact Dice.separate_dropWhile (separator?_append_sign hbefore hc _)

theorem TailLayout.separate_eq (hlayout : TailLayout rest tail)
    (hlast : ∀ c ∈ rest.getLast?, isBlank c = false) : separate rest = inTurn [] tail := by
  induction hlayout with
  | nil hblanks =>
      rw [eq_nil_of_blanks hblanks hlast, separate_nil]
      rfl
  | @cons before after body rest c tail hbefore hc hafter hbody hbare hrest ih =>
      have hend : ∀ d ∈ rest.getLast?, isBlank d = false := by
        rw [← List.cons_append, ← List.append_assoc] at hlast
        exact last_of_append _ hlast
      rw [separate_of_some (separator?_append_sign hbefore hc _), inTurn_cons,
        List.append_assoc, List.dropWhile_append_of_pos hafter]
      congr 2
      cases hempty : body with
      | nil => rw [List.nil_append, hrest.separate_dropWhile hend, ih hend]
      | cons d more =>
          have hhead : ∀ b ∈ (body ++ rest).head?, isBlank b = false := by
            rw [hempty]
            simpa [hempty] using hbare.head
          rw [← hempty, dropWhile_of_head hhead, separate_append hbody hbare.last, ih hend]
          simp [inTurn]

/-- Without a blank in front, the first body stands at the front. -/
theorem Layout.exists_tail (hlayout : Layout cs head tail) (hbare : Bare isBlank cs) :
    ∃ rest, cs = head ++ rest ∧ TailLayout rest tail ∧
      ∀ c ∈ rest.getLast?, isBlank c = false := by
  cases hlayout with
  | @intro left head rest tail hleft _ _ hrest =>
      have hnil : left = [] := by
        cases left with
        | nil => rfl
        | cons b left =>
            have hb := hleft b List.mem_cons_self
            rw [hbare.head b rfl] at hb
            contradiction
      subst hnil
      exact ⟨rest, rfl, hrest, last_of_append head hbare.last⟩

/-- The search finds the pieces of a text without blank ends. -/
theorem separate_eq (hbare : Bare isBlank cs) :
    separate cs = inTurn (pieces cs).1 (pieces cs).2 := by
  have hlayout : Layout cs (pieces cs).1 (pieces cs).2 := layout_iff.mpr rfl
  obtain ⟨hhead, hends⟩ := hlayout.bare _ List.mem_cons_self
  obtain ⟨rest, hcs, hrest, hlast⟩ := hlayout.exists_tail hbare
  conv_lhs => rw [hcs, separate_append hhead hends.last, hrest.separate_eq hlast]
  simp [inTurn]

/-! ## Reading parts off -/

def signAt? (parts : List (List α)) (place : Nat) : Option α :=
  parts[place]?.bind List.head?

/-- The signed bodies among parts, each found by its place.  Nothing if a place is missing. -/
def readInTurn? (parts : List (List α)) :
    Option (Except InvalidRoll (List (Int × List α))) := do
  let head ← parts[0]?
  if head.isEmpty then
    let sign ← signAt? parts 1
    let body ← if 2 < parts.length then parts[2]? else some []
    return .error (leadingSignError sign body)
  else
    let signed ← (List.range (parts.length / 2)).mapM fun k => do
      let sign ← signAt? parts (2 * k + 1)
      let body ← parts[2 * k + 2]?
      return (signOf sign, body)
    return .ok ((1, head) :: signed)

theorem mapM_range_getElem? {α β : Type} (f : α → β) (xs : List α) :
    (List.range xs.length).mapM (fun k => xs[k]?.map f) = some (xs.map f) := by
  induction xs with
  | nil => rfl
  | cons x xs ih =>
      rw [List.length_cons, List.range_succ_eq_map, List.mapM_cons, List.mapM_map]
      simp only [List.getElem?_cons_succ, List.getElem?_cons_zero, Function.comp_def, ih]
      rfl

/-- Parts that begin with a sign have a place for it and one for the body behind it. -/
theorem readInTurn?_of_sign (c : α) (body : List α) (more : List (α × List α)) :
    readInTurn? (inTurn [] ((c, body) :: more)) = some (.error (leadingSignError c body)) := by
  have hthree : 2 < (inTurn [] ((c, body) :: more)).length := by
    rw [length_inTurn, List.length_cons]
    omega
  simp only [readInTurn?, if_pos hthree]
  rfl

/-- Other parts have a body for each sign. -/
theorem readInTurn?_of_body (hhead : head ≠ []) (tail : List (α × List α)) :
    readInTurn? (inTurn head tail) = some (.ok (signedBodies head tail)) := by
  obtain ⟨d, more, rfl⟩ := List.exists_cons_of_ne_nil hhead
  have hplaces : (inTurn (d :: more) tail).length / 2 = tail.length := by
    rw [length_inTurn]
    omega
  have hsigned : ∀ k : Nat, (do
      let sign ← signAt? (inTurn (d :: more) tail) (2 * k + 1)
      let body ← (inTurn (d :: more) tail)[2 * k + 2]?
      return (signOf sign, body)) =
      tail[k]?.map fun part => (signOf part.1, part.2) := by
    intro k
    obtain ⟨hsign, hbody⟩ := getElem?_inTurn (d :: more) tail k
    rw [signAt?, hsign, hbody]
    cases tail[k]? <;> rfl
  simp only [readInTurn?, hplaces, hsigned, mapM_range_getElem?]
  rfl

/-- The parts of a text without blank ends are read as its signed pieces. -/
theorem readInTurn?_separate (hne : cs ≠ []) (hbare : Bare isBlank cs) :
    readInTurn? (separate cs) = some (split cs) := by
  rw [separate_eq hbare, split_eq]
  rcases hpieces : pieces cs with ⟨- | ⟨d, head⟩, - | ⟨⟨c, body⟩, more⟩⟩
  · have hblanks : Blanks cs := pieces_eq_nil_iff.mp hpieces
    exact absurd (eq_nil_of_blanks hblanks hbare.last) hne
  · exact readInTurn?_of_sign c body more
  · exact readInTurn?_of_body (List.cons_ne_nil d head) []
  · exact readInTurn?_of_body (List.cons_ne_nil d head) ((c, body) :: more)

theorem length_cut (cs : List α) : (cut cs).2.length = cs.countP isSign := by
  induction cs with
  | nil => rfl
  | cons c cs ih =>
      cases hc : isSign c with
      | true => rw [cut_cons_of_isSign hc, List.length_cons, ih, List.countP_cons_of_pos hc]
      | false => rw [cut_cons_of_not_isSign hc, ih, List.countP_cons_of_neg (by simp [hc])]

theorem length_pieces (cs : List α) : (pieces cs).2.length = cs.countP isSign := by
  rw [pieces, List.length_map, length_cut]

/-! ## Closing up -/

/-- A text without the blanks beside its signs: a blank is left out if there are only blanks
between it and a sign, on the one side or on the other. -/
def closeUp (behind : Bool) : List α → List α
  | [] => []
  | c :: cs =>
    if isSign c then c :: closeUp true cs
    else if isBlank c && (behind || (separator? cs).isSome) then closeUp behind cs
    else c :: closeUp false cs

theorem closeUp_append_sign (behind : Bool) (hbefore : Blanks before) (hc : isSign c = true)
    (rest : List α) : closeUp behind (before ++ c :: rest) = c :: closeUp true rest := by
  induction before with
  | nil => simp [closeUp, hc]
  | cons b before ih =>
      have hb : isBlank b = true := hbefore b List.mem_cons_self
      have hmore : Blanks before := fun d hd => hbefore d (List.mem_cons_of_mem b hd)
      have hnot : isSign b = false := hbefore.signless b List.mem_cons_self
      simp [closeUp, hb, hnot, separator?_append_sign hmore hc, ih hmore]

theorem closeUp_append_blanks (hafter : Blanks after) (rest : List α) :
    closeUp true (after ++ rest) = closeUp true rest := by
  induction after with
  | nil => rfl
  | cons b after ih =>
      have hb : isBlank b = true := hafter b List.mem_cons_self
      have hmore : Blanks after := fun d hd => hafter d (List.mem_cons_of_mem b hd)
      have hnot : isSign b = false := hafter.signless b List.mem_cons_self
      simp [closeUp, hb, hnot, ih hmore]

/-- A body without blank ends stays as it is. -/
theorem closeUp_append_body {behind : Bool} (hbody : Signless body) (hne : body ≠ [])
    (hfirst : behind = false ∨ ∀ c ∈ body.head?, isBlank c = false)
    (hlast : ∀ c ∈ body.getLast?, isBlank c = false) (rest : List α) :
    closeUp behind (body ++ rest) = body ++ closeUp false rest := by
  -- From the second character on no sign is right behind, and none follows up to the last one.
  induction body generalizing behind with
  | nil => exact absurd rfl hne
  | cons c body ih =>
      obtain ⟨hc, hmore⟩ := List.forall_mem_cons.mp hbody
      have hkept : (isBlank c && (behind || (separator? (body ++ rest)).isSome)) = false := by
        cases hblank : isBlank c with
        | false => rfl
        | true =>
            have hinner : body ≠ [] := by
              rintro rfl
              rw [hlast c rfl] at hblank
              contradiction
            have hoff : behind = false := by
              apply hfirst.resolve_right
              intro hhead
              rw [hhead c rfl] at hblank
              contradiction
            have hnone := separator?_append hmore hinner
              (last_of_append [c] hlast) rest
            simp [hoff, hnone]
      have hstep : closeUp behind (c :: (body ++ rest)) = c :: closeUp false (body ++ rest) := by
        simp [closeUp, hc, hkept]
      rw [List.cons_append, hstep]
      by_cases hinner : body = []
      · rw [hinner]
        rfl
      · rw [ih hmore hinner (.inl rfl) (last_of_append [c] hlast)]
        rfl

theorem TailLayout.closeUp_eq (hlayout : TailLayout rest tail)
    (hlast : ∀ c ∈ rest.getLast?, isBlank c = false) (behind : Bool) :
    closeUp behind rest = glue tail := by
  induction hlayout generalizing behind with
  | nil hblanks =>
      rw [eq_nil_of_blanks hblanks hlast]
      rfl
  | @cons before after body rest c tail hbefore hc hafter hbody hbare hrest ih =>
      have hend : ∀ d ∈ rest.getLast?, isBlank d = false := by
        rw [← List.cons_append, ← List.append_assoc] at hlast
        exact last_of_append _ hlast
      rw [closeUp_append_sign behind hbefore hc, List.append_assoc,
        closeUp_append_blanks hafter, glue_cons]
      congr 1
      by_cases hempty : body = []
      · rw [hempty, List.nil_append, List.nil_append, ih hend]
      · rw [closeUp_append_body hbody hempty (.inr hbare.head) hbare.last, ih hend]

/-- Closed up, a text without blank ends is the row of its pieces. -/
theorem closeUp_eq (hbare : Bare isBlank cs) :
    closeUp false cs = (pieces cs).1 ++ glue (pieces cs).2 := by
  have hlayout : Layout cs (pieces cs).1 (pieces cs).2 := layout_iff.mpr rfl
  obtain ⟨hhead, hends⟩ := hlayout.bare _ List.mem_cons_self
  obtain ⟨rest, hcs, hrest, hlast⟩ := hlayout.exists_tail hbare
  conv_lhs => rw [hcs]
  by_cases hempty : (pieces cs).1 = []
  · rw [hempty, List.nil_append, List.nil_append, hrest.closeUp_eq hlast]
  · rw [closeUp_append_body hhead hempty (.inl rfl) hends.last, hrest.closeUp_eq hlast]

/-! ## The signed bodies of a text -/

/-- The letters that a sign is written with. -/
def signLetters (sign : Int) : List α := (signChars false sign).map Letter.ofChar

/-- Signed bodies in a row, without a sign in front of the first one. -/
def join : List (Int × List α) → List α
  | [] => []
  | (_, head) :: tail => head ++ tail.flatMap fun (sign, body) => signLetters sign ++ body

/-- Signed bodies that make up a text but for the blanks beside its signs. -/
structure Divides (pairs : List (Int × List α)) (cs : List α) : Prop where
  first : pairs.head?.map Prod.fst = some 1
  signs : ∀ pair ∈ pairs, pair.1 = 1 ∨ pair.1 = -1
  length : pairs.length = cs.countP isSign + 1
  bodies : ∀ pair ∈ pairs, Signless pair.2 ∧ Bare isBlank pair.2
  joined : join pairs = closeUp false cs

theorem signed_pieces (cs : List α) : Signed (pieces cs).2 := by
  intro part hpart
  obtain ⟨⟨c, body⟩, hmem, rfl⟩ := List.mem_map.mp hpart
  obtain ⟨hc, hbody⟩ := (cut_signless cs).2 _ hmem
  exact ⟨hc, trim_signless hbody⟩

theorem signOf_cases (c : α) : signOf c = 1 ∨ signOf c = -1 := by
  unfold signOf
  split
  · exact .inr rfl
  · exact .inl rfl

theorem signLetters_signOf (hc : isSign c = true) : signLetters (signOf c) = [c] := by
  rcases isSign_iff.mp hc with rfl | rfl
  · simp [signLetters, signChars, signOf, Letter.code_ofChar]
  · simp [signLetters, signChars, signOf, Letter.code_ofChar]

theorem join_signedBodies (head : List α) (hsigned : Signed tail) :
    join (signedBodies head tail) = head ++ glue tail := by
  simp only [join, signedBodies, glue, List.flatMap_map]
  congr 1
  apply List.flatMap_congr
  intro part hpart
  rw [signLetters_signOf (hsigned part hpart).1, List.singleton_append]

/-- The pieces of a text divide it. -/
theorem divides_pieces (hbare : Bare isBlank cs) :
    Divides (signedBodies (pieces cs).1 (pieces cs).2) cs := by
  have hlayout : Layout cs (pieces cs).1 (pieces cs).2 := layout_iff.mpr rfl
  have hbodies := List.forall_mem_cons.mp hlayout.bare
  refine ⟨rfl, ?signs, ?length, ?bodies, ?joined⟩
  case signs =>
    refine List.forall_mem_cons.mpr ⟨.inl rfl, ?_⟩
    intro pair hpair
    obtain ⟨part, -, rfl⟩ := List.mem_map.mp hpair
    exact signOf_cases part.1
  case length => rw [signedBodies, List.length_cons, List.length_map, length_pieces]
  case bodies =>
    refine List.forall_mem_cons.mpr ⟨hbodies.1, ?_⟩
    intro pair hpair
    obtain ⟨part, hpart, rfl⟩ := List.mem_map.mp hpair
    exact hbodies.2 part.2 (List.mem_map_of_mem hpart)
  case joined => rw [join_signedBodies _ (signed_pieces cs), closeUp_eq hbare]

/-- What divides a text can be read off the closed-up text, so nothing else divides it. -/
theorem Divides.eq {pairs : List (Int × List α)} (hdivides : Divides pairs cs) :
    pairs = signedBodies (cut (closeUp false cs)).1 (cut (closeUp false cs)).2 := by
  obtain ⟨hfirst, hsigns, -, hbodies, hjoined⟩ := hdivides
  cases pairs with
  | nil => cases hfirst
  | cons pair tail =>
      obtain ⟨sign, head⟩ := pair
      obtain rfl : sign = 1 := Option.some.inj hfirst
      obtain ⟨hhead, htail⟩ := List.forall_mem_cons.mp hbodies
      have hsign := (List.forall_mem_cons.mp hsigns).2
      let marked : List (α × List α) :=
        tail.map fun pair => (Letter.ofChar (if pair.1 < 0 then '-' else '+'), pair.2)
      have hsigned : Signed marked := by
        intro part hpart
        obtain ⟨pair, hpair, rfl⟩ := List.mem_map.mp hpart
        refine ⟨isSign_iff.mpr ?_, (htail pair hpair).1⟩
        rcases hsign pair hpair with hone | hone
        · exact .inl (by simp [hone])
        · exact .inr (by simp [hone])
      have hback : marked.map (fun part => (signOf part.1, part.2)) = tail := by
        rw [List.map_map]
        refine (List.map_congr_left ?_).trans (List.map_id tail)
        intro pair hpair
        rcases hsign pair hpair with hone | hone
        · exact Prod.ext (by simp [hone, signOf, Letter.code_ofChar]) rfl
        · exact Prod.ext (by simp [hone, signOf, Letter.code_ofChar]) rfl
      have hglued : join ((1, head) :: tail) = head ++ glue marked := by
        conv_lhs => rw [← hback]
        exact join_signedBodies head hsigned
      rw [← hjoined, hglued, cut_append_glue hhead.1 hsigned, signedBodies, hback]

/-! ## Dividing a text -/

/-- What becomes of a text without blank ends. -/
structure IsDivided (cs : List α) : Prop where
  parts : (separate cs).length = 2 * cs.countP isSign + 1
  /-- The parts are read without missing any. -/
  read : readInTurn? (separate cs) = some (split cs)
  refused : (∃ c ∈ cs.head?, isSign c = true) →
    3 ≤ (separate cs).length ∧ ∃ cause : InvalidRoll, split cs = .error cause
  divided : (∀ c ∈ cs.head?, isSign c = false) → ∃ pairs, split cs = .ok pairs ∧
    Divides pairs cs ∧ (∀ pair ∈ pairs, pair.2.getLast? ≠ some (Letter.ofChar '\n')) ∧
    ∀ other, Divides other cs → other = pairs

/-- A text without blank ends is divided in one way only, and nothing of it is lost but the blanks
beside its signs. -/
theorem texts_divide_once (hne : cs ≠ []) (hbare : Bare isBlank cs) : IsDivided cs := by
  have hparts : (separate cs).length = 2 * cs.countP isSign + 1 := by
    rw [separate_eq hbare, length_inTurn, length_pieces]
  obtain ⟨c, rest, rfl⟩ := List.exists_cons_of_ne_nil hne
  refine ⟨hparts, readInTurn?_separate hne hbare, ?refused, ?divided⟩
  case refused =>
    rintro ⟨d, hd, hsign⟩
    obtain rfl : c = d := Option.some.inj hd
    refine ⟨?_, leadingSignError c (pieces rest).1, ?_⟩
    · rw [hparts, List.countP_cons_of_pos hsign]
      omega
    · rw [split_eq, pieces_cons_of_isSign hsign]
  case divided =>
    intro hnone
    have hsign : isSign c = false := hnone c rfl
    have hhead : (pieces (c :: rest)).1 ≠ [] := by
      intro hnil
      rw [pieces, cut_cons_of_not_isSign hsign] at hnil
      have hblank := trim_eq_nil_iff.mp hnil c List.mem_cons_self
      rw [hbare.head c rfl] at hblank
      contradiction
    have hsplit : split (c :: rest) =
        .ok (signedBodies (pieces (c :: rest)).1 (pieces (c :: rest)).2) := by
      rw [split_eq]
      rcases hpieces : pieces (c :: rest) with ⟨- | ⟨d, head⟩, tail⟩
      · exact absurd (congrArg Prod.fst hpieces) hhead
      · rfl
    have hdivides := divides_pieces hbare
    refine ⟨_, hsplit, hdivides, ?_, ?_⟩
    · intro pair hpair hbreak
      have hlast := (hdivides.bodies pair hpair).2.last _ hbreak
      rw [isBlank_ofChar] at hlast
      exact absurd hlast (by decide)
    · intro other hother
      rw [hother.eq, ← hdivides.eq]

/-- A text with an empty body between two signs and with blanks only beside its signs, and one
that begins with a sign. -/
theorem texts_divide_once_empty_body :
    (IsDivided "2d6 +\t- DEX\n-1 d4".toList ∧
      split "2d6 +\t- DEX\n-1 d4".toList = .ok [(1, "2d6".toList), (1, []),
        (-1, "DEX".toList), (-1, "1 d4".toList)]) ∧
    (IsDivided "- d6 + 1".toList ∧
      split "- d6 + 1".toList = .error (.countBelowOne "-d6")) := by
  have hfirst : Bare isBlank "2d6 +\t- DEX\n-1 d4".toList := trim_eq_self_iff.mp (by decide)
  have hsecond : Bare isBlank "- d6 + 1".toList := trim_eq_self_iff.mp (by decide)
  exact ⟨⟨texts_divide_once (by decide) hfirst, by decide⟩,
    ⟨texts_divide_once (by decide) hsecond, by decide⟩⟩

end Dice
end Tabletop
