import Mathlib
import Tabletop.Proofs.Dice.Faults

/-!
# Where blanks matter

Blanks at the ends of a string and beside its signs can be put in and taken out without any
effect, also where the string is refused: what it is read as, or refused for, depends on its pieces
alone, and these stay.  Two strings differ in such blanks only if and only if they have the same
pieces.

Blanks between two letters of one term stay in its piece, and no piece with a blank in it is a
term.  So there is nothing between: a string is refused for blanks that tear a term, or it is read
as it would be without any blanks.
-/

namespace Tabletop
namespace Dice

open Text

variable {α : Type} [Letter α] {limits : Limits} {cs other body head left right run : List α}
  {tail : List (α × List α)}

/-- A place in a string at one of its ends or beside a sign, by what stands on both sides of it. -/
inductive Gap : List α → List α → Prop
  | front {right : List α} : Gap [] right
  | back {left : List α} : Gap left []
  | before {left right : List α} {c : α} (hc : isSign c = true) : Gap left (c :: right)
  | behind {left right : List α} {c : α} (hc : isSign c = true) : Gap (left ++ [c]) right

/-- A string, and the string with a run of blanks more in a gap. -/
inductive Spaced : List α → List α → Prop
  | intro {left blanks right : List α} (hgap : Gap left right) (hblanks : Blanks blanks) :
      Spaced (left ++ right) (left ++ blanks ++ right)

/-- Runs of blanks are put into gaps and taken out of gaps, any number of them. -/
def Respaced : List α → List α → Prop := Relation.EqvGen Spaced

/-- A letter that can belong to a term. -/
def Inner (c : α) : Prop := isBlank c = false ∧ isSign c = false

/-- A string with a blank between two letters of one term: there is no sign between them. -/
inductive Torn : List α → Prop
  | intro {left between right : List α} {c d : α} (hc : Inner c) (hd : Inner d)
      (hbetween : Signless between) (hblank : ∃ b ∈ between, isBlank b = true) :
      Torn (left ++ c :: (between ++ d :: right))

/-! ## Blanks in gaps -/

theorem Spaced.pieces_eq (hspaced : Spaced cs other) : pieces other = pieces cs := by
  cases hspaced with
  | @intro left blanks right hgap hblanks =>
      cases hgap with
      | front => rw [List.nil_append, List.nil_append, pieces_append_left hblanks]
      | back => rw [List.append_nil, List.append_nil, pieces_append_right hblanks]
      | before hc =>
          rw [pieces_append_cons hc, pieces_append_cons hc, pieces_append_right hblanks]
      | @behind left right c hc =>
          rw [List.append_assoc, List.append_assoc, List.append_assoc, List.singleton_append,
            List.singleton_append, pieces_append_cons hc, pieces_append_cons hc,
            pieces_append_left hblanks]

theorem Respaced.pieces_eq (hrespaced : Respaced cs other) : pieces cs = pieces other := by
  induction hrespaced with
  | rel _ _ hspaced => exact hspaced.pieces_eq.symm
  | refl _ => rfl
  | symm _ _ _ ih => exact ih.symm
  | trans _ _ _ _ _ ihleft ihright => exact ihleft.trans ihright

theorem Gap.respaced {blanks : List α} (hgap : Gap left right) (hblanks : Blanks blanks) :
    Respaced (left ++ right) (left ++ blanks ++ right) :=
  .rel _ _ (.intro hgap hblanks)

/-- Signed bodies are laid out by blanks in gaps, whatever stands in front of them. -/
theorem TailLayout.respaced {rest : List α} (hlayout : TailLayout rest tail)
    (left : List α) : Respaced (left ++ glue tail) (left ++ rest) := by
  induction hlayout generalizing left with
  | @nil blanks hblanks =>
      have hgap : Gap left [] := .back
      simpa using hgap.respaced hblanks
  | @cons before after body rest c tail hbefore hc hafter _ _ _ ih =>
      have hfront : Gap left (c :: (body ++ glue tail)) := .before hc
      have hback : Gap (left ++ before ++ [c]) (body ++ glue tail) := .behind hc
      have hfirst := hfront.respaced hbefore
      have hsecond := hback.respaced hafter
      have hthird := ih (left ++ before ++ [c] ++ after ++ body)
      simp only [List.append_assoc, List.singleton_append] at hfirst hsecond hthird
      simp only [glue_cons, List.append_assoc]
      exact (hfirst.trans _ _ _ hsecond).trans _ _ _ hthird

/-- A string differs from its pieces in a row by blanks in gaps. -/
theorem Layout.respaced (hlayout : Layout cs head tail) :
    Respaced (head ++ glue tail) cs := by
  cases hlayout with
  | @intro left head rest tail hleft _ _ hrest =>
      have hgap : Gap [] (head ++ glue tail) := .front
      have hfront := hgap.respaced hleft
      have hmore := hrest.respaced (left ++ head)
      simp only [List.nil_append, List.append_assoc] at hfront hmore
      rw [List.append_assoc]
      exact hfront.trans _ _ _ hmore

/-- Two strings differ by blanks in gaps if and only if their pieces are the same. -/
theorem respaced_iff : Respaced cs other ↔ pieces cs = pieces other := by
  refine ⟨Respaced.pieces_eq, fun hsame => ?_⟩
  have hlayout : Layout other (pieces cs).1 (pieces cs).2 := layout_iff.mpr hsame.symm
  have hself : Layout cs (pieces cs).1 (pieces cs).2 := layout_iff.mpr rfl
  exact hself.respaced.symm.trans _ _ _ hlayout.respaced

/-! ## Blanks inside a term -/

/-- What stands before, between and behind the signs of a string. -/
def parts (cs : List α) : List (List α) := (cut cs).1 :: (cut cs).2.map Prod.snd

/-- The bodies of a string: its parts without their blank ends. -/
def bodies (cs : List α) : List (List α) := (parts cs).map (trim isBlank)

theorem bodies_eq (cs : List α) : bodies cs = (pieces cs).1 :: (pieces cs).2.map Prod.snd := by
  simp [bodies, parts, pieces]

theorem signless_of_mem_parts {part : List α} (hpart : part ∈ parts cs) : Signless part := by
  obtain ⟨hhead, htail⟩ := cut_signless cs
  rcases List.mem_cons.mp hpart with rfl | hmore
  · exact hhead
  · obtain ⟨⟨sign, part⟩, hmem, rfl⟩ := List.mem_map.mp hmore
    exact (htail _ hmem).2

theorem infix_of_mem_parts {part : List α} (hpart : part ∈ parts cs) : part <:+: cs := by
  rw [← cut_glue cs]
  rcases List.mem_cons.mp hpart with rfl | hmore
  · exact (List.prefix_append _ _).isInfix
  · obtain ⟨⟨sign, part⟩, hmem, rfl⟩ := List.mem_map.mp hmore
    obtain ⟨before, after, hsplit⟩ := List.append_of_mem hmem
    refine ⟨(cut cs).1 ++ glue before ++ [sign], glue after, ?_⟩
    rw [hsplit]
    simp [glue]

/-- What has no sign in it lies in one of the parts. -/
theorem exists_part_of_infix (hrun : Signless run) (hcs : run <:+: cs) :
    ∃ part ∈ parts cs, run <:+: part := by
  obtain ⟨left, right, rfl⟩ := hcs
  induction left with
  | nil =>
      refine ⟨(cut (run ++ right)).1, List.mem_cons_self, ?_⟩
      rw [cut_append hrun]
      exact (List.prefix_append run _).isInfix
  | cons c left ih =>
      obtain ⟨part, hpart, hinfix⟩ := ih
      unfold parts at hpart ⊢
      cases hc : isSign c with
      | true =>
          refine ⟨part, ?_, hinfix⟩
          simp only [List.cons_append, cut_cons_of_isSign hc, List.map_cons]
          exact List.mem_cons_of_mem _ hpart
      | false =>
          simp only [List.cons_append, cut_cons_of_not_isSign hc]
          rcases List.mem_cons.mp hpart with rfl | hmore
          · exact ⟨_, List.mem_cons_self, hinfix.trans (List.suffix_cons c _).isInfix⟩
          · exact ⟨part, List.mem_cons_of_mem _ hmore, hinfix⟩

theorem Inner.bare {c d : α} (hc : Inner c) (hd : Inner d) (between : List α) :
    Bare isBlank (c :: (between ++ [d])) := by
  constructor
  · intro first hfirst
    obtain rfl : c = first := by simpa using hfirst
    exact hc.1
  · intro last hlast
    rw [← List.cons_append, List.getLast?_concat] at hlast
    obtain rfl := Option.some.inj hlast
    exact hd.1

theorem Inner.signless {c d : α} (hc : Inner c) (hd : Inner d) {between : List α}
    (hbetween : Signless between) : Signless (c :: (between ++ [d])) := by
  have hlast : Signless [d] := List.forall_mem_singleton.mpr hd.2
  exact List.forall_mem_cons.mpr ⟨hc.2, hbetween.append hlast⟩

/-- A blank in letters that have none at their ends stands between two others. -/
theorem exists_between_of_bare {b : α} (hbare : Bare isBlank body) (hsignless : Signless body)
    (hb : b ∈ body) (hblank : isBlank b = true) :
    ∃ c between d, body = c :: (between ++ [d]) ∧ Inner c ∧ Inner d ∧ b ∈ between := by
  obtain ⟨c, rest, rfl⟩ := List.exists_cons_of_ne_nil (List.ne_nil_of_mem hb)
  have hc : isBlank c = false := hbare.head c rfl
  rcases List.eq_nil_or_concat rest with rfl | ⟨between, d, rfl⟩
  · obtain rfl := List.mem_singleton.mp hb
    rw [hc] at hblank
    contradiction
  · rw [List.concat_eq_append] at hbare hsignless hb ⊢
    have hd : isBlank d = false := by
      apply hbare.last
      rw [← List.cons_append, List.getLast?_concat]
      rfl
    refine ⟨c, between, d, rfl, ⟨hc, hsignless c (by simp)⟩, ⟨hd, hsignless d (by simp)⟩, ?_⟩
    simp only [List.mem_cons, List.mem_append, List.not_mem_nil, or_false] at hb
    rcases hb with rfl | hb | rfl
    · rw [hc] at hblank
      contradiction
    · exact hb
    · rw [hd] at hblank
      contradiction

theorem Torn.exists_body (htorn : Torn cs) :
    ∃ body ∈ bodies cs, ∃ b ∈ body, isBlank b = true := by
  obtain @⟨left, between, right, c, d, hc, hd, hbetween, b, hb, hblank⟩ := htorn
  have hrun : c :: (between ++ [d]) <:+: left ++ c :: (between ++ d :: right) :=
    ⟨left, right, by simp⟩
  obtain ⟨part, hpart, hinfix⟩ := exists_part_of_infix (hc.signless hd hbetween) hrun
  refine ⟨_, List.mem_map_of_mem hpart, b, ?_, hblank⟩
  exact ((hc.bare hd between).infix_trim hinfix).subset (by simp [hb])

theorem torn_of_mem_bodies {b : α} (hbody : body ∈ bodies cs) (hb : b ∈ body)
    (hblank : isBlank b = true) : Torn cs := by
  obtain ⟨part, hpart, rfl⟩ := List.mem_map.mp hbody
  have hsignless := signless_of_mem_parts hpart
  obtain ⟨c, between, d, hsplit, hc, hd, hmem⟩ :=
    exists_between_of_bare (bare_trim isBlank part) (trim_signless hsignless) hb hblank
  obtain ⟨before, after, hcs⟩ := infix_of_mem_parts hpart
  obtain ⟨left, right, -, -, htrim⟩ := exists_eq_append_trim isBlank part
  rw [hsplit] at htrim
  have hbetween : Signless between := by
    intro e he
    apply hsignless
    rw [htrim]
    simp [he]
  have htorn : Torn ((before ++ left) ++ c :: (between ++ d :: (right ++ after))) :=
    .intro hc hd hbetween ⟨b, hmem, hblank⟩
  rw [← hcs, htrim]
  simpa using htorn

/-- Letters with a blank among them spell no term. -/
theorem readBody_of_blank {b : α} (hb : b ∈ body) (hblank : isBlank b = true) (limits : Limits) :
    ∃ cause : InvalidRoll, readBody limits body = .error cause := by
  rcases hasHalf_or_text body with hhalf | ⟨cs, rfl⟩
  · exact ⟨_, readBody_of_half hhalf limits⟩
  · rw [readBody_ofChar]
    cases hread : readBody limits cs with
    | error cause => exact ⟨cause, rfl⟩
    | ok value =>
        obtain ⟨c, hc, rfl⟩ := List.mem_map.mp hb
        have htext : BodyText limits cs value := .of_readBody hread
        rw [isBlank_ofChar, not_isBlank_of_isAlphanum (htext.isAlphanum c hc)] at hblank
        contradiction

theorem Torn.refused (htorn : Torn cs) (limits : Limits) :
    ∃ cause : InvalidRoll, parseLetters limits cs = .error cause := by
  obtain ⟨body, hbody, b, hb, hblank⟩ := htorn.exists_body
  rw [bodies_eq] at hbody
  obtain ⟨cause, hread⟩ := readBody_of_blank hb hblank limits
  exact parseLetters_fails hbody hread

/-! ## Strings without any blanks -/

def unspaced (cs : List α) : List α := cs.filter fun c => !isBlank c

theorem unspaced_of_blanks (hblanks : Blanks cs) : unspaced cs = [] := by
  rw [unspaced, List.filter_eq_nil_iff]
  intro c hc
  simp [hblanks c hc]

theorem unspaced_of_none (hnone : ∀ c ∈ cs, isBlank c = false) : unspaced cs = cs := by
  rw [unspaced, List.filter_eq_self]
  intro c hc
  simp [hnone c hc]

theorem unspaced_append (cs other : List α) :
    unspaced (cs ++ other) = unspaced cs ++ unspaced other := List.filter_append ..

theorem TailLayout.unspaced_eq {rest : List α} (hlayout : TailLayout rest tail)
    (hnone : ∀ body ∈ tail.map Prod.snd, ∀ b ∈ body, isBlank b = false) :
    unspaced rest = glue tail := by
  induction hlayout with
  | nil hblanks => exact unspaced_of_blanks hblanks
  | @cons before after body rest c tail hbefore hc hafter _ _ _ ih =>
      obtain ⟨hbody, hmore⟩ := List.forall_mem_cons.mp hnone
      have hsign : unspaced [c] = [c] :=
        unspaced_of_none (List.forall_mem_singleton.mpr (isBlank_of_isSign hc))
      calc
        unspaced (before ++ c :: (after ++ body ++ rest)) =
            unspaced before ++ (unspaced [c] ++
              (unspaced after ++ unspaced body ++ unspaced rest)) := by
          rw [← unspaced_append, ← unspaced_append, ← unspaced_append, ← unspaced_append]
          rfl
        _ = glue ((c, body) :: tail) := by
          rw [unspaced_of_blanks hbefore, hsign, unspaced_of_blanks hafter,
            unspaced_of_none hbody, ih hmore]
          simp

theorem Layout.unspaced_eq (hlayout : Layout cs head tail)
    (hnone : ∀ body ∈ head :: tail.map Prod.snd, ∀ b ∈ body, isBlank b = false) :
    unspaced cs = head ++ glue tail := by
  cases hlayout with
  | intro hleft _ _ hrest =>
      obtain ⟨hhead, hmore⟩ := List.forall_mem_cons.mp hnone
      rw [unspaced_append, unspaced_append, unspaced_of_blanks hleft, unspaced_of_none hhead,
        hrest.unspaced_eq hmore, List.nil_append]

/-- If no term is torn, all blanks of a string stand in gaps. -/
theorem respaced_unspaced (htorn : ¬ Torn cs) : Respaced (unspaced cs) cs := by
  have hlayout : Layout cs (pieces cs).1 (pieces cs).2 := layout_iff.mpr rfl
  have hnone : ∀ body ∈ (pieces cs).1 :: (pieces cs).2.map Prod.snd, ∀ b ∈ body,
      isBlank b = false := by
    rw [← bodies_eq]
    intro body hbody b hb
    rw [Bool.eq_false_iff]
    intro hblank
    exact htorn (torn_of_mem_bodies hbody hb hblank)
  rw [hlayout.unspaced_eq hnone]
  exact hlayout.respaced

theorem Respaced.parse_eq (hrespaced : Respaced cs other) (limits : Limits) :
    parseLetters limits other = parseLetters limits cs := by
  rw [parseLetters_eq_readPieces, parseLetters_eq_readPieces, hrespaced.pieces_eq]

/-- Blanks in gaps of a string change neither what it is read as nor what it is refused for.
Blanks that tear a term always have it refused, and all others can be left out. -/
theorem blanks_in_gaps_never_matter (limits : Limits) (string : Loose) :
    (∀ other : Loose, Respaced string.codes other.codes →
      parse limits other = parse limits string) ∧
    (Torn string.codes → ∃ cause : InvalidRoll, parse limits string = .error cause) ∧
    (¬ Torn string.codes →
      parse limits string = parse limits (.ofLetters (unspaced string.codes))) := by
  refine ⟨?_, ?_, ?_⟩
  · intro other hrespaced
    rw [parse_eq_codes, parse_eq_codes]
    exact hrespaced.parse_eq limits
  · intro htorn
    rw [parse_eq_codes]
    exact htorn.refused limits
  · intro htorn
    rw [parse_eq_codes, parse_ofLetters]
    exact (respaced_unspaced htorn).parse_eq limits

/-- An empty term is complained about in every spacing, with a fragment that has no blanks.  With a
line break and a no-break space in its gaps the second text is read; a blank behind the `1` of its
dice would tear them. -/
theorem blanks_in_gaps_never_matter_lines :
    let crowded : Loose := "-d6 + + x"
    let spaced : Loose := "- d6++\tx "
    let torn : Loose := "dex\n+1 d6"
    let whole : Loose := "dex\n+\u00a01d6"
    (Respaced crowded.codes spaced.codes ∧ parse {} spaced = parse {} crowded ∧
      parse {} crowded = .error (.countBelowOne "-d6")) ∧
    (Torn torn.codes ∧ ∃ cause : InvalidRoll, parse {} torn = .error cause) ∧
    (¬ Torn whole.codes ∧ parse {} whole = parse {} "dex+1d6") := by
  intro crowded spaced torn whole
  obtain ⟨hrespaced, -, -⟩ := blanks_in_gaps_never_matter {} crowded
  obtain ⟨-, hrefused, -⟩ := blanks_in_gaps_never_matter {} torn
  obtain ⟨-, -, hunspaced⟩ := blanks_in_gaps_never_matter {} whole
  have hsame : Respaced crowded.codes spaced.codes := respaced_iff.mpr (by decide)
  have hbody : "1 d6".toList.map Char.toNat ∈ bodies torn.codes := by decide
  have hblank : ' '.toNat ∈ "1 d6".toList.map Char.toNat := by decide
  have htorn : Torn torn.codes := torn_of_mem_bodies hbody hblank (by decide)
  have hnone : ((bodies whole.codes).any fun body => body.any isBlank) = false := by decide
  have hwhole : ¬ Torn whole.codes := by
    intro htorn
    obtain ⟨body, hbody, hblank⟩ := htorn.exists_body
    have hany : ((bodies whole.codes).any fun body => body.any isBlank) = true :=
      List.any_eq_true.mpr ⟨body, hbody, List.any_eq_true.mpr hblank⟩
    exact Bool.false_ne_true (hnone.symm.trans hany)
  have hrest : unspaced whole.codes = "dex+1d6".toList.map Char.toNat := by decide
  have hletters : Loose.ofLetters ("dex+1d6".toList.map Char.toNat) = "dex+1d6" := by decide
  refine ⟨⟨hsame, hrespaced _ hsame, by decide⟩, ⟨htorn, hrefused htorn⟩, hwhole, ?_⟩
  rw [← hletters, ← hrest]
  exact hunspaced hwhole

end Dice
end Tabletop
