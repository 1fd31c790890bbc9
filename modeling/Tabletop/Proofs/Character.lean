import Mathlib
import Tabletop.Sheet
import Tabletop.Dice.Engine
import Tabletop.Proofs.OrderedMap

/-!
# Characters and records of scores

Scores under codes can be entered into a character, or they can stand in a record of their own.
Either way the last value that is written for an ability counts: the character has it in place of
what was there before, and the record has it under the code in capitals.  An ability that is never
written stays blank in the one and is absent from the other.  To a roll that is the same, since
only a whole number is a score.
-/

namespace Tabletop

open Text Tabletop.Dice

variable {α : Type}

/-- Entries under texts. -/
def labelled (entries : List (String × α)) : List (Label × α) :=
  entries.map fun (key, value) => (.text key, value)

/-- Every key is the code of an ability when it is written in capitals. -/
def NamesAbilities (entries : List (String × α)) : Prop :=
  ∀ entry ∈ entries, ∃ ability : Ability, upper entry.1 = ability.code

/-- The value of the last entry whose key in capitals is a code. -/
def lastUnder? (code : String) (entries : List (String × α)) : Option α :=
  (entries.filter (upper ·.1 = code)).getLast?.map Prod.snd

theorem lastUnder?_cons (code key : String) (value : α) (rest : List (String × α)) :
    lastUnder? code ((key, value) :: rest) =
      (lastUnder? code rest).or (if upper key = code then some value else none) := by
  unfold lastUnder?
  by_cases hkey : upper key = code
  · rw [List.filter_cons_of_pos (by simpa using hkey), List.getLast?_cons, if_pos hkey]
    cases (rest.filter (upper ·.1 = code)).getLast? <;> rfl
  · rw [List.filter_cons_of_neg (by simpa using hkey), if_neg hkey, Option.or_none]

/-- Among keys of which some name no ability there is a first one. -/
theorem exists_first_unnamed {entries : List (String × α)} (hentries : ¬ NamesAbilities entries) :
    ∃ before key value after, entries = before ++ (key, value) :: after ∧
      NamesAbilities before ∧ ∀ ability : Ability, upper key ≠ ability.code := by
  induction entries with
  | nil => exact absurd nofun hentries
  | cons entry rest ih =>
      obtain ⟨key, value⟩ := entry
      by_cases hkey : ∃ ability : Ability, upper key = ability.code
      · have hrest : ¬ NamesAbilities rest := fun hrest =>
          hentries (List.forall_mem_cons.mpr ⟨hkey, hrest⟩)
        obtain ⟨before, other, old, after, rfl, hbefore, hother⟩ := ih hrest
        exact ⟨(key, value) :: before, other, old, after, rfl,
          List.forall_mem_cons.mpr ⟨hkey, hbefore⟩, hother⟩
      · exact ⟨[], key, value, rest, rfl, nofun, not_exists.mp hkey⟩

/-! ## Entering scores -/

theorem Ability.ofLabel?_text {key : String} {ability : Ability}
    (hkey : upper key = ability.code) : ofLabel? (.text key) = some ability := by
  have hread : ofCode? (upper key) = some ability := by rw [hkey, ofCode?_code]
  exact hread

theorem Ability.ofLabel?_text_eq_none {key : String}
    (hkey : ∀ ability : Ability, upper key ≠ ability.code) : ofLabel? (.text key) = none := by
  rw [Option.eq_none_iff_forall_ne_some]
  intro ability hlabel
  exact hkey ability (code_of_ofCode? hlabel).symm

theorem Ability.upper_code (ability : Ability) : upper ability.code = ability.code := by
  cases ability <;> decide

theorem Ability.code_injective : Function.Injective code := by
  intro a b hcode
  have hread := congrArg ofCode? hcode
  rwa [ofCode?_code, ofCode?_code, Option.some.injEq] at hread

namespace Scores

/-- The scores with the last value that is written for each ability in the place of the old one. -/
def overwrite (scores : Scores α) (entries : List (String × α)) : Scores α :=
  ofFn fun ability => (lastUnder? ability.code entries).getD (scores.get ability)

/-- Entering goes through the keys that name abilities, and on to what stands behind them. -/
theorem assign_append {before : List (String × α)} (hbefore : NamesAbilities before)
    (scores : Scores α) (rest : List (Label × α)) :
    scores.assign (labelled before ++ rest) = (scores.overwrite before).assign rest := by
  induction before generalizing scores with
  | nil =>
      have hnothing : scores.overwrite [] = scores := by
        ext ability
        exact get_ofFn _ ability
      rw [hnothing]
      rfl
  | cons entry before ih =>
      obtain ⟨key, value⟩ := entry
      obtain ⟨⟨ability, hkey⟩, hmore⟩ := List.forall_mem_cons.mp hbefore
      have hstep : scores.assign (labelled ((key, value) :: before) ++ rest) =
          (scores.set ability value).assign (labelled before ++ rest) := by
        simp only [labelled, List.map_cons, List.cons_append, assign,
          Ability.ofLabel?_text hkey]
      have hover : (scores.set ability value).overwrite before =
          scores.overwrite ((key, value) :: before) := by
        ext other
        simp only [overwrite, get_ofFn, get_set, lastUnder?_cons, hkey]
        cases lastUnder? other.code before with
        | some later => rfl
        | none =>
            by_cases hsame : other = ability
            · subst hsame
              simp
            · have hcode : ability.code ≠ other.code := fun hcode =>
                hsame (Ability.code_injective hcode.symm)
              simp [hsame, hcode]
      rw [hstep, ih hmore, hover]

theorem assign_eq_overwrite {entries : List (String × α)} (hentries : NamesAbilities entries)
    (scores : Scores α) : scores.assign (labelled entries) = (scores.overwrite entries, none) := by
  have hall := assign_append hentries scores []
  rwa [List.append_nil] at hall

theorem assign_eq_stopped {before after : List (String × α)} {key : String} {value : α}
    (hbefore : NamesAbilities before) (hkey : ∀ ability : Ability, upper key ≠ ability.code)
    (scores : Scores α) :
    scores.assign (labelled (before ++ (key, value) :: after)) =
      (scores.overwrite before, some (.text key)) := by
  have hsplit : labelled (before ++ (key, value) :: after) =
      labelled before ++ (.text key, value) :: labelled after := by
    simp only [labelled, List.map_append, List.map_cons]
  rw [hsplit, assign_append hbefore]
  simp only [assign, Ability.ofLabel?_text_eq_none hkey]

theorem namesAbilities_toList (scores : Scores α) : NamesAbilities scores.toList := by
  intro entry hentry
  obtain ⟨ability, -, rfl⟩ := List.mem_map.mp hentry
  exact ⟨ability, ability.upper_code⟩

theorem filter_toList (scores : Scores α) (ability : Ability) :
    scores.toList.filter (upper ·.1 = ability.code) = [(ability.code, scores.get ability)] := by
  have honly : Ability.all.filter (· = ability) = [ability] := by
    cases ability <;> decide
  simp only [toList, List.filter_map, Function.comp_def, Ability.upper_code,
    Ability.code_injective.eq_iff, honly, List.map_cons, List.map_nil]

theorem lastUnder?_toList (scores : Scores α) (ability : Ability) :
    lastUnder? ability.code scores.toList = some (scores.get ability) := by
  unfold lastUnder?
  rw [filter_toList]
  rfl

theorem overwrite_toList (old scores : Scores α) : old.overwrite scores.toList = scores := by
  ext ability
  simp only [overwrite, get_ofFn, lastUnder?_toList, Option.getD_some]

theorem namesAbilities_given (scores : Scores (Option α)) : NamesAbilities scores.given := by
  intro entry hentry
  obtain ⟨⟨code, score⟩, hrow, hentry⟩ := List.mem_filterMap.mp hentry
  obtain ⟨value, -, rfl⟩ := Option.map_eq_some_iff.mp hentry
  exact namesAbilities_toList scores (code, score) hrow

theorem filter_filterMap_rows (code : String) (rows : List (String × Option α)) :
    (rows.filterMap fun (key, score) => score.map fun value => (key, value)).filter
        (upper ·.1 = code) =
      (rows.filter (upper ·.1 = code)).filterMap
        fun (key, score) => score.map fun value => (key, value) := by
  induction rows with
  | nil => rfl
  | cons row rest ih =>
      obtain ⟨key, score⟩ := row
      by_cases hkey : upper key = code
      · cases score <;> simp [hkey, ih]
      · cases score <;> simp [hkey, ih]

theorem lastUnder?_given (scores : Scores (Option α)) (ability : Ability) :
    lastUnder? ability.code scores.given = scores.get ability := by
  have hrows := filter_toList scores ability
  unfold lastUnder? given
  rw [filter_filterMap_rows, hrows]
  cases scores.get ability <;> rfl

/-- The scores that there are take the place of the old ones, and no others do. -/
theorem overwrite_given (old : Scores α) (scores : Scores (Option α)) :
    old.overwrite scores.given = ofFn fun ability =>
      (scores.get ability).getD (old.get ability) := by
  ext ability
  simp only [overwrite, get_ofFn, lastUnder?_given]

theorem get?_toList (scores : Scores α) (code : String) :
    OrderedMap.get? scores.toList code = (Ability.ofCode? code).map scores.get := by
  cases hcode : Ability.ofCode? code with
  | some ability =>
      obtain rfl := Ability.code_of_ofCode? hcode
      cases ability <;> rfl
  | none =>
      unfold OrderedMap.get?
      rw [Option.map_none, List.lookup_eq_none_iff]
      intro entry hentry
      obtain ⟨ability, -, rfl⟩ := List.mem_map.mp hentry
      rw [bne_iff_ne]
      rintro rfl
      rw [Ability.ofCode?_code] at hcode
      contradiction

end Scores

/-! ## Sheets that a roll cannot tell apart -/

/-- No term of the expression, if it can be read, asks for the bonus. -/
def Dice.Throw.WithoutBonus (throw : Throw) (limits : Limits) : Prop :=
  ∀ terms, parseJson limits throw.expr = .ok terms → ∀ term ∈ terms, term.body ≠ .proficiency

/-- Two sheets have the same modifier under each code, or lack a score there for the same reason, so
that a roll which does not ask for the bonus comes out alike on the same samples. -/
structure Sheet.Alike (left right : Sheet) : Prop where
  modifier : ∀ code, left.modifier code = right.modifier code
  roll : ∀ (engine : Engine) (throw : Throw), throw.WithoutBonus engine.limits →
    engine.roll { throw with sheet := some left } = engine.roll { throw with sheet := some right }

section Alike

variable {left right : Sheet}

theorem resolve_eq_of_modifiers (hmodifier : ∀ code, left.modifier code = right.modifier code)
    {terms : List Term} (hterms : ∀ term ∈ terms, term.body ≠ .proficiency) :
    resolve (some left) terms = resolve (some right) terms := by
  induction terms with
  | nil => rfl
  | cons term rest ih =>
      obtain ⟨hterm, hrest⟩ := List.forall_mem_cons.mp hterms
      have hfirst : term.resolve (some left) = term.resolve (some right) := by
        unfold Term.resolve
        cases hbody : term.body with
        | dice count sides => rfl
        | number value => rfl
        | ability code => simp only [withActor, hmodifier]
        | proficiency => exact absurd hbody hterm
        | void => rfl
      simp only [resolve, hfirst, ih hrest]

theorem play_eq_of_modifiers (hmodifier : ∀ code, left.modifier code = right.modifier code)
    {limits : Limits} {expr : Json} (source : Random.Source)
    (hexpr : ∀ terms, parseJson limits expr = .ok terms →
      ∀ term ∈ terms, term.body ≠ .proficiency) :
    play limits expr (some left) source = play limits expr (some right) source := by
  unfold play
  split
  · rfl
  next terms hparse =>
    simp only [evaluate, resolve_eq_of_modifiers hmodifier (hexpr terms hparse)]

theorem Sheet.Alike.of_modifiers (hmodifier : ∀ code, left.modifier code = right.modifier code) :
    left.Alike right := by
  refine ⟨hmodifier, ?_⟩
  intro engine throw hthrow
  have hplay := fun source => play_eq_of_modifiers hmodifier source hthrow
  unfold Engine.roll
  simp only [hplay]

end Alike

/-! ## Scores that are written in a record -/

/-- A record that has only scores. -/
def scoreRecord (entries : List (String × Record)) : Record :=
  .mapping [(.text "abilities", .mapping (labelled entries))]

/-- The values under the same keys as they can be entered. -/
def plainly (entries : List (String × Record)) : List (String × Json) :=
  entries.map fun (key, score) => (key, score.toJson)

theorem Sheet.ofRecord?_scoreRecord (entries : List (String × Record)) :
    Sheet.ofRecord? (scoreRecord entries) =
      some ⟨OrderedMap.ofList ((plainly entries).map (Prod.map upper id)), .null⟩ := by
  have hrows : Sheet.scoreRows? [(.text "abilities", .mapping (labelled entries))] =
      some (labelled entries) := by
    cases entries <;> rfl
  have hbonus : ∀ rows : List (Label × Record),
      Record.find? [(.text "abilities", .mapping rows)] "profBonus" = none ∧
        Record.find? [(.text "abilities", .mapping rows)] "prof_bonus" = none :=
    fun rows => ⟨rfl, rfl⟩
  simp only [Sheet.ofRecord?, scoreRecord, Record.rows?, Option.bind_eq_bind, Option.bind_some,
    hrows, hbonus]
  simp only [labelled, plainly, List.map_map]
  rfl

theorem get?_ofList_upper (entries : List (String × α)) (code : String) :
    (OrderedMap.ofList (entries.map (Prod.map upper id))).get? code = lastUnder? code entries := by
  rw [OrderedMap.get?_ofList, List.filter_map, List.getLast?_map, Option.map_map]
  rfl

theorem lastUnder?_eq_none {entries : List (String × α)} (hentries : NamesAbilities entries)
    {code : String} (hcode : Ability.ofCode? code = none) : lastUnder? code entries = none := by
  have hnone : entries.filter (upper ·.1 = code) = [] := by
    rw [List.filter_eq_nil_iff]
    intro entry hentry hkey
    obtain ⟨ability, hability⟩ := hentries entry hentry
    rw [← of_decide_eq_true hkey, hability, Ability.ofCode?_code] at hcode
    contradiction
  unfold lastUnder?
  rw [hnone]
  rfl

theorem NamesAbilities.plainly {entries : List (String × Record)}
    (hentries : NamesAbilities entries) : NamesAbilities (plainly entries) := by
  intro entry hentry
  obtain ⟨written, hwritten, rfl⟩ := List.mem_map.mp hentry
  exact hentries written hwritten

/-- A blank score and one that is absent are no whole number. -/
theorem int?_score {entries : List (String × Json)} (hentries : NamesAbilities entries)
    (code : String) :
    (OrderedMap.get? ((Scores.const Json.null).overwrite entries).toList code).bind Json.int? =
      (lastUnder? code entries).bind Json.int? := by
  rw [Scores.get?_toList]
  cases hcode : Ability.ofCode? code with
  | none => rw [lastUnder?_eq_none hentries hcode, Option.map_none]
  | some ability =>
      obtain rfl := Ability.code_of_ofCode? hcode
      simp only [Option.map_some, Scores.overwrite, Scores.get_ofFn, Scores.get_const]
      cases lastUnder? ability.code entries <;> rfl

/-- Where entering scores leads: all of them are there, the last one for each ability, or those
that stand before the first key that names no ability. -/
structure Character.Enters (character : Character) (entries : List (String × Json)) : Prop where
  named : NamesAbilities entries →
    (character.assign (labelled entries)).2 = none ∧
    (character.assign (labelled entries)).1.bonus = character.bonus ∧
    ∀ ability, (character.assign (labelled entries)).1.scores.get ability =
      (lastUnder? ability.code entries).getD (character.scores.get ability)
  stopped : ¬ NamesAbilities entries → ∃ before key value after,
    entries = before ++ (key, value) :: after ∧ NamesAbilities before ∧
    (∀ ability : Ability, upper key ≠ ability.code) ∧
    character.assign (labelled entries) =
      ((character.assign (labelled before)).1, some (.text key))

theorem Character.assign_eq_overwrite {entries : List (String × Json)}
    (hentries : NamesAbilities entries) (character : Character) :
    character.assign (labelled entries) =
      ({ character with scores := character.scores.overwrite entries }, none) := by
  simp only [assign, Scores.assign_eq_overwrite hentries]

theorem Character.enters (character : Character) (entries : List (String × Json)) :
    character.Enters entries := by
  constructor
  · intro hentries
    rw [assign_eq_overwrite hentries]
    exact ⟨rfl, rfl, fun ability => Scores.get_ofFn _ ability⟩
  · intro hentries
    obtain ⟨before, key, value, after, rfl, hbefore, hkey⟩ :=
      exists_first_unnamed hentries
    refine ⟨before, key, value, after, rfl, hbefore, hkey, ?_⟩
    rw [assign_eq_overwrite hbefore]
    simp only [assign, Scores.assign_eq_stopped hbefore hkey]

/-- Scores that are entered into a blank character make the same rolls as the record of them. -/
theorem Character.blank_alike {entries : List (String × Record)} (bonus : Json)
    (hentries : NamesAbilities entries) :
    ∃ sheet, Sheet.ofRecord? (scoreRecord entries) = some sheet ∧
      ((blank bonus).assign (labelled (plainly entries))).1.sheet.Alike sheet := by
  refine ⟨_, Sheet.ofRecord?_scoreRecord entries, Sheet.Alike.of_modifiers ?_⟩
  intro code
  have hplain := hentries.plainly
  have hscore := int?_score hplain code
  rw [assign_eq_overwrite hplain]
  simp only [blank, sheet, Sheet.modifier, hscore, get?_ofList_upper]

/-- Scores under texts are entered up to the first text that names no ability.  Entering the scores
that are there changes nothing, and a blank character into which scores are entered rolls like the
record of these scores. -/
theorem scores_enter_as_recorded :
    (∀ character entries, Character.Enters character entries) ∧
    (∀ character : Character,
      character.assign (labelled character.scores.toList) = (character, none)) ∧
    ∀ (bonus : Json) (entries : List (String × Record)), NamesAbilities entries →
      ∃ sheet, Sheet.ofRecord? (scoreRecord entries) = some sheet ∧
        ((Character.blank bonus).assign (labelled (plainly entries))).1.sheet.Alike sheet := by
  refine ⟨Character.enters, ?_, fun bonus entries => Character.blank_alike bonus⟩
  intro character
  rw [Character.assign_eq_overwrite character.scores.namesAbilities_toList,
    Scores.overwrite_toList]

/-- The long s and the dotless i have plain capitals, so that two of the keys are one code. -/
theorem scores_enter_as_recorded_two_spellings :
    let entries : List (String × Record) :=
      [("str", .plain (.int 8)), ("w\u0131s", .plain (.int 12)), ("\u017ftr", .plain (.int 15))]
    NamesAbilities entries ∧
      ((Character.blank .null).assign (labelled (plainly entries))).1.scores.strength = .int 15 ∧
      ∃ sheet, Sheet.ofRecord? (scoreRecord entries) = some sheet ∧
        ((Character.blank .null).assign (labelled (plainly entries))).1.sheet.Alike sheet := by
  intro entries
  have hentries : NamesAbilities entries := by
    have hstr : upper "str" = Ability.strength.code := by decide
    have hwis : upper "w\u0131s" = Ability.wisdom.code := by decide
    have hlong : upper "\u017ftr" = Ability.strength.code := by decide
    exact List.forall_mem_cons.mpr ⟨⟨_, hstr⟩, List.forall_mem_cons.mpr ⟨⟨_, hwis⟩,
      List.forall_mem_cons.mpr ⟨⟨_, hlong⟩, nofun⟩⟩⟩
  obtain ⟨henters, -, hroll⟩ := scores_enter_as_recorded
  obtain ⟨-, -, hscores⟩ := (henters (.blank .null) (plainly entries)).named hentries.plainly
  refine ⟨hentries, (hscores .strength).trans ?_, hroll .null entries hentries⟩
  rfl

end Tabletop
