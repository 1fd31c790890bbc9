import Tabletop.Proofs.Dice.Completion
import Tabletop.Proofs.Service.Answers
import Mathlib

/-!
# How an order is decided

An order for a roll is looked at in one order.  An expression that cannot be read decides
alone; a sheet in the order decides which sheet is rolled with, and nothing is looked up;
only then an id is looked up, and only without one there is no sheet.  What comes later
does not matter to what was decided before, and what is given counts as given even if it
is zero or empty.
-/

namespace Tabletop

open Text Web

/-!
## Equality of values

Two values are equal if they are written in the same way, with the fields of records
in the same order.  Equality is decided by comparing them part by part.
-/

namespace Json

mutual

/-- Whether two values are equal. -/
def same : Json → Json → Bool
  | .null, .null => true
  | .bool a, .bool b => a == b
  | .int m, .int n => m == n
  | .float x, .float y => x == y
  | .str s, .str t => s == t
  | .broken string, .broken other => string == other
  | .list items, .list others => sameItems items others
  | .object fields, .object others => sameFields fields others
  | _, _ => false

def sameItems : List Json → List Json → Bool
  | [], [] => true
  | item :: rest, other :: others => same item other && sameItems rest others
  | _, _ => false

def sameFields : List (Loose × Json) → List (Loose × Json) → Bool
  | [], [] => true
  | (name, value) :: rest, (other, otherValue) :: others =>
    name == other && same value otherValue && sameFields rest others
  | _, _ => false

end

mutual

theorem same_iff : ∀ a b : Json, same a b = true ↔ a = b
  | .list items, b => by cases b <;> simp [same, sameItems_iff items]
  | .object fields, b => by cases b <;> simp [same, sameFields_iff fields]
  | .null, b => by cases b <;> simp [same]
  | .bool _, b => by cases b <;> simp [same]
  | .int _, b => by cases b <;> simp [same]
  | .float _, b => by cases b <;> simp [same]
  | .str _, b => by cases b <;> simp [same]
  | .broken _, b => by cases b <;> simp [same]

theorem sameItems_iff : ∀ items others : List Json, sameItems items others = true ↔ items = others
  | [], others => by cases others <;> simp [sameItems]
  | item :: rest, others => by
    cases others <;> simp [sameItems, same_iff item, sameItems_iff rest]

theorem sameFields_iff :
    ∀ fields others : List (Loose × Json), sameFields fields others = true ↔ fields = others
  | [], others => by cases others <;> simp [sameFields]
  | (name, value) :: rest, others => by
    cases others <;> simp [sameFields, same_iff value, sameFields_iff rest, Prod.ext_iff, and_assoc]

end

instance : DecidableEq Json := fun a b => decidable_of_iff (same a b = true) (same_iff a b)

end Json

namespace Web.Request

/-- The value in the body of a request, if there is JSON. -/
def json? (request : Request) : Option Json :=
  match request.payload with
  | .ok (.json value) => some value
  | _ => none

theorem json?_eq_some_iff {request : Request} {value : Json} :
    request.json? = some value ↔ request.payload = .ok (.json value) := by
  unfold json?
  split
  next other hpayload => simp [hpayload]
  next hother => simpa using fun hpayload => hother value hpayload

end Web.Request

open Dice Validation Tabletop.Random

/-! ## What is given -/

namespace RollOrder

/-- The value that a record has under the first of some names that it has, unless it is null. -/
def given? (json : Json) (names : List String) : Option Json :=
  match json with
  | .object fields =>
    match findField? fields names with
    | some (_, .null) => none
    | some (_, value) => some value
    | none => none
  | _ => none

/-- An order holds what a value gives, each part read in its own way, and nothing else. -/
structure Given (json : Json) (order : RollOrder) : Prop where
  expr : order.expr = (given? json ["expr"]).getD .null
  seed : Option.Rel (fun value seed => readSeed value = .ok seed) (given? json ["seed"]) order.seed
  actorId : Option.Rel (fun value id => Whole.ofJson value = .ok id)
    (given? json ["actorId", "actor_id"]) order.actorId
  sheet : Option.Rel (fun value sheet => readSheet value = .ok sheet)
    (given? json ["actor"]) order.sheet

theorem rel_of_optional {α : Type} {fields : OrderedMap Loose Json} {names : List String}
    {read : Json → Checked α} {x : Option α}
    (hread : optional fields names (orNull read) none = .ok x) :
    Option.Rel (fun value y => read value = .ok y) (given? (.object fields) names) x := by
  rcases optional_eq_ok_iff.mp hread with ⟨hnone, rfl⟩ | ⟨name, value, hfound, hvalue⟩
  · simp only [given?, hnone]
    exact .none
  · rcases orNull_eq_ok_iff.mp hvalue with ⟨rfl, rfl⟩ | ⟨hnull, y, hy, rfl⟩
    · simp only [given?, hfound]
      exact .none
    · have hgiven : given? (.object fields) names = some value := by
        simp only [given?, hfound]
      rw [hgiven]
      exact .some hy

theorem given_of_ofJson {json : Json} {order : RollOrder} (hread : ofJson json = .ok order) :
    Given json order := by
  obtain ⟨fields, hfields, hread⟩ := Except.bind_eq_ok_iff.mp hread
  obtain ⟨⟨expr, seed, actorId, sheet⟩, hboth, rfl⟩ := Except.map_eq_ok_iff.mp hread
  simp only [Checked.both_eq_ok] at hboth
  obtain ⟨hexpr, hseed, hactorId, hsheet⟩ := hboth
  obtain rfl := fieldsOf_eq_ok_iff.mp hfields
  refine ⟨?_, rel_of_optional hseed, rel_of_optional hactorId, rel_of_optional hsheet⟩
  rcases optional_eq_ok_iff.mp hexpr with ⟨hnone, rfl⟩ | ⟨name, value, hfound, hvalue⟩
  · simp only [given?, hnone, Option.getD_none]
  · obtain rfl := Except.ok.inj hvalue
    simp only [given?, hfound]
    cases value <;> rfl

end RollOrder

namespace Service

/-! ## Refusals and what they show -/

/-- A refusal can be written exactly if it shows no part of a string that is no text. -/
theorem isText_ofInvalidRoll {cause : InvalidRoll} :
    isText (DomainError.ofInvalidRoll cause).toJson = true ↔ cause.IsText := by
  constructor
  · intro hjson fragment hfragment
    cases fragment with
    | text value => exact ⟨value, rfl⟩
    | broken string =>
        have hdetails := InvalidRoll.details_of_fragment hfragment
        simp [DomainError.toJson, DomainError.ofInvalidRoll, hdetails, Json.record, Json.ofLoose,
          isText, fieldsAreText] at hjson
  · intro htext
    cases hfragment : cause.fragment? with
    | some fragment =>
        obtain ⟨value, rfl⟩ := htext fragment hfragment
        cases cause <;> cases hfragment <;> rfl
    | none => cases cause <;> cases hfragment <;> rfl

theorem Failure.ofDice_of_isText {cause : InvalidRoll} (htext : cause.IsText) :
    Failure.ofDice (.invalid cause) = .refused (.domain (.ofInvalidRoll cause)) :=
  if_pos (isText_ofInvalidRoll.mpr htext)

theorem Failure.ofDice_of_not_isText {cause : InvalidRoll} (htext : ¬ cause.IsText) :
    Failure.ofDice (.invalid cause) = .crashed (.unwritable .string) :=
  if_neg fun hjson => htext (isText_ofInvalidRoll.mp hjson)

/-! ## Expressions that cannot be read -/

theorem checkExpression_of_parse {limits : Limits} {expr : Json} {terms : List Term}
    (hparse : parseJson limits expr = .ok terms) : checkExpression limits expr = .ok () := by
  simp only [checkExpression, hparse]

theorem checkExpression_of_unreadable {limits : Limits} {expr : Json} {cause : InvalidRoll}
    (hparse : parseJson limits expr = .error cause) :
    checkExpression limits expr = .error (.ofDice (.invalid cause)) := by
  simp only [checkExpression, hparse]

/-! ## Answers -/

/-- Somebody who is signed in sends a value to be rolled. -/
structure Sends (service : Service) (client : String) (request : Request) (json : Json) :
    Prop where
  user : ∃ user, service.requester client request = some user
  route : Route.of request.method request.target = .endpoint (.call .roll)
  body : request.json? = some json

/-- What is sent can be read as an order. -/
structure Asks (service : Service) (client : String) (request : Request) (json : Json)
    (order : RollOrder) : Prop extends Sends service client request json where
  read : RollOrder.ofJson json = .ok order

/-- How a request is answered, and the source after it. -/
def outcome (service : Service) (client : String) (request : Request) :
    Except Crash Response × Source :=
  ((service.handle client request).1, (service.handle client request).2.source)

/-- What the engine makes of an expression with a sheet. -/
def engineOutcome (engine : Engine) (expr : Json) (seed : Option OrderedSeed)
    (sheet : Option Sheet) : Except Crash Response × Source :=
  match usableSeed seed with
  | .error failure => (failure.reply, engine.source)
  | .ok seed =>
    let outcome := engine.roll { expr, sheet, seed }
    match outcome.result with
    | .ok roll => (.ok (.json 200 roll.toJson), outcome.engine.source)
    | .error fault => ((Failure.ofDice fault).reply, outcome.engine.source)

section Asks

variable {service : Service} {client : String} {request : Request} {json : Json}
  {order : RollOrder} {failure : Failure}

theorem Sends.outcome_eq (hsends : Sends service client request json) :
    service.outcome client request =
      match prepareRoll service.store service.engine.limits (.json json) with
      | .error failure => (failure.reply, service.source)
      | .ok throw =>
        match (service.engine.roll throw).result with
        | .ok roll => (.ok (.json 200 roll.toJson), (service.engine.roll throw).engine.source)
        | .error fault =>
          ((Failure.ofDice fault).reply, (service.engine.roll throw).engine.source) := by
  obtain ⟨user, huser⟩ := hsends.user
  obtain ⟨hreply, -, hsource⟩ :=
    handle_of_user hsends.route (Request.json?_eq_some_iff.mp hsends.body) huser
  rw [outcome, hreply, hsource]
  simp only [answerCall, roll, Turn.still]
  cases prepareRoll service.store service.engine.limits (.json json) with
  | error failure => rfl
  | ok throw =>
      simp only
      cases (service.engine.roll throw).result <;> rfl

theorem Asks.granted_eq (hasks : Asks service client request json order) :
    granted "body" (Payload.read RollOrder.ofJson (.json json)) = .ok order :=
  granted_eq_ok_iff.mpr hasks.read

/-- How an order is prepared, step by step. -/
theorem Asks.prepareRoll_eq (hasks : Asks service client request json order) :
    prepareRoll service.store service.engine.limits (.json json) = (do
      checkExpression service.settings.limits order.expr
      let sheet ← sheetOf service.store order
      let seed ← usableSeed order.seed
      return { expr := order.expr, sheet, seed }) := by
  rw [prepareRoll, hasks.granted_eq]
  rfl

theorem Asks.outcome_of_unreadable (hasks : Asks service client request json order)
    (hcheck : checkExpression service.settings.limits order.expr = .error failure) :
    service.outcome client request = (failure.reply, service.source) := by
  rw [hasks.toSends.outcome_eq, hasks.prepareRoll_eq, hcheck]
  rfl

theorem Asks.outcome_of_lost (hasks : Asks service client request json order)
    (hcheck : checkExpression service.settings.limits order.expr = .ok ())
    (hsheet : sheetOf service.store order = .error failure) :
    service.outcome client request = (failure.reply, service.source) := by
  rw [hasks.toSends.outcome_eq, hasks.prepareRoll_eq, hcheck, hsheet]
  rfl

theorem Asks.outcome_of_sheet (hasks : Asks service client request json order)
    (hcheck : checkExpression service.settings.limits order.expr = .ok ()) {sheet : Option Sheet}
    (hsheet : sheetOf service.store order = .ok sheet) :
    service.outcome client request =
      engineOutcome service.engine order.expr order.seed sheet := by
  rw [hasks.toSends.outcome_eq, hasks.prepareRoll_eq, hcheck, hsheet, engineOutcome]
  cases usableSeed order.seed <;> rfl

end Asks

/-! ## Sources -/

/-- A failure that is seen has a certain status. -/
def ShownAs (n : Nat) (failure : Failure) : Prop :=
  ∀ response, failure.reply = .ok response → response.status = n

theorem ofDice_shownAs (cause : InvalidRoll) : ShownAs 400 (.ofDice (.invalid cause)) := by
  intro response hreply
  by_cases htext : cause.IsText
  · rw [Failure.ofDice_of_isText htext] at hreply
    obtain rfl := Except.ok.inj hreply
    rfl
  · rw [Failure.ofDice_of_not_isText htext] at hreply
    cases hreply

theorem engineOutcome_seeded (engine : Engine) (expr : Json) (seed : OrderedSeed)
    (sheet : Option Sheet) : (engineOutcome engine expr (some seed) sheet).2 = engine.source := by
  cases seed with
  | broken => rfl
  | seed seed =>
      simp only [engineOutcome, usableSeed]
      split <;> simp [Engine.roll_engine]

/-- Without a seed, an answer that shows a roll has used one sample for each die in it, and any
other answer none. -/
theorem engineOutcome_unseeded {engine : Engine} {expr : Json} {sheet : Option Sheet}
    {response : Response} (hreply : (engineOutcome engine expr none sheet).1 = .ok response) :
    (∃ roll : Roll, response = .json 200 roll.toJson ∧
      (engineOutcome engine expr none sheet).2 =
        engine.source.skip (diceOf roll.parts).length) ∨
    response.status = 400 ∧ (engineOutcome engine expr none sheet).2 = engine.source := by
  have hengine := engine.roll_engine { expr, sheet }
  simp only [Option.isNone_none, and_self, if_true] at hengine
  cases hresult : (engine.roll { expr, sheet }).result with
  | ok roll =>
      simp only [engineOutcome, usableSeed, hresult] at hreply ⊢
      obtain rfl := Except.ok.inj hreply
      rw [Engine.roll_result] at hresult
      obtain ⟨-, -, -, -, -, hsource⟩ := play_eq_ok hresult
      refine .inl ⟨roll, rfl, ?_⟩
      rw [hengine]
      exact hsource
  | error fault =>
      simp only [engineOutcome, usableSeed, hresult] at hreply ⊢
      cases fault with
      | invalid cause =>
          rw [Engine.roll_result] at hresult
          refine .inr ⟨ofDice_shownAs cause response hreply, ?_⟩
          rw [hengine]
          exact source_of_play_invalid hresult
      | _ => cases hreply

/-- With a fit source and a seed that is a text or a number, the engine rolls, or it refuses
what the sheet lacks. -/
theorem engineOutcome_cases (engine : Engine) {expr : Json} {terms : List Term}
    {seed : Option OrderedSeed} (sheet : Option Sheet)
    (hparse : parseJson engine.limits expr = .ok terms) (hseed : seed ≠ some .broken)
    (hsource : seed = none → engine.source.InUnitInterval) :
    (∃ roll : Roll, (engineOutcome engine expr seed sheet).1 = .ok (.json 200 roll.toJson)) ∨
      Lacks sheet ∧ ∃ cause, (engineOutcome engine expr seed sheet).1 =
        .ok (Refusal.domain (.ofInvalidRoll cause)).response := by
  obtain ⟨usable, husable, hfit⟩ : ∃ usable, usableSeed seed = .ok usable ∧
      (engine.sourceFor { expr, sheet, seed := usable }).InUnitInterval := by
    cases seed with
    | none => exact ⟨none, rfl, hsource rfl⟩
    | some ordered =>
        cases ordered with
        | broken => exact absurd rfl hseed
        | seed seed => exact ⟨some seed, rfl, Source.inUnitInterval_ofSeed seed⟩
  simp only [engineOutcome, husable, Engine.roll_result]
  rcases play_cases sheet hparse hfit with ⟨roll, hroll⟩ | ⟨hlacks, cause, hcause⟩
  · rw [hroll]
    exact .inl ⟨roll, rfl⟩
  · have hreply : (Failure.ofDice (.invalid cause)).reply =
        .ok (Refusal.domain (.ofInvalidRoll cause)).response := by
      rw [Failure.ofDice_of_isText (isText_of_play hparse hcause)]
      rfl
    rw [hcause]
    exact .inr ⟨hlacks, cause, hreply⟩

/-! ## Decisions -/

/-- How an order is decided, from the first reason to the last. -/
structure Decided (service : Service) (json : Json) (order : RollOrder)
    (answer : Except Crash Response × Source) : Prop where
  given : order.Given json
  unreadable : ∀ cause, (∀ string, order.expr ≠ .broken string) →
    parseJson service.settings.limits order.expr = .error cause →
    answer = (.ok (Refusal.domain (.ofInvalidRoll cause)).response, service.source)
  /-- A string with half of a pair is not read either, but the refusal may have to show that half,
  and then there is none. -/
  halved : ∀ string, order.expr = .broken string →
    ∃ cause : InvalidRoll, parse service.settings.limits (.broken string) = .error cause ∧
      (cause.IsText →
        answer = (.ok (Refusal.domain (.ofInvalidRoll cause)).response, service.source)) ∧
      (¬ cause.IsText → answer = (.error (.unwritable .string), service.source))
  inline : ∀ terms sheet, parseJson service.settings.limits order.expr = .ok terms →
    order.sheet = some sheet →
    answer = engineOutcome service.engine order.expr order.seed (some sheet)
  stored : ∀ terms id actor, parseJson service.settings.limits order.expr = .ok terms →
    order.sheet = none → order.actorId = some id →
    service.store.findActor (.int id) = .ok (some actor) →
    answer = engineOutcome service.engine order.expr order.seed (some actor.profile.sheet)
  unknown : ∀ terms id, parseJson service.settings.limits order.expr = .ok terms →
    order.sheet = none → order.actorId = some id →
    service.store.findActor (.int id) = .ok none →
    answer = (.ok (Refusal.domain (.actorNotFound (.int id))).response, service.source)
  tooLarge : ∀ terms id, parseJson service.settings.limits order.expr = .ok terms →
    order.sheet = none → order.actorId = some id → ¬ Cell.holds id →
    answer = (.error (.store (.tooLarge id)), service.source)
  alone : ∀ terms, parseJson service.settings.limits order.expr = .ok terms →
    order.sheet = none → order.actorId = none →
    answer = engineOutcome service.engine order.expr order.seed none
  /-- What the engine makes of it is a roll or a refusal, if it gets samples and a seed to go by. -/
  engine : ∀ terms sheet, parseJson service.settings.limits order.expr = .ok terms →
    order.seed ≠ some .broken → (order.seed = none → service.source.InUnitInterval) →
    (∃ roll : Roll, (engineOutcome service.engine order.expr order.seed sheet).1 =
        .ok (.json 200 roll.toJson)) ∨
      ∃ cause, (engineOutcome service.engine order.expr order.seed sheet).1 =
        .ok (Refusal.domain (.ofInvalidRoll cause)).response
  seeded : order.seed ≠ none → answer.2 = service.source
  unseeded : ∀ response, order.seed = none → answer.1 = .ok response →
    (∃ roll : Roll, response = .json 200 roll.toJson ∧
      answer.2 = service.source.skip (diceOf roll.parts).length) ∨
    (response.status = 400 ∨ response.status = 404) ∧ answer.2 = service.source

section Decided

variable {service : Service} {client : String} {request : Request} {json : Json}
  {order : RollOrder}

/-- How an order may end: before anything is looked up, when its sheet is looked for, or with the
engine. -/
inductive Ending (service : Service) (order : RollOrder) (answer : Except Crash Response × Source) :
    Prop where
  | unreadable {failure : Failure}
      (hcheck : checkExpression service.settings.limits order.expr = .error failure)
      (hanswer : answer = (failure.reply, service.source))
  | lost {failure : Failure} (hsheet : sheetOf service.store order = .error failure)
      (hanswer : answer = (failure.reply, service.source))
  | played {sheet : Option Sheet}
      (hanswer : answer = engineOutcome service.engine order.expr order.seed sheet)

theorem Asks.ending (hasks : Asks service client request json order) :
    Ending service order (service.outcome client request) := by
  cases hcheck : checkExpression service.settings.limits order.expr with
  | error failure => exact .unreadable hcheck (hasks.outcome_of_unreadable hcheck)
  | ok _ =>
      cases hsheet : sheetOf service.store order with
      | error failure => exact .lost hsheet (hasks.outcome_of_lost hcheck hsheet)
      | ok sheet => exact .played (hasks.outcome_of_sheet hcheck hsheet)

theorem checkExpression_shownAs (limits : Limits) (expr : Json) :
    Except.FailsOnly (ShownAs 400) (checkExpression limits expr) := by
  unfold checkExpression
  split
  · exact Except.failsOnly_ok _
  · exact Except.failsOnly_error (ofDice_shownAs _)

theorem sheetOf_shownAs (store : Store) (order : RollOrder) :
    Except.FailsOnly (ShownAs 404) (sheetOf store order) := by
  unfold sheetOf
  split
  · exact Except.failsOnly_ok _
  · exact Except.failsOnly_ok _
  · refine Except.FailsOnly.bind (Except.failsOnly_mapError (fun _ => nofun) _) ?_
    intro found hfound
    cases found with
    | some actor => exact Except.failsOnly_ok _
    | none =>
        apply Except.failsOnly_error
        rintro _ ⟨⟩
        rfl

theorem decided_of_asks (hasks : Asks service client request json order) :
    Decided service json order (service.outcome client request) := by
  refine ⟨RollOrder.given_of_ofJson hasks.read, ?unreadable, ?halved, ?inline, ?stored, ?unknown,
    ?tooLarge, ?alone, ?engine, ?seeded, ?unseeded⟩
  case unreadable =>
    intro cause hexpr hparse
    have htext := parseJson_isText _ hexpr cause hparse
    rw [hasks.outcome_of_unreadable (checkExpression_of_unreadable hparse),
      Failure.ofDice_of_isText htext]
    rfl
  case halved =>
    intro string hexpr
    obtain ⟨cause, hparse⟩ := parse_broken service.settings.limits string
    have hread : parseJson service.settings.limits order.expr = .error cause := by
      rw [hexpr]
      exact hparse
    have hanswer := hasks.outcome_of_unreadable (checkExpression_of_unreadable hread)
    refine ⟨cause, hparse, ?_, ?_⟩
    · intro htext
      rw [hanswer, Failure.ofDice_of_isText htext]
      rfl
    · intro htext
      rw [hanswer, Failure.ofDice_of_not_isText htext]
      rfl
  case inline =>
    intro terms sheet hparse hsheet
    apply hasks.outcome_of_sheet (checkExpression_of_parse hparse)
    simp only [sheetOf, hsheet]
  case stored =>
    intro terms id actor hparse hsheet hid hfound
    apply hasks.outcome_of_sheet (checkExpression_of_parse hparse)
    simp only [sheetOf, hsheet, hid, hfound]
    rfl
  case unknown =>
    intro terms id hparse hsheet hid hfound
    have hlost : sheetOf service.store order =
        .error (.refused (.domain (.actorNotFound (.int id)))) := by
      simp only [sheetOf, hsheet, hid, hfound]
      rfl
    exact hasks.outcome_of_lost (checkExpression_of_parse hparse) hlost
  case tooLarge =>
    intro terms id hparse hsheet hid hholds
    have hlost : sheetOf service.store order = .error (.ofStore (.tooLarge id)) := by
      simp only [sheetOf, hsheet, hid, Store.findActor_int, if_neg hholds]
      rfl
    exact hasks.outcome_of_lost (checkExpression_of_parse hparse) hlost
  case alone =>
    intro terms hparse hsheet hid
    apply hasks.outcome_of_sheet (checkExpression_of_parse hparse)
    simp only [sheetOf, hsheet, hid]
  case engine =>
    intro terms sheet hparse hseed hsource
    rcases engineOutcome_cases service.engine sheet hparse hseed hsource with hroll | ⟨-, hrefused⟩
    · exact .inl hroll
    · exact .inr hrefused
  case seeded =>
    intro hseed
    obtain ⟨seed, hsome⟩ := Option.ne_none_iff_exists'.mp hseed
    cases hasks.ending with
    | unreadable hcheck hanswer => rw [hanswer]
    | lost hsheet hanswer => rw [hanswer]
    | played hanswer =>
        rw [hanswer, hsome]
        exact engineOutcome_seeded _ _ _ _
  case unseeded =>
    intro response hseed hreply
    cases hasks.ending with
    | unreadable hcheck hanswer =>
        rw [hanswer] at hreply ⊢
        exact .inr ⟨.inl (checkExpression_shownAs _ _ _ hcheck response hreply), rfl⟩
    | lost hsheet hanswer =>
        rw [hanswer] at hreply ⊢
        exact .inr ⟨.inr (sheetOf_shownAs _ _ _ hsheet response hreply), rfl⟩
    | played hanswer =>
        rw [hanswer, hseed] at hreply ⊢
        rcases engineOutcome_unseeded hreply with hroll | ⟨hstatus, hsource⟩
        · exact .inl hroll
        · exact .inr ⟨.inl hstatus, hsource⟩

end Decided

/-- Every order is decided in turn: nothing that another order of the same expression differs in
changes what was decided before it is looked at. -/
theorem order_decided_in_turn {service : Service} {client : String} {request : Request}
    {json : Json} {order : RollOrder} (hasks : Asks service client request json order) :
    Decided service json order (service.outcome client request) ∧
      ∀ other visitor sent value second, Asks other visitor sent value second →
        other.engine = service.engine → second.expr = order.expr →
        ((∀ terms, parseJson service.settings.limits order.expr ≠ .ok terms) →
          other.outcome visitor sent = service.outcome client request) ∧
        (∀ sheet, order.sheet = some sheet → second.sheet = some sheet →
          second.seed = order.seed →
          other.outcome visitor sent = service.outcome client request) := by
  refine ⟨decided_of_asks hasks, ?_⟩
  intro other visitor sent value second hsecond hengine hexpr
  have hlimits : other.settings.limits = service.settings.limits := congrArg Engine.limits hengine
  have hsource : other.source = service.source := congrArg Engine.source hengine
  have hunreadable : ∀ failure,
      checkExpression service.settings.limits order.expr = .error failure →
      other.outcome visitor sent = service.outcome client request := by
    intro failure hcheck
    have hother : checkExpression other.settings.limits second.expr = .error failure := by
      rw [hlimits, hexpr, hcheck]
    rw [hasks.outcome_of_unreadable hcheck, hsecond.outcome_of_unreadable hother, hsource]
  constructor
  · intro hunread
    cases hparse : parseJson service.settings.limits order.expr with
    | error cause => exact hunreadable _ (checkExpression_of_unreadable hparse)
    | ok terms => exact absurd hparse (hunread terms)
  · intro sheet hsheet hsame hseed
    cases hcheck : checkExpression service.settings.limits order.expr with
    | error failure => exact hunreadable failure hcheck
    | ok _ =>
        have hother : checkExpression other.settings.limits second.expr = .ok () := by
          rw [hlimits, hexpr, hcheck]
        have hfirst : sheetOf service.store order = .ok (some sheet) := by
          simp only [sheetOf, hsheet]
        have hlast : sheetOf other.store second = .ok (some sheet) := by
          simp only [sheetOf, hsame]
        rw [hasks.outcome_of_sheet hcheck hfirst, hsecond.outcome_of_sheet hother hlast, hengine,
          hexpr, hseed]

/-- Ann's order has an empty sheet, an id of no actor and a seed, and the last two are zero. -/
theorem order_decided_in_turn_zeros :
    let service := (Service.mk {} {} [] (.stream (fun _ => .ofGrid 0) 0)).run [
      .addUser (.str "Ann") .null,
      .request "ann" {
        method := "POST"
        target := ⟨"http://test", "test", "test.local", "/dev/login".toList, []⟩
        mediaType := "application/x-www-form-urlencoded"
        body := "user_id=1".toUTF8.toList }]
    let request : Request := {
      method := "POST"
      target := ⟨"http://test", "test", "test.local", "/api/dice/roll".toList, []⟩
      mediaType := "application/json"
      body :=
        "\x7b\"expr\": \"1d6\", \"seed\": 0, \"actorId\": 0, \"actor\": \x7b\x7d\x7d".toUTF8.toList }
    let json : Json := .record [("expr", .str "1d6"), ("seed", .int 0), ("actorId", .int 0),
      ("actor", .record [])]
    let order : RollOrder := ⟨.str "1d6", some (.seed (.number 0)), some 0, some ⟨[], .null⟩⟩
    Asks service "ann" request json order ∧
      Decided service json order (service.outcome "ann" request) := by
  intro service request json order
  have hasks : Asks service "ann" request json order :=
    ⟨⟨⟨⟨1, "Ann"⟩, by decide +kernel⟩, by decide +kernel, by decide +kernel⟩, by rfl⟩
  exact ⟨hasks, (order_decided_in_turn hasks).1⟩

/-- Ann's expression is half of a pair of surrogates.  It cannot be read, but there is no refusal
either. -/
theorem unreadable_order_unanswered :
    ¬ ∀ service client request json order, Asks service client request json order →
      (∀ terms, parseJson service.settings.limits order.expr ≠ .ok terms) →
      service.status? client request = some 400 := by
  intro hall
  let service := (Service.mk {} {} [] (.stream (fun _ => .ofGrid 0) 0)).run [
    .addUser (.str "Ann") .null,
    .request "ann" {
      method := "POST"
      target := ⟨"http://test", "test", "test.local", "/dev/login".toList, []⟩
      mediaType := "application/x-www-form-urlencoded"
      body := "user_id=1".toUTF8.toList }]
  let request : Request := {
    method := "POST"
    target := ⟨"http://test", "test", "test.local", "/api/dice/roll".toList, []⟩
    mediaType := "application/json"
    body := "\x7b\"expr\": \"\\ud800\"\x7d".toUTF8.toList }
  let json : Json := .record [("expr", .broken { codes := [0xD800] })]
  let order : RollOrder := ⟨.broken { codes := [0xD800] }, none, none, none⟩
  have hasks : Asks service "ann" request json order :=
    ⟨⟨⟨⟨1, "Ann"⟩, by decide +kernel⟩, by decide +kernel, by decide +kernel⟩, by rfl⟩
  have hstatus : service.status? "ann" request = none := by decide +kernel
  have hrefused := hall service "ann" request json order hasks nofun
  rw [hstatus] at hrefused
  cases hrefused

end Service

end Tabletop
