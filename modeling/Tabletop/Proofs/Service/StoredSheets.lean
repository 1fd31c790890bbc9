import Tabletop.Proofs.Service.Decision
import Tabletop.Proofs.Service.Validity
import Mathlib

/-!
# Rolls of stored actors

The row of a sound profile makes a complete sheet: it has every score that an expression
can ask for, and the bonus.  So a stored actor can roll whatever can be read.  What is
shown of the row is read back as the same sheet, so it makes no difference whether a
client names the actor or hands in the scores and the bonus that it was shown.
-/

namespace Tabletop

open Dice Text Validation Web Tabletop.Random

/-! ## Sheets of sound profiles -/

theorem Scores.lookup_map_toList {α β : Type} (f : α → β) (scores : Scores α)
    (ability : Ability) :
    List.lookup ability.code (scores.toList.map fun (code, score) => (code, f score)) =
      some (f (scores.get ability)) := by
  cases ability <;> rfl

theorem Profile.Sound.complete {profile : Profile} (hsound : profile.Sound) :
    profile.sheet.Complete := by
  constructor
  · intro ability
    obtain ⟨n, hscore, -⟩ := hsound.scores ability
    refine ⟨n, (Scores.lookup_map_toList Cell.toJson profile.scores ability).trans ?_⟩
    rw [hscore]
    rfl
  · obtain ⟨n, hbonus⟩ := hsound.bonus
    exact ⟨n, congrArg Cell.toJson hbonus⟩

namespace Service

/-! ## What a stored actor can roll -/

/-- A roll succeeds exactly if its expression can be read, and otherwise it is refused for what is
wrong with the expression. -/
structure DecidedByExpression (limits : Limits) (expr : Json) (reply : Except Crash Response) :
    Prop where
  rolls_iff : (∃ response, reply = .ok response ∧ response.status = 200) ↔
    ∃ terms, parseJson limits expr = .ok terms
  refused : ∀ cause, (∀ string, expr ≠ .broken string) → parseJson limits expr = .error cause →
    reply = .ok (Refusal.domain (.ofInvalidRoll cause)).response
  /-- With half of a pair in it, the refusal may not be writable. -/
  halved : ∀ string, expr = .broken string →
    ∃ cause : InvalidRoll, parse limits (.broken string) = .error cause ∧
      (cause.IsText → reply = .ok (Refusal.domain (.ofInvalidRoll cause)).response) ∧
      (¬ cause.IsText → reply = .error (.unwritable .string))

section Rolls

variable {service : Service} {client : String} {request : Request} {json : Json}
  {order : RollOrder}

theorem parse_of_engineOutcome {engine : Engine} {expr : Json} {seed : Option OrderedSeed}
    {sheet : Option Sheet} {response : Response}
    (hreply : (engineOutcome engine expr seed sheet).1 = .ok response)
    (hstatus : response.status = 200) : ∃ terms, parseJson engine.limits expr = .ok terms := by
  unfold engineOutcome at hreply
  split at hreply
  next failure hseed =>
    -- A seed that is no text has no answer at all.
    cases failure with
    | refused reason =>
        obtain rfl := Except.ok.inj hreply
        have hle := reason.le_status
        omega
    | crashed crash => cases hreply
  next usable hseed =>
    simp only at hreply
    split at hreply
    next roll hroll =>
      rw [Engine.roll_result] at hroll
      obtain ⟨text, terms, rfl, hparse, -⟩ := play_eq_ok hroll
      exact ⟨terms, hparse⟩
    next fault hfault =>
      have hle := Failure.le_status hreply
      omega

/-- Whatever sheet is found, only an expression that can be read is rolled. -/
theorem Asks.parse_of_status (hasks : Asks service client request json order)
    {response : Response} (hreply : (service.handle client request).1 = .ok response)
    (hstatus : response.status = 200) :
    ∃ terms, parseJson service.settings.limits order.expr = .ok terms := by
  have houtcome : (service.outcome client request).1 = .ok response := hreply
  cases hasks.ending with
  | @unreadable failure hcheck hanswer =>
      rw [hanswer] at houtcome
      have hle := Failure.le_status houtcome
      omega
  | @lost failure hsheet hanswer =>
      rw [hanswer] at houtcome
      have hle := Failure.le_status houtcome
      omega
  | played hanswer =>
      rw [hanswer] at houtcome
      exact parse_of_engineOutcome houtcome hstatus

theorem Asks.decidedByExpression (hasks : Asks service client request json order)
    {id : Int} {actor : Actor} (hsheet : order.sheet = none) (hid : order.actorId = some id)
    (hfound : service.store.findActor (.int id) = .ok (some actor))
    (hsound : actor.profile.Sound) (hseed : order.seed ≠ some .broken)
    (hsource : order.seed = none → service.source.InUnitInterval) :
    DecidedByExpression service.settings.limits order.expr (service.handle client request).1 := by
  have hdecided := decided_of_asks hasks
  have hreply : (service.outcome client request).1 = (service.handle client request).1 := rfl
  refine ⟨⟨?_, ?_⟩, ?_, ?_⟩
  · rintro ⟨response, hresponse, hstatus⟩
    exact hasks.parse_of_status hresponse hstatus
  · rintro ⟨terms, hparse⟩
    rw [← hreply, hdecided.stored terms id actor hparse hsheet hid hfound]
    rcases engineOutcome_cases service.engine (some actor.profile.sheet) hparse hseed hsource with
      ⟨roll, hroll⟩ | ⟨hlacks, -⟩
    · exact ⟨_, hroll, rfl⟩
    · exact absurd hsound.complete (hlacks _ rfl)
  · intro cause htext hparse
    rw [← hreply, hdecided.unreadable cause htext hparse]
  · intro string hexpr
    obtain ⟨cause, hparse, hrefused, hcrashed⟩ := hdecided.halved string hexpr
    refine ⟨cause, hparse, ?_, ?_⟩
    · intro htext
      rw [← hreply, hrefused htext]
    · intro htext
      rw [← hreply, hcrashed htext]

end Rolls

/-! ## The source of a run -/

section Sources

variable {service : Service}

theorem roll_follows (store : Store) (engine : Engine) (payload : Payload) :
    Follows (roll store engine payload).2.source engine.source := by
  unfold roll
  split
  · exact .refl engine.source
  next throw hthrow =>
    simp only
    split
    · exact engine.roll_follows throw
    · exact engine.roll_follows throw

theorem answerCall_follows (service : Service) (session : Session) (user : User)
    (payload : Payload) (call : Call) :
    Follows (answerCall service session user payload call).source service.source := by
  have hstoring : ∀ work, (Turn.storing service session work).source = service.source :=
    fun _ => rfl
  cases call with
  | roll => exact roll_follows service.store service.engine payload
  | listActors => exact .refl service.source
  | showActor id => exact .refl service.source
  | createActor =>
      simp only [answerCall, hstoring]
      exact .refl service.source
  | changeActor id =>
      simp only [answerCall, hstoring]
      exact .refl service.source
  | deleteActor id =>
      simp only [answerCall, hstoring]
      exact .refl service.source

theorem visit_follows (service : Service) (session : Session) (request : Request)
    (endpoint : Endpoint) :
    Follows (visit service session request endpoint).source service.source := by
  cases endpoint with
  | index => exact .refl service.source
  | loginPage => exact .refl service.source
  | login =>
      simp only [visit]
      split <;> exact .refl service.source
  | logout =>
      simp only [visit]
      split <;> exact .refl service.source
  | call call =>
      simp only [visit]
      split
      · simp only [authorize]
        split
        · exact answerCall_follows _ _ _ _ _
        · exact .refl service.source
      · exact .refl service.source

theorem handle_follows (service : Service) (client : String) (request : Request) :
    Follows (service.handle client request).2.source service.source := by
  simp only [handle, answer]
  cases Route.of request.method request.target with
  | endpoint asked => exact visit_follows _ _ _ _
  | manual | wrongMethod | redirect | unknown => exact .refl service.source

/-- Nothing but rolls of clients draws from the source. -/
theorem step_follows (service : Service) (event : Event) :
    Follows (service.step event).source service.source := by
  cases event with
  | request client request => exact handle_follows service client request
  | addUser name id =>
      simp only [step]
      split <;> exact .refl service.source
  | removeUser id =>
      simp only [step]
      split <;> exact .refl service.source
  | addActor new =>
      simp only [step]
      split <;> exact .refl service.source
  | pass now => exact .refl service.source

theorem run_follows (service : Service) (events : List Event) :
    Follows (service.run events).source service.source := by
  induction events using List.reverseRecOn with
  | nil => exact .refl service.source
  | append_singleton rest event ih =>
      rw [run_concat]
      exact (step_follows _ event).trans ih

end Sources

/-- From a table without actors and a source in `[0, 1)` on, if what is added from inside has whole
numbers, every stored actor can roll whatever can be read. -/
theorem stored_actor_rolls {start : Service} {events : List Event} {client : String}
    {request : Request} {json : Json} {order : RollOrder} {id : Int} {actor : Actor}
    (hkeyed : start.store.Keyed) (hnone : start.store.actors = [])
    (hsource : start.source.InUnitInterval) (hwholes : ∀ event ∈ events, event.AddsWholes)
    (hasks : Asks (start.run events) client request json order)
    (hsheet : order.sheet = none) (hid : order.actorId = some id)
    (hfound : (start.run events).store.findActor (.int id) = .ok (some actor))
    (hseed : order.seed ≠ some .broken) :
    DecidedByExpression (start.run events).settings.limits order.expr
      ((start.run events).handle client request).1 := by
  have hmem := List.mem_of_find?_eq_some (Store.findActor_int_eq_ok_iff.mp hfound).2
  have hsound := (ValidRows.run hkeyed hnone hwholes).sound actor hmem
  have hfit := (run_follows start events).inUnitInterval hsource
  exact hasks.decidedByExpression hsheet hid hfound hsound hseed fun _ => hfit

/-- Ann's cat comes from inside with some scores, and she orders a roll with it. -/
theorem stored_actor_rolls_cat :
    let start : Service := ⟨{}, {}, [], .stream (fun _ => .ofGrid 0) 0⟩
    let ask (path mediaType body : String) : Request := {
      method := "POST"
      target := ⟨"http://test", "test", "test.local", path.toList, []⟩
      mediaType := mediaType
      body := body.toUTF8.toList }
    let events := [
      .addUser (.str "Ann") .null,
      .addActor { ownerId := .int 1, name := .str "Cat", scores := .const (.int 14) },
      .request "ann" (ask "/dev/login" "application/x-www-form-urlencoded" "user_id=1")]
    let request := ask "/api/dice/roll" "application/json"
      "\x7b\"expr\": \"1d20+DEX+PROF\", \"actorId\": 1\x7d"
    DecidedByExpression (start.run events).settings.limits (.str "1d20+DEX+PROF")
      ((start.run events).handle "ann" request).1 := by
  intro start ask events request
  have hwholes : ∀ event ∈ events, event.AddsWholes := by
    simp only [events, List.forall_mem_cons, Event.AddsWholes]
    exact ⟨trivial, ⟨fun ability => .inr ⟨14, Scores.get_const _ ability⟩, .inl rfl⟩, trivial,
      by simp⟩
  have hsource : start.source.InUnitInterval :=
    Source.inUnitInterval_stream (fun _ => Sample.inUnitInterval_ofGrid (by decide)) 0
  let json : Json := .record [("expr", .str "1d20+DEX+PROF"), ("actorId", .int 1)]
  let order : RollOrder := ⟨.str "1d20+DEX+PROF", none, some 1, none⟩
  have hasks : Asks (start.run events) "ann" request json order :=
    ⟨⟨⟨⟨1, "Ann"⟩, by decide +kernel⟩, by decide +kernel, by decide +kernel⟩, by rfl⟩
  have hfound : (start.run events).store.findActor (.int 1) =
      .ok (some ⟨1, .int 1, ⟨"Cat", .const (.int 14), .int 2⟩, 0, 0⟩) :=
    Store.findActor_int_eq_ok_iff.mpr (by decide +kernel)
  have hseed : order.seed ≠ some .broken := by rintro ⟨⟩
  exact stored_actor_rolls Store.keyed_empty rfl hsource hwholes hasks rfl rfl hfound hseed

/-- An expression with half of a pair of surrogates cannot be read, and Ann's cat gets no refusal
for it either. -/
theorem stored_actor_unanswered :
    ¬ ∀ (start : Service) events client request json order id actor,
      start.store.Keyed → start.store.actors = [] → start.source.InUnitInterval →
      (∀ event ∈ events, Event.AddsWholes event) →
      Asks (start.run events) client request json order →
      order.sheet = none → order.actorId = some id →
      (start.run events).store.findActor (.int id) = .ok (some actor) →
      order.seed ≠ some .broken →
      (∀ terms, parseJson (start.run events).settings.limits order.expr ≠ .ok terms) →
      (start.run events).status? client request = some 400 := by
  intro hall
  let start : Service := ⟨{}, {}, [], .stream (fun _ => .ofGrid 0) 0⟩
  let ask (path mediaType body : String) : Request := {
    method := "POST"
    target := ⟨"http://test", "test", "test.local", path.toList, []⟩
    mediaType := mediaType
    body := body.toUTF8.toList }
  let events : List Event := [
    .addUser (.str "Ann") .null,
    .request "ann" (ask "/dev/login" "application/x-www-form-urlencoded" "user_id=1"),
    .request "ann" (ask "/api/actors" "application/json" "\x7b\"name\": \"Cat\"\x7d")]
  let request := ask "/api/dice/roll" "application/json"
    "\x7b\"expr\": \"\\ud800\", \"actorId\": 1\x7d"
  let json : Json := .record [("expr", .broken { codes := [0xD800] }), ("actorId", .int 1)]
  let order : RollOrder := ⟨.broken { codes := [0xD800] }, none, some 1, none⟩
  have hwholes : ∀ event ∈ events, event.AddsWholes := by
    simp [events, Event.AddsWholes]
  have hsource : start.source.InUnitInterval :=
    Source.inUnitInterval_stream (fun _ => Sample.inUnitInterval_ofGrid (by decide)) 0
  have hasks : Asks (start.run events) "ann" request json order :=
    ⟨⟨⟨⟨1, "Ann"⟩, by decide +kernel⟩, by decide +kernel, by decide +kernel⟩, by rfl⟩
  have hfound : (start.run events).store.findActor (.int 1) =
      .ok (some ⟨1, .int 1, ⟨"Cat", .const (.int 10), .int 2⟩, 0, 0⟩) :=
    Store.findActor_int_eq_ok_iff.mpr (by decide +kernel)
  have hseed : order.seed ≠ some .broken := by rintro ⟨⟩
  have hunread : ∀ terms, parseJson (start.run events).settings.limits order.expr ≠ .ok terms := by
    rintro terms ⟨⟩
  have hstatus : (start.run events).status? "ann" request = none := by decide +kernel
  have hrefused := hall start events "ann" request json order 1 _ Store.keyed_empty rfl hsource
    hwholes hasks rfl rfl hfound hseed hunread
  rw [hstatus] at hrefused
  cases hrefused

/-! ## Sheets in orders -/

/-- The parts of the document of an actor that make a sheet. -/
def inlineSheet (document : Json) : Json :=
  .record [("abilities", (document.get? "abilities").getD .null),
    ("profBonus", (document.get? "profBonus").getD .null)]

/-- The sheet that is read from the document of a sound actor is that of its row. -/
theorem readSheet_inlineSheet {actor : Actor} (hsound : actor.profile.Sound) :
    RollOrder.readSheet (inlineSheet (actorJson actor)) = .ok actor.profile.sheet := by
  obtain ⟨id, ownerId, ⟨name, ⟨str, dex, con, int, wis, cha⟩, bonus⟩, created, updated⟩ := actor
  obtain ⟨_, rfl⟩ := hsound.bonus
  obtain ⟨_, rfl, -⟩ := hsound.scores .strength
  obtain ⟨_, rfl, -⟩ := hsound.scores .dexterity
  obtain ⟨_, rfl, -⟩ := hsound.scores .constitution
  obtain ⟨_, rfl, -⟩ := hsound.scores .intelligence
  obtain ⟨_, rfl, -⟩ := hsound.scores .wisdom
  obtain ⟨_, rfl, -⟩ := hsound.scores .charisma
  rfl

/-- The fields that two orders share which differ in where their sheet comes from. -/
def sharedFields (expr : Json) (seed : Option Json) : List (String × Json) :=
  ("expr", expr) :: (seed.map fun seed => ("seed", seed)).toList

/-- An order for a roll with the sheet of a stored actor. -/
def orderById (expr : Json) (seed : Option Json) (id : Int) : Json :=
  .record (sharedFields expr seed ++ [("actorId", .int id)])

/-- An order for a roll with the sheet that the document of an actor shows. -/
def orderInline (expr : Json) (seed : Option Json) (document : Json) : Json :=
  .record (sharedFields expr seed ++ [("actor", inlineSheet document)])

/-- How the seed in the shared fields is read. -/
def readShared (seed : Option Json) : Checked (Option OrderedSeed) :=
  match seed with
  | none => .ok none
  | some value => (orNull RollOrder.readSeed value).inside "seed"

section Orders

variable {store : Store} {id : Int} {actor : Actor} {document : Json} {sheet : Sheet}

/-- An order whose other parts can be read is read as its seed is. -/
theorem ofJson_of_parts {fields : OrderedMap Loose Json} {expr : Json} {actorId : Option Int}
    {sheet : Option Sheet} (hexpr : optional fields ["expr"] .ok .null = .ok expr)
    (hactorId : optional fields ["actorId", "actor_id"] (orNull Whole.ofJson) none = .ok actorId)
    (hsheet : optional fields ["actor"] (orNull RollOrder.readSheet) none = .ok sheet) :
    RollOrder.ofJson (.object fields) =
      (optional fields ["seed"] (orNull RollOrder.readSeed) none).map
        fun seed => ⟨expr, seed, actorId, sheet⟩ := by
  simp only [RollOrder.ofJson, fieldsOf, Except.bind, hexpr, hactorId, hsheet]
  cases optional fields ["seed"] (orNull RollOrder.readSeed) none <;> rfl

theorem ofJson_orderById (expr : Json) (seed : Option Json) (id : Int) :
    RollOrder.ofJson (orderById expr seed id) =
      (readShared seed).map fun seed => ⟨expr, seed, some id, none⟩ := by
  cases seed with
  | none => exact ofJson_of_parts rfl rfl rfl
  | some value => exact ofJson_of_parts rfl rfl rfl

theorem ofJson_orderInline (hsheet : RollOrder.readSheet (inlineSheet document) = .ok sheet)
    (expr : Json) (seed : Option Json) :
    RollOrder.ofJson (orderInline expr seed document) =
      (readShared seed).map fun seed => ⟨expr, seed, none, some sheet⟩ := by
  have hread : (orNull RollOrder.readSheet (inlineSheet document)).inside "actor" =
      .ok (some sheet) := by
    rw [Checked.inside_eq_ok]
    exact orNull_eq_ok_iff.mpr (.inr ⟨nofun, sheet, hsheet, rfl⟩)
  cases seed with
  | none => exact ofJson_of_parts rfl rfl hread
  | some value => exact ofJson_of_parts rfl rfl hread

/-- An order by the id of a sound actor is prepared as one with what is shown of that actor. -/
theorem prepareRoll_orderById (hsound : actor.profile.Sound)
    (hfound : store.findActor (.int id) = .ok (some actor)) (limits : Limits) (expr : Json)
    (seed : Option Json) :
    prepareRoll store limits (.json (orderById expr seed id)) =
      prepareRoll store limits (.json (orderInline expr seed (actorJson actor))) := by
  simp only [prepareRoll, Payload.read, ofJson_orderById,
    ofJson_orderInline (readSheet_inlineSheet hsound)]
  cases readShared seed with
  | error issues => rfl
  | ok seed =>
      show (checkExpression limits expr >>= _) = (checkExpression limits expr >>= _)
      cases checkExpression limits expr with
      | error failure => rfl
      | ok _ =>
          show (sheetOf store ⟨expr, seed, some id, none⟩ >>= _) = _
          simp only [sheetOf, hfound]
          rfl

end Orders

/-- From a table without actors on, if what is added from inside has whole numbers, it makes no
difference whether an order names a stored actor or brings along what is shown of it.  Scores and
bonuses have columns for whole numbers, which `AddsWholes` says of what is added: a score of 12.5
would be kept in such a column, and an order may name its actor, but not bring it along. -/
theorem stored_and_inline_agree {start : Service} {events : List Event} {client : String}
    {look : Request} {text : String} {id : Int} {actor : Actor}
    (hkeyed : start.store.Keyed) (hnone : start.store.actors = [])
    (hwholes : ∀ event ∈ events, event.AddsWholes)
    (huser : ∃ user, (start.run events).requester client look = some user)
    (hroute : Route.of look.method look.target = .endpoint (.call (.showActor text)))
    (hid : readActorId text = .ok id)
    (hfound : (start.run events).store.findActor (.int id) = .ok (some actor)) :
    ∃ document, ((start.run events).handle client look).1 = .ok (.json 200 document) ∧
      ∀ expr seed stored inline,
        Sends (start.run events) client stored (orderById expr seed id) →
        Sends (start.run events) client inline (orderInline expr seed document) →
        (start.run events).outcome client stored = (start.run events).outcome client inline := by
  obtain ⟨user, huser⟩ := huser
  obtain ⟨hholds, hactor⟩ := Store.findActor_int_eq_ok_iff.mp hfound
  have hmem := List.mem_of_find?_eq_some hactor
  have hsound := (ValidRows.run hkeyed hnone hwholes).sound actor hmem
  refine ⟨actorJson actor, ?_, ?_⟩
  · rw [reply_of_showActor huser hroute hid hholds, hactor]
    rfl
  · intro expr seed stored inline hstored hinline
    rw [hstored.outcome_eq, hinline.outcome_eq, prepareRoll_orderById hsound hfound]

/-- Ann looks at her cat, and rolls with its id and with what she is shown. -/
theorem stored_and_inline_agree_cat :
    let start : Service := ⟨{}, {}, [], .stream (fun _ => .ofGrid 0) 0⟩
    let ask (method path mediaType body : String) : Request := {
      method := method
      target := ⟨"http://test", "test", "test.local", path.toList, []⟩
      mediaType := mediaType
      body := body.toUTF8.toList }
    let events := [
      .addUser (.str "Ann") .null,
      .request "ann" (ask "POST" "/dev/login" "application/x-www-form-urlencoded" "user_id=1"),
      .request "ann" (ask "POST" "/api/actors" "application/json"
        "\x7b\"name\": \"Cat\", \"abilities\": \x7b\"DEX\": 14\x7d\x7d")]
    let service := start.run events
    let look := ask "GET" "/api/actors/1" "" ""
    let profile : Profile := ⟨"Cat", .set (.const (.int 10)) .dexterity (.int 14), .int 2⟩
    let cat : Actor := ⟨1, .int 1, profile, 0, 0⟩
    let stored := ask "POST" "/api/dice/roll" "application/json"
      "\x7b\"expr\": \"1d20+DEX+PROF\", \"seed\": \"luck\", \"actorId\": 1\x7d"
    let inline := ask "POST" "/api/dice/roll" "application/json" <|
      "\x7b\"expr\": \"1d20+DEX+PROF\", \"seed\": \"luck\", \"actor\": \x7b\"abilities\": " ++
      "\x7b\"STR\": 10, \"DEX\": 14, \"CON\": 10, \"INT\": 10, \"WIS\": 10, \"CHA\": 10\x7d, " ++
      "\"profBonus\": 2\x7d\x7d"
    (service.handle "ann" look).1 = .ok (.json 200 (actorJson cat)) ∧
      service.outcome "ann" stored = service.outcome "ann" inline := by
  intro start ask events service look profile cat stored inline
  have hwholes : ∀ event ∈ events, event.AddsWholes := by
    simp [events, Event.AddsWholes]
  have huser : service.requester "ann" look = some ⟨1, "Ann"⟩ := by decide +kernel
  have hroute : Route.of look.method look.target = .endpoint (.call (.showActor "1")) := by
    decide +kernel
  have hid : readActorId "1" = .ok 1 := by rfl
  have hactor : service.store.actor? 1 = some cat := by decide +kernel
  have hcat : (service.handle "ann" look).1 = .ok (.json 200 (actorJson cat)) := by
    rw [reply_of_showActor huser hroute hid (by decide), hactor]
    rfl
  obtain ⟨document, hshown, hagree⟩ := stored_and_inline_agree Store.keyed_empty rfl hwholes
    ⟨_, huser⟩ hroute hid (Store.findActor_int_eq_ok_iff.mpr ⟨by decide, hactor⟩)
  have hdocument : document = actorJson cat := by
    have hboth := Except.ok.inj (hshown.symm.trans hcat)
    exact Content.json.inj (congrArg Response.content hboth)
  refine ⟨hcat, hagree (.str "1d20+DEX+PROF") (some (.str "luck")) stored inline ?_ ?_⟩
  · exact ⟨⟨⟨1, "Ann"⟩, by decide +kernel⟩, by decide +kernel, by decide +kernel⟩
  · rw [hdocument]
    exact ⟨⟨⟨1, "Ann"⟩, by decide +kernel⟩, by decide +kernel, by decide +kernel⟩

end Service
end Tabletop
