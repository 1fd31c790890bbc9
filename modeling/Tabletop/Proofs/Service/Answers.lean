import Tabletop.Proofs.Service.Writes
import Mathlib

/-!
# How calls are answered

A call is answered in three steps.  A body that cannot be read is refused before
anybody asks who sent it, a client without a user is refused with the status 401,
and only then the call is carried out.  From there on no failure is one of
authentication, so the status 401 says exactly that nobody was found.
-/

namespace Tabletop
namespace Web

/-!
## Routes and what they lead to

Every endpoint has one place and one method.  A request leads to the endpoint
exactly if its path names the place and it has the method.
-/

def Endpoint.place : Endpoint → Place
  | .index => .index
  | .loginPage => .login
  | .login => .login
  | .logout => .logout
  | .call .listActors => .actors
  | .call .createActor => .actors
  | .call (.showActor id) => .actor id
  | .call (.changeActor id) => .actor id
  | .call (.deleteActor id) => .actor id
  | .call .roll => .roll

def Endpoint.method : Endpoint → String
  | .index => "GET"
  | .loginPage => "GET"
  | .login => "POST"
  | .logout => "POST"
  | .call .listActors => "GET"
  | .call .createActor => "POST"
  | .call (.showActor _) => "GET"
  | .call (.changeActor _) => "PATCH"
  | .call (.deleteActor _) => "DELETE"
  | .call .roll => "POST"

theorem Place.endpoint?_eq_some_iff {place : Place} {method : String} {asked : Endpoint} :
    place.endpoint? method = some asked ↔ asked.place = place ∧ asked.method = method := by
  constructor
  · intro hasked
    unfold Place.endpoint? at hasked
    split at hasked
    case h_11 => cases hasked
    all_goals
      obtain rfl := Option.some.inj hasked
      exact ⟨rfl, rfl⟩
  · rintro ⟨rfl, rfl⟩
    rcases asked with _ | _ | _ | _ | (_ | _ | _ | _ | _ | _) <;> rfl

theorem Route.of_eq_endpoint_iff {method : String} {target : Target} {asked : Endpoint} :
    Route.of method target = .endpoint asked ↔
      Place.ofPath? target.readablePath = some asked.place ∧ method = asked.method := by
  simp only [Route.of]
  cases Place.ofPath? target.readablePath with
  | none =>
      simp only [reduceCtorEq, false_and, iff_false]
      split <;> simp
  | some place =>
      have hleads : place.endpoint? method = some asked ↔
          some place = some asked.place ∧ method = asked.method := by
        rw [Place.endpoint?_eq_some_iff, Option.some.injEq]
        exact and_congr eq_comm eq_comm
      rw [← hleads]
      dsimp only
      cases place.endpoint? method with
      | none => cases place.manual? method <;> simp
      | some other => simp

/-- Nothing is done on a request for the head alone, so every endpoint's answer is seen whole. -/
theorem Route.method_ne_head {method : String} {target : Target} {asked : Endpoint}
    (hroute : Route.of method target = .endpoint asked) : method ≠ "HEAD" := by
  rw [(Route.of_eq_endpoint_iff.mp hroute).2]
  rcases asked with _ | _ | _ | _ | (_ | _ | _ | _ | _ | _) <;> simp [Endpoint.method]

end Web

/-! ## Failures and what they show -/

namespace Web

@[simp] theorem Response.seenBy_status (method : String) (response : Response) :
    (response.seenBy method).status = response.status := by
  unfold Response.seenBy
  split <;> rfl

theorem Response.seenBy_of_ne {method : String} (hmethod : method ≠ "HEAD")
    (response : Response) : response.seenBy method = response := if_neg hmethod

theorem Refusal.le_status (reason : Refusal) : 400 ≤ reason.response.status := by
  cases reason with
  | domain error =>
      show 400 ≤ error.kind.status
      cases error.kind <;> decide
  | _ => simp [Refusal.response, Response.detail, Response.json]

theorem Refusal.status_eq_iff {reason : Refusal} :
    reason.response.status = 401 ↔ reason = .notAuthenticated := by
  cases reason with
  | domain error =>
      have hother : error.kind.status ≠ 401 := by cases error.kind <;> decide
      simpa [Refusal.response, Response.json] using hother
  | _ => simp [Refusal.response, Response.detail, Response.json]

theorem Failure.le_status {failure : Failure} {response : Response}
    (hreply : failure.reply = .ok response) : 400 ≤ response.status := by
  cases failure with
  | refused reason =>
      obtain rfl := Except.ok.inj hreply
      exact reason.le_status
  | crashed crash => cases hreply

/-- A form that cannot be read is refused as such. -/
theorem Request.form_fails (request : Request) :
    Except.FailsOnly (fun refusal => ∃ fault, refusal = .badForm fault) request.form := by
  have hbad : ∀ form : Except FormFault Form, Except.FailsOnly
      (fun refusal => ∃ fault, refusal = .badForm fault) (form.mapError Refusal.badForm) :=
    fun form => Except.failsOnly_mapError (fun fault => ⟨fault, rfl⟩) form
  simp only [Request.form]
  split
  · exact hbad _
  · split
    · exact hbad _
    · exact Except.failsOnly_ok _

/-- A failure of somebody who is signed in. -/
def Failure.IsLate (failure : Failure) : Prop := failure ≠ .refused .notAuthenticated

theorem Failure.isLate_refused {reason : Refusal} (h : reason ≠ .notAuthenticated) :
    (Failure.refused reason).IsLate := by
  intro hsame
  exact h (Failure.refused.inj hsame)

theorem Failure.isLate_crashed (crash : Crash) : (Failure.crashed crash).IsLate := nofun

/-- A failure of somebody who is signed in and who breaks no rule of the store.  At most a number
had more than 64 bits. -/
structure Failure.IsMild (failure : Failure) : Prop where
  late : failure.IsLate
  store : ∀ cause, failure = .crashed (.store cause) → ∃ n, cause = .tooLarge n

theorem Failure.isMild_refused {reason : Refusal} (h : reason ≠ .notAuthenticated) :
    (Failure.refused reason).IsMild := ⟨isLate_refused h, nofun⟩

theorem Failure.isMild_tooLarge (n : Int) : (Failure.ofStore (.tooLarge n)).IsMild := by
  refine ⟨isLate_crashed _, ?_⟩
  rintro _ ⟨⟩
  exact ⟨n, rfl⟩

theorem Failure.isMild_unwritable (cause : Unwritable) :
    (Failure.crashed (.unwritable cause)).IsMild := ⟨nofun, nofun⟩

theorem Failure.isMild_ofIssues (issues : List Validation.Issue) :
    (Failure.ofIssues issues).IsMild := by
  unfold Failure.ofIssues
  split
  · exact isMild_unwritable _
  · exact isMild_refused nofun

theorem Failure.isMild_ofDomain (error : DomainError) : (Failure.ofDomain error).IsMild := by
  unfold Failure.ofDomain
  split_ifs
  · exact isMild_refused nofun
  · exact isMild_unwritable _

theorem Failure.isMild_ofDice (fault : Dice.Fault) : (Failure.ofDice fault).IsMild := by
  cases fault with
  | invalid cause => exact isMild_ofDomain _
  | _ => exact ⟨nofun, nofun⟩

theorem Failure.IsLate.status_ne {failure : Failure} (hlate : failure.IsLate)
    {response : Response} (hreply : failure.reply = .ok response) : response.status ≠ 401 := by
  cases failure with
  | refused reason =>
      obtain rfl := Except.ok.inj hreply
      intro hstatus
      exact hlate (congrArg Failure.refused (Refusal.status_eq_iff.mp hstatus))
  | crashed crash => cases hreply

end Web

namespace Service

open Dice Validation Web

/-! ## Failures of calls -/

section Failures

variable {store : Store} {user : User} {payload : Payload}

theorem granted_isMild {α : Type} (place : String) (checked : Checked α) :
    Except.FailsOnly Failure.IsMild (granted place checked) :=
  Except.failsOnly_mapError Failure.isMild_ofIssues _

theorem findUser_isMild (id : Int) :
    Except.FailsOnly Failure.IsMild ((store.findUser (.int id)).mapError Failure.ofStore) := by
  rw [Store.findUser_int]
  split
  · exact Except.failsOnly_ok _
  · exact Except.failsOnly_error (Failure.isMild_tooLarge id)

theorem findActor_isMild (id : Int) :
    Except.FailsOnly Failure.IsMild ((store.findActor (.int id)).mapError Failure.ofStore) := by
  rw [Store.findActor_int]
  split
  · exact Except.failsOnly_ok _
  · exact Except.failsOnly_error (Failure.isMild_tooLarge id)

theorem cleanName_isMild (name : String) : Except.FailsOnly Failure.IsMild (cleanName name) := by
  simp only [cleanName]
  split
  · exact Except.failsOnly_error (Failure.isMild_refused nofun)
  · exact Except.failsOnly_ok _

theorem cleanPatch_isMild (patch : Patch) :
    Except.FailsOnly Failure.IsMild (cleanPatch patch) := by
  unfold cleanPatch
  split
  · exact Except.failsOnly_ok _
  · exact (cleanName_isMild _).map _

theorem actorAt_isMild (id : Int) : Except.FailsOnly Failure.IsMild (actorAt store id) := by
  unfold actorAt
  refine (findActor_isMild id).bind ?_
  intro found hfound
  cases found with
  | none => exact Except.failsOnly_error (Failure.isMild_refused nofun)
  | some actor => exact Except.failsOnly_ok _

theorem ownActorAt_isMild (id : Int) :
    Except.FailsOnly Failure.IsMild (ownActorAt store user id) := by
  unfold ownActorAt
  refine (actorAt_isMild id).bind ?_
  intro actor hactor
  split
  · exact Except.failsOnly_ok _
  · exact Except.failsOnly_error (Failure.isMild_refused nofun)

/-- A profile that was read lacks nothing, so the store has nothing against it. -/
theorem createAtOnce_isMild :
    Except.FailsOnly Failure.IsMild (createAtOnce store user payload) := by
  unfold createAtOnce
  refine (granted_isMild _ _).bind ?_
  intro profile hprofile
  refine (cleanName_isMild _).bind ?_
  intro name hname
  obtain ⟨json, -, hread⟩ := Payload.read_eq_ok_iff.mp (granted_eq_ok_iff.mp hprofile)
  obtain ⟨hsound, -, hbonus⟩ := Profile.ofJson_eq_ok hread
  rw [Store.addActor_of_profile store user.id name hsound hbonus]
  split
  · exact Except.failsOnly_ok _
  · exact Except.failsOnly_error (Failure.isMild_tooLarge _)

theorem showActor_isMild (id : String) :
    Except.FailsOnly Failure.IsMild (showActor store id) := by
  unfold showActor
  refine (granted_isMild _ _).bind ?_
  intro id hid
  refine (actorAt_isMild id).bind ?_
  intro actor hactor
  exact Except.failsOnly_ok _

/-- What is left of a change, once its patch is clean, fails only if the store refuses a score. -/
theorem changeAtOnce_fails {p : Failure → Prop} (hmild : ∀ failure, failure.IsMild → p failure)
    (hupdate : ∀ id actor patch clean cause, payload.read Patch.ofJson = .ok patch →
      store.actor? id = some actor → cleanPatch patch = .ok clean →
      store.updateActor actor (clean.apply actor.profile) = .error cause → p (.ofStore cause))
    (id : String) : Except.FailsOnly p (changeAtOnce store user id payload) := by
  unfold changeAtOnce
  refine ((Except.failsOnly_mapError Failure.isMild_ofIssues _).mono hmild).bind ?_
  rintro ⟨id, patch⟩ hchange
  refine ((ownActorAt_isMild _).mono hmild).bind ?_
  intro actor hactor
  refine ((cleanPatch_isMild _).mono hmild).bind ?_
  intro clean hclean
  have hrefused : Except.FailsOnly
      (fun cause => store.updateActor actor (clean.apply actor.profile) = .error cause)
      (store.updateActor actor (clean.apply actor.profile)) := fun _ hcause => hcause
  refine (hrefused.mapError ?_).bind ?_
  · intro cause hcause
    exact hupdate id actor patch clean cause (readChange_eq_ok_iff.mp hchange).2
      (ownActorAt_eq_ok hactor).1 hclean hcause
  · intro stored hstored
    exact Except.failsOnly_ok _

theorem deleteAtOnce_isMild (id : String) :
    Except.FailsOnly Failure.IsMild (deleteAtOnce store user id) := by
  unfold deleteAtOnce
  refine (granted_isMild _ _).bind ?_
  intro id hid
  refine (ownActorAt_isMild id).bind ?_
  intro actor hactor
  exact Except.failsOnly_ok _

theorem checkExpression_isMild (limits : Limits) (expr : Json) :
    Except.FailsOnly Failure.IsMild (checkExpression limits expr) := by
  unfold checkExpression
  split
  · exact Except.failsOnly_ok _
  · exact Except.failsOnly_error (Failure.isMild_ofDice _)

theorem sheetOf_isMild (order : RollOrder) :
    Except.FailsOnly Failure.IsMild (sheetOf store order) := by
  unfold sheetOf
  split
  · exact Except.failsOnly_ok _
  · exact Except.failsOnly_ok _
  · refine (findActor_isMild _).bind ?_
    intro found hfound
    cases found with
    | none => exact Except.failsOnly_error (Failure.isMild_ofDomain _)
    | some actor => exact Except.failsOnly_ok _

theorem usableSeed_isMild (seed : Option OrderedSeed) :
    Except.FailsOnly Failure.IsMild (usableSeed seed) := by
  unfold usableSeed
  split
  · exact Except.failsOnly_ok _
  · exact Except.failsOnly_ok _
  · exact Except.failsOnly_error (Failure.isMild_unwritable _)

theorem prepareRoll_isMild (limits : Limits) :
    Except.FailsOnly Failure.IsMild (prepareRoll store limits payload) := by
  unfold prepareRoll
  refine (granted_isMild _ _).bind ?_
  intro order horder
  refine (checkExpression_isMild limits _).bind ?_
  intro _ hcheck
  refine (sheetOf_isMild order).bind ?_
  intro sheet hsheet
  refine (usableSeed_isMild _).bind ?_
  intro seed hseed
  exact Except.failsOnly_ok _

theorem roll_isMild (engine : Engine) :
    Except.FailsOnly Failure.IsMild (roll store engine payload).1 := by
  unfold roll
  split
  next failure hfailure =>
    exact Except.failsOnly_error (prepareRoll_isMild engine.limits failure hfailure)
  next throw hthrow =>
    simp only
    split
    · exact Except.failsOnly_ok _
    · exact Except.failsOnly_error (Failure.isMild_ofDice _)

end Failures

/-! ## Calls that are carried out -/

/-- What is looked for under an id of 64 bits is found, or said to be unknown. -/
theorem actorAt_of_holds {store : Store} {id : Int} (hholds : Cell.holds id) :
    actorAt store id =
      (store.actor? id).elim (.error (.refused .unknownActor)) .ok := by
  unfold actorAt
  rw [Store.findActor_int, if_pos hholds]
  cases store.actor? id <;> rfl

theorem showActor_of_holds {store : Store} {text : String} {id : Int}
    (hid : readActorId text = .ok id) (hholds : Cell.holds id) :
    showActor store text = (store.actor? id).elim (.error (.refused .unknownActor))
      fun actor => .ok (.json 200 (actorJson actor)) := by
  have hgranted : granted "path" (readActorId text) = .ok id := granted_eq_ok_iff.mpr hid
  unfold showActor
  rw [hgranted]
  show actorAt store id >>= _ = _
  rw [actorAt_of_holds hholds]
  cases store.actor? id <;> rfl

theorem ownActorAt_of_owned {store : Store} {user : User} {id : Int} {actor : Actor}
    (hholds : Cell.holds id) (hfound : store.actor? id = some actor)
    (howned : actor.isOwnedBy user.id) : ownActorAt store user id = .ok actor := by
  unfold ownActorAt
  rw [actorAt_of_holds hholds, hfound]
  exact if_pos howned

/-- A patch with a name that is all blank is refused, whatever else it carries. -/
theorem changeAtOnce_of_blankName {store : Store} {user : User} {payload : Payload}
    {text name : String} {id : Int} {patch : Patch} {actor : Actor}
    (hid : readActorId text = .ok id) (hread : payload.read Patch.ofJson = .ok patch)
    (hholds : Cell.holds id) (hfound : store.actor? id = some actor)
    (howned : actor.isOwnedBy user.id) (hname : patch.name = some name)
    (hblank : Text.stripBlank name = "") :
    changeAtOnce store user text payload = .error (.refused .blankName) := by
  have hchange := readChange_eq_ok_iff.mpr ⟨hid, hread⟩
  have hown := ownActorAt_of_owned hholds hfound howned
  have hclean : cleanPatch patch = .error (.refused .blankName) := by
    simp only [cleanPatch, hname, cleanName, hblank]
    rfl
  unfold changeAtOnce
  rw [hchange]
  show ownActorAt store user id >>= _ = _
  rw [hown]
  show cleanPatch patch >>= _ = _
  rw [hclean]
  rfl

/-- Whether a call is made to change the store. -/
def writes : Call → Bool
  | .createActor => true
  | .changeActor _ => true
  | .deleteActor _ => true
  | _ => false

section Calls

variable {service : Service} {session : Session} {user : User} {payload : Payload} {call : Call}
  {response : Response}

theorem Write.status_lt {store after : Store}
    (hwrite : Write store user payload call response after) : response.status < 300 := by
  cases hwrite with
  | created hread hname hadd => exact (by decide : 201 < 300)
  | changed hid hread hfound howned hclean hprofile hallowed => exact (by decide : 200 < 300)
  | deleted hid hfound howned => exact (by decide : 204 < 300)

theorem status_of_showActor {store : Store} {id : String}
    (hshow : showActor store id = .ok response) : response.status = 200 := by
  simp only [showActor, Except.bind_eq_ok_iff, Except.pure_eq_ok_iff] at hshow
  obtain ⟨_, -, _, -, rfl⟩ := hshow
  rfl

theorem status_of_roll {store : Store} {engine : Engine}
    (hroll : (roll store engine payload).1 = .ok response) : response.status = 200 := by
  simp only [roll] at hroll
  split at hroll
  · cases hroll
  next throw hthrow =>
    cases hresult : (engine.roll throw).result with
    | ok result =>
        simp only [hresult] at hroll
        obtain rfl := Except.ok.inj hroll
        rfl
    | error fault =>
        simp only [hresult] at hroll
        cases hroll

theorem Turn.still_status_ne {result : Except Failure Response}
    (hlate : Except.FailsOnly Failure.IsLate result)
    (hresult : ∀ response, result = .ok response → response.status ≠ 401)
    (hreply : (Turn.still service session result).reply = .ok response) :
    response.status ≠ 401 := by
  cases result with
  | ok other =>
      obtain rfl := Except.ok.inj hreply
      exact hresult other rfl
  | error failure => exact (hlate failure rfl).status_ne hreply

/-- A result that may write either has written, or is a failure that is seen as one. -/
theorem Turn.settled_cases (service : Service) (session : Session)
    {result : Except Failure (Response × Store)} {wrote : Response → Store → Prop}
    (hresult : ∀ response after, result = .ok (response, after) → wrote response after) :
    let turn := Turn.settled service session result
    (∃ response, turn.reply = .ok response ∧ wrote response turn.store) ∨
      ∃ failure, result = .error failure ∧ turn = .still service session (.error failure) := by
  cases result with
  | error failure => exact .inr ⟨failure, rfl, rfl⟩
  | ok stored =>
      obtain ⟨response, after⟩ := stored
      exact .inl ⟨response, rfl, hresult response after rfl⟩

theorem Turn.settled_status_ne {result : Except Failure (Response × Store)}
    (hlate : Except.FailsOnly Failure.IsLate result)
    (hresult : ∀ response after, result = .ok (response, after) → response.status < 300)
    (hreply : (Turn.settled service session result).reply = .ok response) :
    response.status ≠ 401 := by
  rcases Turn.settled_cases service session hresult with
    ⟨other, hother, hstatus⟩ | ⟨failure, hfailure, hturn⟩
  · obtain rfl := Except.ok.inj (hother.symm.trans hreply)
    omega
  · rw [hturn] at hreply
    exact (hlate failure hfailure).status_ne hreply

/-- Who is signed in is never told the opposite. -/
theorem answerCall_status_ne
    (hreply : (answerCall service session user payload call).reply = .ok response) :
    response.status ≠ 401 := by
  have late : ∀ failure : Failure, failure.IsMild → failure.IsLate := fun _ hmild => hmild.late
  cases call with
  | listActors =>
      obtain rfl := Except.ok.inj hreply
      exact (by decide : 200 ≠ 401)
  | showActor id =>
      refine Turn.still_status_ne ((showActor_isMild id).mono late) ?_ hreply
      intro shown hshown
      rw [status_of_showActor hshown]
      decide
  | roll =>
      have hrolls : (Turn.still service session
          (roll service.store service.engine payload).1).reply = .ok response := hreply
      refine Turn.still_status_ne ((roll_isMild service.engine).mono late) ?_ hrolls
      intro rolled hrolled
      rw [status_of_roll hrolled]
      decide
  | createActor =>
      rw [answerCall_createActor] at hreply
      refine Turn.settled_status_ne (createAtOnce_isMild.mono late) ?_ hreply
      intro response after hcreate
      exact (write_of_createAtOnce hcreate).status_lt
  | changeActor id =>
      have hchange : Except.FailsOnly Failure.IsLate (changeAtOnce service.store user id payload) :=
        changeAtOnce_fails late (fun _ _ _ _ _ _ _ _ _ => Failure.isLate_crashed _) id
      rw [answerCall_changeActor] at hreply
      refine Turn.settled_status_ne hchange ?_ hreply
      intro response after hchange
      exact (write_of_changeAtOnce hchange).status_lt
  | deleteActor id =>
      rw [answerCall_deleteActor] at hreply
      refine Turn.settled_status_ne ((deleteAtOnce_isMild id).mono late) ?_ hreply
      intro response after hdelete
      have hwrite : Write service.store user payload (.deleteActor id) response after :=
        write_of_deleteAtOnce hdelete
      exact hwrite.status_lt

/-- A call has written, or the store is as it was and a call that should write is seen to
have failed. -/
theorem answerCall_cases (service : Service) (session : Session) (user : User)
    (payload : Payload) (call : Call) :
    let turn := answerCall service session user payload call
    (∃ response, turn.reply = .ok response ∧
      Write service.store user payload call response turn.store) ∨
      turn.store = service.store ∧
        (writes call → ∀ response, turn.reply = .ok response → 400 ≤ response.status) := by
  -- The three calls that write are alike: a failure leaves a turn that only shows the failure.
  have hstoring : ∀ {result : Except Failure (Response × Store)},
      (∀ response after, result = .ok (response, after) →
        Write service.store user payload call response after) →
      let turn := Turn.settled service session result
      (∃ response, turn.reply = .ok response ∧
        Write service.store user payload call response turn.store) ∨
        turn.store = service.store ∧
          (writes call → ∀ response, turn.reply = .ok response → 400 ≤ response.status) := by
    intro result hresult
    rcases Turn.settled_cases service session hresult with hwrote | ⟨failure, -, hturn⟩
    · exact .inl hwrote
    · simp only [hturn]
      exact .inr ⟨rfl, fun _ _ => Failure.le_status⟩
  cases call with
  | listActors => exact .inr ⟨rfl, nofun⟩
  | showActor id => exact .inr ⟨rfl, nofun⟩
  | roll => exact .inr ⟨rfl, nofun⟩
  | createActor =>
      rw [answerCall_createActor]
      exact hstoring fun response after => write_of_createAtOnce
  | changeActor id =>
      rw [answerCall_changeActor]
      exact hstoring fun response after => write_of_changeAtOnce
  | deleteActor id =>
      rw [answerCall_deleteActor]
      exact hstoring fun response after => write_of_deleteAtOnce

end Calls

/-! ## Requests -/

/-- What a call reads of a request.  A call that takes no payload does not look at the body. -/
def bodyFor (request : Request) (call : Call) : Except Refusal Payload :=
  if takesPayload call then request.payload else .ok .empty

/-- The status of the response to a request.  A crash has none. -/
def status? (service : Service) (client : String) (request : Request) : Option Nat :=
  (service.handle client request).1.toOption.map Response.status

section Requests

variable {service : Service} {session : Session} {client : String} {request : Request}
  {call : Call} {payload : Payload} {user : User}

theorem answer_of_user (hroute : Route.of request.method request.target = .endpoint (.call call))
    (hbody : bodyFor request call = .ok payload)
    (huser : session.user? service.store = some user) :
    service.answer session request = answerCall service session user payload call := by
  have hafter : session.afterLookup service.store = session := by
    simp [Session.afterLookup, huser]
  unfold bodyFor at hbody
  simp only [answer, hroute, visit, hbody, authorize, huser, hafter]

theorem answer_of_nobody
    (hroute : Route.of request.method request.target = .endpoint (.call call))
    (hbody : bodyFor request call = .ok payload) (huser : session.user? service.store = none) :
    service.answer session request =
      .still service (session.afterLookup service.store) (.error (.refused .notAuthenticated)) := by
  unfold bodyFor at hbody
  simp only [answer, hroute, visit, hbody, authorize, huser]

theorem answer_of_unreadable {refusal : Refusal}
    (hroute : Route.of request.method request.target = .endpoint (.call call))
    (hbody : bodyFor request call = .error refusal) :
    service.answer session request = .still service session (.error (.refused refusal)) := by
  unfold bodyFor at hbody
  simp only [answer, hroute, visit, hbody]

/-- What an endpoint answers reaches the client as it is. -/
theorem handle_reply (service : Service) (client : String) {asked : Endpoint}
    (hroute : Route.of request.method request.target = .endpoint asked) :
    (service.handle client request).1 =
      (service.answer (service.shown ⟨client, request.target.site⟩ request) request).reply := by
  simp only [handle, Response.seenBy_of_ne (Route.method_ne_head hroute)]
  cases (service.answer (service.shown ⟨client, request.target.site⟩ request) request).reply <;>
    rfl

/-- What a call leaves behind is what it does for the user of its client. -/
theorem handle_of_user (hroute : Route.of request.method request.target = .endpoint (.call call))
    (hbody : bodyFor request call = .ok payload)
    (huser : service.requester client request = some user) :
    let turn := answerCall service (service.shown ⟨client, request.target.site⟩ request) user
      payload call
    (service.handle client request).1 = turn.reply ∧
      (service.handle client request).2.store = turn.store ∧
      (service.handle client request).2.source = turn.source := by
  have hturn := answer_of_user hroute hbody huser
  refine ⟨?_, congrArg Turn.store hturn, congrArg Turn.source hturn⟩
  rw [handle_reply service client hroute, hturn]

/-- An actor is shown to everybody who is signed in, if it is there. -/
theorem reply_of_showActor {text : String} {id : Int}
    (huser : service.requester client request = some user)
    (hroute : Route.of request.method request.target = .endpoint (.call (.showActor text)))
    (hid : readActorId text = .ok id) (hholds : Cell.holds id) :
    (service.handle client request).1 = .ok ((service.store.actor? id).elim
      (.detail 404 "Actor not found") fun actor => .json 200 (actorJson actor)) := by
  rw [(handle_of_user hroute rfl huser).1]
  simp only [answerCall, showActor_of_holds hid hholds, Turn.still]
  cases service.store.actor? id <;> rfl

theorem status?_eq_some_iff {n : Nat} :
    service.status? client request = some n ↔ ∃ response,
      (service.handle client request).1 = .ok response ∧ response.status = n := by
  unfold status?
  cases (service.handle client request).1 with
  | error crash => simp [Except.toOption]
  | ok response => simp [Except.toOption]

/-- A call whose body can be read is answered 401 exactly if its client has no user. -/
theorem status?_eq_401_iff
    (hroute : Route.of request.method request.target = .endpoint (.call call))
    (hbody : bodyFor request call = .ok payload) :
    service.status? client request = some 401 ↔ service.requester client request = none := by
  rw [status?_eq_some_iff, handle_reply service client hroute]
  unfold requester
  cases huser : (service.shown ⟨client, request.target.site⟩ request).user? service.store with
  | none =>
      rw [answer_of_nobody hroute hbody huser]
      exact ⟨fun _ => rfl, fun _ => ⟨_, rfl, rfl⟩⟩
  | some user =>
      rw [answer_of_user hroute hbody huser]
      constructor
      · rintro ⟨response, hreply, hstatus⟩
        exact absurd hstatus (answerCall_status_ne hreply)
      · nofun

/-- A request has written as a call of its client, or the store is as it was and a call that
should write is seen to have failed. -/
theorem handle_call_cases (service : Service) (client : String)
    (hroute : Route.of request.method request.target = .endpoint (.call call)) :
    (∃ user payload response, service.requester client request = some user ∧
      bodyFor request call = .ok payload ∧
      (service.handle client request).1 = .ok response ∧
      Write service.store user payload call response (service.handle client request).2.store) ∨
      (service.handle client request).2.store = service.store ∧
        (writes call → ∀ response, (service.handle client request).1 = .ok response →
          400 ≤ response.status) := by
  set session := service.shown ⟨client, request.target.site⟩ request
  have hreply : (service.handle client request).1 = (service.answer session request).reply :=
    handle_reply service client hroute
  have hstore : (service.handle client request).2.store =
      (service.answer session request).store := rfl
  -- A turn that only shows a failure writes nothing and has the status of a failure.
  have hfailed : ∀ {after : Session} {failure : Failure},
      service.answer session request = .still service after (.error failure) →
      (service.handle client request).2.store = service.store ∧
        (writes call → ∀ response, (service.handle client request).1 = .ok response →
          400 ≤ response.status) := by
    intro after failure hturn
    rw [hreply, hstore, hturn]
    exact ⟨rfl, fun _ _ => Failure.le_status⟩
  cases hbody : bodyFor request call with
  | error refusal => exact .inr (hfailed (answer_of_unreadable hroute hbody))
  | ok payload =>
      cases huser : session.user? service.store with
      | none => exact .inr (hfailed (answer_of_nobody hroute hbody huser))
      | some user =>
          rw [hreply, hstore, answer_of_user hroute hbody huser]
          rcases answerCall_cases service session user payload call with
            ⟨response, hresponse, hwrite⟩ | hsame
          · exact .inl ⟨user, payload, response, huser, rfl, hresponse, hwrite⟩
          · exact .inr hsame

end Requests

end Service

end Tabletop
