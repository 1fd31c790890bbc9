import Tabletop.Proofs.Service.Answers
import Mathlib

/-!
# The clock is never seen

Rows of actors say when they were added and when they were last written.  No answer shows it and
no call looks at it: a service without the times answers every request as the service does, and
what is left of it is what is left of the service, again without the times.  So it matters to
nobody what the clock shows, or when.
-/

namespace Tabletop

open Validation Web

/-- A row without its times. -/
def Actor.undated (actor : Actor) : Actor := { actor with created := 0, updated := 0 }

namespace Actor

@[simp] theorem undated_id (actor : Actor) : actor.undated.id = actor.id := rfl

@[simp] theorem isOwnedBy_undated (actor : Actor) (userId : Int) :
    actor.undated.isOwnedBy userId = actor.isOwnedBy userId := rfl

theorem undated_revised (actor : Actor) (now : Time) (profile : Profile) :
    (actor.revised now profile).undated = actor.undated.revised 0 profile := by
  unfold revised
  split
  next hsame => exact (if_pos hsame).symm
  next hdiffers => exact (if_neg hdiffers).symm

end Actor

/-! ## Stores -/

namespace Store

/-- A store without the times in it. -/
def undated (store : Store) : Store :=
  { store with now := 0, actors := store.actors.map Actor.undated }

variable (store : Store)

theorem undated_undated : store.undated.undated = store.undated := by
  simp only [undated, List.map_map]
  rfl

theorem actorIds_undated : store.undated.actorIds = store.actorIds := by
  simp only [actorIds, undated, List.map_map]
  rfl

theorem findActor_undated (id : Int) :
    store.undated.findActor (.int id) =
      (store.findActor (.int id)).map (Option.map Actor.undated) := by
  have hfound : store.undated.actor? id = (store.actor? id).map Actor.undated := by
    simp only [actor?, undated, List.find?_map]
    rfl
  rw [findActor_int, findActor_int, hfound]
  split <;> rfl

theorem actorsOf_undated (userId : Int) :
    store.undated.actorsOf userId = (store.actorsOf userId).map Actor.undated := by
  simp only [actorsOf, undated, List.filter_map]
  rfl

theorem insertActor_undated (actor : Actor) :
    store.undated.insertActor actor.undated = (store.insertActor actor).undated := by
  have hrows : ∀ rows : List Actor,
      insertById Actor.id actor.undated (rows.map Actor.undated) =
        (insertById Actor.id actor rows).map Actor.undated := by
    intro rows
    induction rows with
    | nil => rfl
    | cons other rest ih =>
        simp only [List.map_cons, insertById, Actor.undated_id, ih]
        split <;> rfl
  simp only [insertActor, undated, hrows]

theorem addActor_undated (new : NewActor) :
    store.undated.addActor new =
      (store.addActor new).map fun (actor, after) => (actor.undated, after.undated) := by
  simp only [addActor, Except.map_bind]
  refine bind_congr fun owner => ?_
  refine bind_congr fun name => ?_
  refine bind_congr fun cells => ?_
  refine bind_congr fun bonus => ?_
  rcases owner with - | owner
  · rfl
  rcases name with - | name
  · rfl
  simp only [Except.map_bind]
  refine bind_congr fun scores => ?_
  rcases bonus with - | bonus
  · rfl
  simp only [Except.map_bind]
  refine bind_congr fun _ => ?_
  have hafter := store.insertActor_undated ⟨nextId store.actorIds, owner.asNumber,
    ⟨name.asText, scores.map Cell.asNumber, bonus.asNumber⟩, store.now, store.now⟩
  rw [actorIds_undated]
  exact congrArg (fun after => Except.ok (_, after)) hafter

theorem setProfile_undated (id : Int) (profile : Profile) :
    store.undated.setProfile id profile = (store.setProfile id profile).undated := by
  have hrow : ∀ actor : Actor,
      (if actor.undated.id = id then actor.undated.revised 0 profile else actor.undated) =
        Actor.undated (if actor.id = id then actor.revised store.now profile else actor) := by
    intro actor
    rw [Actor.undated_id]
    split
    · exact (actor.undated_revised _ _).symm
    · rfl
  simp only [setProfile, undated, List.map_map, Function.comp_def, hrow]

theorem updateActor_undated (actor : Actor) (profile : Profile) :
    store.undated.updateActor actor.undated profile =
      (store.updateActor actor profile).map undated := by
  simp only [updateActor, setProfile_undated, apply_ite (Except.map undated), Except.map_bind]
  rfl

theorem dropActor_undated (id : Int) :
    store.undated.dropActor id = (store.dropActor id).undated := by
  simp only [dropActor, undated, List.filter_map]
  rfl

theorem removeUser_undated (id : Json) :
    store.undated.removeUser id = (store.removeUser id).map undated := by
  have hdrop : ∀ id, store.undated.dropUser id = (store.dropUser id).undated := by
    intro id
    simp only [dropUser, undated, List.filter_map]
    rfl
  simp only [removeUser, Except.map_bind]
  refine bind_congr fun found => ?_
  cases found with
  | none => rfl
  | some user => exact congrArg Except.ok (hdrop user.id)

theorem addUser_undated (name id : Json) :
    store.undated.addUser name id =
      (store.addUser name id).map fun (user, after) => (user, after.undated) := by
  simp only [addUser, Except.map_bind]
  refine bind_congr fun id => ?_
  refine bind_congr fun name => ?_
  refine bind_congr fun given => ?_
  cases name with
  | none => rfl
  | some name =>
      simp only [apply_ite (Except.map _)]
      rfl

end Store

/-! ## Calls -/

namespace Service

section Calls

variable (store : Store) (user : User) (payload : Payload) (text : String)

theorem actorAt_undated (id : Int) :
    actorAt store.undated id = (actorAt store id).map Actor.undated := by
  simp only [actorAt, Store.findActor_undated, Except.mapError_map, Except.bind_map,
    Except.map_bind]
  refine bind_congr fun found => ?_
  cases found <;> rfl

theorem ownActorAt_undated (id : Int) :
    ownActorAt store.undated user id = (ownActorAt store user id).map Actor.undated := by
  simp only [ownActorAt, actorAt_undated, Except.bind_map, Except.map_bind,
    Actor.isOwnedBy_undated, apply_ite (Except.map _)]
  rfl

theorem listActors_undated : listActors store.undated user = listActors store user := by
  simp only [listActors, Store.actorsOf_undated, List.map_map]
  rfl

theorem showActor_undated : showActor store.undated text = showActor store text := by
  simp only [showActor, actorAt_undated, Except.bind_map]
  rfl

theorem createAtOnce_undated :
    createAtOnce store.undated user payload =
      (createAtOnce store user payload).map fun (response, after) => (response, after.undated) := by
  simp only [createAtOnce, Store.addActor_undated, Except.mapError_map, Except.bind_map,
    Except.map_bind]
  rfl

theorem changeAtOnce_undated :
    changeAtOnce store.undated user text payload =
      (changeAtOnce store user text payload).map fun (response, after) =>
        (response, after.undated) := by
  simp only [changeAtOnce, ownActorAt_undated, Except.bind_map, Except.map_bind]
  refine bind_congr fun change => ?_
  refine bind_congr fun actor => ?_
  refine bind_congr fun patch => ?_
  have hupdate := store.updateActor_undated actor (patch.apply actor.profile)
  have hprofile : patch.apply actor.undated.profile = patch.apply actor.profile := rfl
  rw [hprofile, hupdate, Except.mapError_map, Except.bind_map]
  rfl

theorem deleteAtOnce_undated :
    deleteAtOnce store.undated user text =
      (deleteAtOnce store user text).map fun (response, after) => (response, after.undated) := by
  simp only [deleteAtOnce, ownActorAt_undated, Store.dropActor_undated, Except.bind_map,
    Except.map_bind]
  rfl

theorem roll_undated (engine : Dice.Engine) :
    roll store.undated engine payload = roll store engine payload := by
  have hsheet : ∀ order, sheetOf store.undated order = sheetOf store order := by
    intro order
    unfold sheetOf
    split
    · rfl
    · rfl
    next id hid =>
      rw [Store.findActor_undated, Except.mapError_map, Except.bind_map]
      refine bind_congr fun found => ?_
      cases found <;> rfl
  simp only [roll, prepareRoll, hsheet]

end Calls

/-! ## Requests -/

/-- A service without the times in its store. -/
def undated (service : Service) : Service := { service with store := service.store.undated }

def Turn.undated (turn : Turn) : Turn := { turn with store := turn.store.undated }

section Requests

variable (service : Service) (session : Session) (user : User) (payload : Payload)
  (request : Request)

theorem Turn.settled_undated (result : Except Failure (Response × Store)) :
    Turn.settled service.undated session
        (result.map fun (response, after) => (response, after.undated)) =
      (Turn.settled service session result).undated := by
  cases result <;> rfl

theorem answerCall_undated (call : Call) :
    answerCall service.undated session user payload call =
      (answerCall service session user payload call).undated := by
  cases call with
  | listActors =>
      show Turn.still service.undated session (.ok (listActors service.store.undated user)) = _
      rw [listActors_undated]
      rfl
  | showActor text =>
      show Turn.still service.undated session (showActor service.store.undated text) = _
      rw [showActor_undated]
      rfl
  | roll =>
      have hroll := roll_undated service.store payload service.engine
      show { Turn.still service.undated session
        (roll service.store.undated service.engine payload).1 with
          source := (roll service.store.undated service.engine payload).2.source } = _
      rw [hroll]
      rfl
  | createActor =>
      rw [answerCall_createActor, answerCall_createActor, ← Turn.settled_undated]
      exact congrArg _ (createAtOnce_undated _ _ _)
  | changeActor text =>
      rw [answerCall_changeActor, answerCall_changeActor, ← Turn.settled_undated]
      exact congrArg _ (changeAtOnce_undated _ _ _ _)
  | deleteActor text =>
      rw [answerCall_deleteActor, answerCall_deleteActor, ← Turn.settled_undated]
      exact congrArg _ (deleteAtOnce_undated _ _ _)

theorem authorize_undated (call : Call) :
    authorize service.undated session payload call =
      (authorize service session payload call).undated := by
  have huser : session.user? service.undated.store = session.user? service.store := rfl
  simp only [authorize, huser]
  cases session.user? service.store with
  | none => rfl
  | some user => exact answerCall_undated _ _ _ _ _

theorem visit_undated (endpoint : Endpoint) :
    visit service.undated session request endpoint =
      (visit service session request endpoint).undated := by
  cases endpoint with
  | index => rfl
  | loginPage => rfl
  | login =>
      have hlogin : login service.undated.settings service.undated.store request =
          login service.settings service.store request := rfl
      simp only [visit, hlogin]
      cases login service.settings service.store request <;> rfl
  | logout =>
      have hlogout : logout service.undated.settings = logout service.settings := rfl
      simp only [visit, hlogout]
      cases logout service.settings <;> rfl
  | call call =>
      simp only [visit]
      cases if takesPayload call then request.payload else .ok .empty with
      | error refusal => rfl
      | ok payload => exact authorize_undated _ _ _ _

theorem answer_undated :
    service.undated.answer session request = (service.answer session request).undated := by
  simp only [answer]
  cases Route.of request.method request.target with
  | endpoint endpoint => exact visit_undated _ _ _ _
  | manual page => rfl
  | wrongMethod => rfl
  | redirect location => rfl
  | unknown => rfl

/-- A service without the times answers a request as the service does, and keeps to itself. -/
theorem handle_undated (client : String) :
    service.undated.handle client request =
      ((service.handle client request).1, (service.handle client request).2.undated) := by
  have hanswer := answer_undated service
    (service.shown ⟨client, request.target.site⟩ request) request
  have hshown : service.undated.shown ⟨client, request.target.site⟩ request =
    service.shown ⟨client, request.target.site⟩ request := rfl
  simp only [handle, hshown, hanswer]
  rfl

end Requests

/-! ## Runs -/

/-- The clock comes to show another time. -/
def Event.isPass : Event → Bool
  | .pass _ => true
  | _ => false

theorem undated_undated (service : Service) : service.undated.undated = service.undated := by
  unfold undated
  rw [Store.undated_undated]

theorem step_undated (service : Service) (event : Event) :
    (service.undated.step event).undated = (service.step event).undated := by
  cases event with
  | request client request =>
      simp only [step, handle_undated, undated_undated]
  | addUser name id =>
      have hadd : service.undated.store.addUser name id = _ :=
        service.store.addUser_undated name id
      simp only [step, hadd]
      cases service.store.addUser name id with
      | error cause => exact service.undated_undated
      | ok added => exact undated_undated { service with store := added.2 }
  | removeUser id =>
      have hremove : service.undated.store.removeUser id = _ := service.store.removeUser_undated id
      simp only [step, hremove]
      cases service.store.removeUser id with
      | error cause => exact service.undated_undated
      | ok store => exact undated_undated { service with store }
  | addActor new =>
      have hadd : service.undated.store.addActor new = _ := service.store.addActor_undated new
      simp only [step, hadd]
      cases service.store.addActor new with
      | error cause => exact service.undated_undated
      | ok added => exact undated_undated { service with store := added.2 }
  | pass now => exact service.undated_undated

/-- Passing time leaves nothing but another time. -/
theorem step_of_isPass (service : Service) {event : Event} (hpass : event.isPass) :
    (service.step event).undated = service.undated := by
  cases event with
  | pass now => rfl
  | _ => cases hpass

/-- What a run leaves does not depend on the times at its start, nor on those that pass. -/
theorem run_undated {service other : Service} (hsame : service.undated = other.undated)
    (events : List Event) :
    (service.run events).undated =
      (other.run (events.filter fun event => !event.isPass)).undated := by
  induction events generalizing service other with
  | nil => exact hsame
  | cons event rest ih =>
      by_cases hpass : event.isPass
      · have hfirst : (service.step event).undated = other.undated :=
          (service.step_of_isPass hpass).trans hsame
        simpa [run, hpass] using ih hfirst
      · have hfirst : (service.step event).undated = (other.step event).undated := by
          rw [← step_undated, hsame, step_undated]
        simpa [run, hpass] using ih hfirst

/-- Services that differ in times only answer alike, whatever else happens to both of them, and
whenever it happens to each. -/
theorem reply_of_undated {service other : Service} (hsame : service.undated = other.undated)
    {events others : List Event}
    (hevents : (events.filter fun event => !event.isPass) =
      others.filter fun event => !event.isPass) (client : String) (request : Request) :
    ((service.run events).handle client request).1 =
      ((other.run others).handle client request).1 := by
  have hruns : (service.run events).undated = (other.run others).undated := by
    rw [run_undated hsame events, run_undated (rfl : other.undated = other.undated) others, hevents]
  have hreplies := congrArg (fun service => (service.handle client request).1) hruns
  simpa only [handle_undated] using hreplies

end Service
end Tabletop
