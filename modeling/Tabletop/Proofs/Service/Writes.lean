import Tabletop.Proofs.Service.Calls
import Mathlib

/-!
# What a request writes

A request writes only when it is a call of a signed-in user that succeeds, and then
it does one of three things to the actors: a row is added for that user, the
profile of a row of that user is replaced, or a row of that user goes.  Every
other request, and every request that fails or crashes, leaves the store as it was.
What happens from inside is one write of the store, or nothing if it is refused.
-/

namespace Tabletop

open Text Validation Web

/-- Only JSON is read. -/
theorem Web.Payload.read_eq_ok_iff {α : Type} {read : Json → Checked α} {payload : Payload}
    {x : α} : payload.read read = .ok x ↔ ∃ value, payload = .json value ∧ read value = .ok x := by
  cases payload with
  | json value => simp [Payload.read]
  | empty => simp [Payload.read, Checked.fault]
  | bytes raw => simp [Payload.read]

namespace Service

theorem granted_eq_ok_iff {α : Type} {place : String} {checked : Checked α} {x : α} :
    granted place checked = .ok x ↔ checked = .ok x := by
  rw [granted, Except.mapError_eq_ok_iff, Checked.inside_eq_ok]

theorem readChange_eq_ok_iff {text : String} {payload : Payload} {id : Int} {patch : Patch} :
    readChange text payload = .ok (id, patch) ↔
      readActorId text = .ok id ∧ payload.read Patch.ofJson = .ok patch := by
  rw [readChange, Except.mapError_eq_ok_iff, Checked.both_eq_ok, Checked.inside_eq_ok,
    Checked.inside_eq_ok]

/-- What a call of a user does to the store if it writes, and how it is answered. -/
inductive Write (store : Store) (user : User) (payload : Payload) :
    Call → Response → Store → Prop where
  | created {profile : Profile} {name : String} {actor : Actor} {after : Store}
      (hread : payload.read Profile.ofJson = .ok profile)
      (hname : cleanName profile.name = .ok name)
      (hadd : store.addActor {
        ownerId := .int user.id
        name := .str name
        scores := profile.scores.map Cell.toJson
        bonus := profile.bonus.toJson } = .ok (actor, after)) :
      Write store user payload .createActor (.json 201 (actorJson actor)) after
  | changed {text : String} {id : Int} {patch clean : Patch} {actor : Actor} {profile : Profile}
      (hid : readActorId text = .ok id)
      (hread : payload.read Patch.ofJson = .ok patch)
      (hfound : store.actor? id = some actor)
      (howned : actor.isOwnedBy user.id)
      (hclean : cleanPatch patch = .ok clean)
      (hprofile : profile = clean.apply actor.profile)
      (hallowed : profile ≠ actor.profile → Store.checkScores profile.scores = .ok ()) :
      Write store user payload (.changeActor text) (.json 200 (actorJson { actor with profile }))
        (store.setProfile id profile)
  | deleted {text : String} {id : Int} {actor : Actor}
      (hid : readActorId text = .ok id)
      (hfound : store.actor? id = some actor)
      (howned : actor.isOwnedBy user.id) :
      Write store user payload (.deleteActor text) ⟨204, none, .empty⟩ (store.dropActor id)

theorem Write.users_eq {store after : Store} {user : User} {payload : Payload} {call : Call}
    {response : Response} (hwrite : Write store user payload call response after) :
    after.users = store.users := by
  cases hwrite with
  | created hread hname hadd =>
      obtain ⟨-, rfl⟩ := Store.addActor_eq_ok hadd
      rfl
  | changed hid hread hfound howned hclean hprofile hallowed => rfl
  | deleted hid hfound howned => rfl

section Calls

variable {store after : Store} {user : User} {payload : Payload} {response : Response}
  {text : String}

theorem write_of_createAtOnce (hcreate : createAtOnce store user payload = .ok (response, after)) :
    Write store user payload .createActor response after := by
  simp only [createAtOnce, Except.bind_eq_ok_iff, granted_eq_ok_iff,
    Except.mapError_eq_ok_iff] at hcreate
  obtain ⟨profile, hread, name, hname, ⟨actor, stored⟩, hadd, hreply⟩ := hcreate
  obtain ⟨rfl, rfl⟩ := Prod.mk.inj (Except.pure_eq_ok_iff.mp hreply)
  exact .created hread hname hadd

theorem write_of_changeAtOnce
    (hchange : changeAtOnce store user text payload = .ok (response, after)) :
    Write store user payload (.changeActor text) response after := by
  simp only [changeAtOnce, Except.bind_eq_ok_iff, Except.mapError_eq_ok_iff] at hchange
  obtain ⟨⟨id, patch⟩, hread, actor, hown, clean, hclean, stored, hupdate, hreply⟩ := hchange
  obtain ⟨rfl, rfl⟩ := Prod.mk.inj (Except.pure_eq_ok_iff.mp hreply)
  obtain ⟨hid, hpatch⟩ := readChange_eq_ok_iff.mp hread
  obtain ⟨hfound, howned⟩ := ownActorAt_eq_ok hown
  obtain ⟨hallowed, rfl⟩ := Store.updateActor_eq_ok_iff.mp hupdate
  obtain rfl := Store.id_of_actor? hfound
  exact .changed hid hpatch hfound howned hclean rfl hallowed

theorem write_of_deleteAtOnce (hdelete : deleteAtOnce store user text = .ok (response, after)) :
    Write store user payload (.deleteActor text) response after := by
  simp only [deleteAtOnce, Except.bind_eq_ok_iff, granted_eq_ok_iff] at hdelete
  obtain ⟨id, hid, actor, hown, hreply⟩ := hdelete
  obtain ⟨rfl, rfl⟩ := Prod.mk.inj (Except.pure_eq_ok_iff.mp hreply)
  obtain ⟨hfound, howned⟩ := ownActorAt_eq_ok hown
  exact .deleted hid hfound howned

end Calls

/-! ## Requests -/

/-- A turn changes the store only by a result that succeeded, and then as the result says. -/
theorem Turn.settled_store (service : Service) (session : Session)
    {result : Except Failure (Response × Store)} {writes : Response → Store → Prop}
    (hresult : ∀ response after, result = .ok (response, after) → writes response after) :
    let turn := Turn.settled service session result
    turn.store = service.store ∨
      ∃ response, turn.reply = .ok response ∧ writes response turn.store := by
  cases result with
  | error failure => exact .inl rfl
  | ok stored =>
      obtain ⟨response, after⟩ := stored
      exact .inr ⟨response, rfl, hresult response after rfl⟩

theorem answerCall_store (service : Service) (session : Session) (user : User)
    (payload : Payload) (call : Call) :
    let turn := answerCall service session user payload call
    turn.store = service.store ∨ ∃ response, turn.reply = .ok response ∧
      Write service.store user payload call response turn.store := by
  cases call with
  | listActors => exact .inl rfl
  | showActor text => exact .inl rfl
  | roll => exact .inl rfl
  | createActor =>
      rw [answerCall_createActor]
      apply Turn.settled_store
      intro response after hcreate
      exact write_of_createAtOnce hcreate
  | changeActor text =>
      rw [answerCall_changeActor]
      apply Turn.settled_store
      intro response after hchange
      exact write_of_changeAtOnce hchange
  | deleteActor text =>
      rw [answerCall_deleteActor]
      apply Turn.settled_store
      intro response after hdelete
      exact write_of_deleteAtOnce hdelete

/-- Only a call can write, and only once its payload is read and its user is found. -/
theorem visit_store (service : Service) (session : Session) (request : Request)
    (endpoint : Endpoint) :
    let turn := visit service session request endpoint
    turn.store = service.store ∨ ∃ user payload call response,
      session.user? service.store = some user ∧ endpoint = .call call ∧
      (if takesPayload call then request.payload else .ok .empty) = .ok payload ∧
      turn.reply = .ok response ∧
      Write service.store user payload call response turn.store := by
  cases endpoint with
  | index => exact .inl rfl
  | loginPage => exact .inl rfl
  | login =>
      left
      simp only [visit]
      split <;> rfl
  | logout =>
      left
      simp only [visit]
      split <;> rfl
  | call call =>
      simp only [visit]
      cases hpayload : (if takesPayload call then request.payload else .ok .empty) with
      | error refusal => exact .inl rfl
      | ok payload =>
          simp only [authorize]
          cases huser : session.user? service.store with
          | none => exact .inl rfl
          | some user =>
              rcases answerCall_store service (session.afterLookup service.store) user payload
                call with hsame | ⟨response, hreply, hwrite⟩
              · exact .inl hsame
              · exact .inr ⟨user, payload, call, response, rfl, rfl, hpayload, hreply, hwrite⟩

/-- The user that a client is signed in as when it makes a request. -/
def requester (service : Service) (client : String) (request : Request) : Option User :=
  (service.shown ⟨client, request.target.site⟩ request).user? service.store

/-- A request either leaves the store as it was or is a call that writes, of the user
that its client is signed in as. -/
theorem handle_store (service : Service) (client : String) (request : Request) :
    (service.handle client request).2.store = service.store ∨
      ∃ user payload call response, service.requester client request = some user ∧
        Route.of request.method request.target = .endpoint (.call call) ∧
        (if takesPayload call then request.payload else .ok .empty) = .ok payload ∧
        (service.handle client request).1 = .ok (response.seenBy request.method) ∧
        Write service.store user payload call response
          (service.handle client request).2.store := by
  simp only [handle, answer, requester]
  cases hroute : Route.of request.method request.target with
  | manual page => exact .inl rfl
  | wrongMethod => exact .inl rfl
  | redirect location => exact .inl rfl
  | unknown => exact .inl rfl
  | endpoint endpoint =>
      rcases visit_store service (service.shown ⟨client, request.target.site⟩ request) request
        endpoint with hsame | ⟨user, payload, call, response, huser, rfl, hpayload, hreply, hwrite⟩
      · exact .inl hsame
      · refine .inr ⟨user, payload, call, response, huser, rfl, hpayload, ?_, hwrite⟩
        simp only [hreply, Except.map]

/-- No request changes the users. -/
theorem handle_users (service : Service) (client : String) (request : Request) :
    (service.handle client request).2.store.users = service.store.users := by
  rcases handle_store service client request with hsame | ⟨_, _, _, _, -, -, -, -, hwrite⟩
  · rw [hsame]
  · exact hwrite.users_eq

/-! ## Events -/

/-- What an event does to the store.  A change from inside that is refused does nothing. -/
inductive Change (service : Service) : Event → Store → Prop where
  | request (client : String) (request : Request) :
      Change service (.request client request) (service.handle client request).2.store
  | addUser {name id : Json} {user : User} {after : Store}
      (hadd : service.store.addUser name id = .ok (user, after)) :
      Change service (.addUser name id) after
  | removeUser {id : Json} {after : Store} (hremove : service.store.removeUser id = .ok after) :
      Change service (.removeUser id) after
  | addActor {new : NewActor} {actor : Actor} {after : Store}
      (hadd : service.store.addActor new = .ok (actor, after)) :
      Change service (.addActor new) after
  | pass (now : Time) : Change service (.pass now) { service.store with now }
  | refused {event : Event} : Change service event service.store

theorem change_step (service : Service) (event : Event) :
    Change service event (service.step event).store := by
  cases event with
  | request client request => exact .request client request
  | addUser name id =>
      simp only [step]
      split
      next hadd => exact .addUser hadd
      next => exact .refused
  | removeUser id =>
      simp only [step]
      split
      next hremove => exact .removeUser hremove
      next => exact .refused
  | addActor new =>
      simp only [step]
      split
      next hadd => exact .addActor hadd
      next => exact .refused
  | pass now => exact .pass now

end Service
end Tabletop
