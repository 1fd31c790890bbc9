import Tabletop.Proofs.Service.Answers
import Tabletop.Proofs.Service.History
import Tabletop.Proofs.Service.Reachable
import Mathlib

/-!
# The register of actors

Whoever only watches the answers can keep a register of the actors.  Every actor
that is created adds its document at the end, a change replaces the document of the
same id, and documents go with their actor or with its owner.  What is noticed of
an event is what has happened to the table of actors, so each step of the service
is one entry in the register.
-/

namespace Tabletop
namespace Service

open Web

/-! ## Documents -/

/-- The id in the document of an actor. -/
def documentId? (document : Json) : Option Int := (document.get? "id").bind Json.int?

/-- Whether the document of an actor names the user of an id as the owner. -/
def isDocumentOf (userId : Int) (document : Json) : Bool :=
  match document.get? "ownerId" with
  | some (.int n) => n == userId
  | some (.float x) => x.whole? == some userId
  | _ => false

/-- How a number is shown that was handed in. -/
def keptNumber (value : Json) : Json :=
  match Store.bind value with
  | .ok (some cell) => cellJson cell.asNumber
  | _ => .null

/-- How a text is shown that was handed in. -/
def keptText (value : Json) : Json :=
  match Store.bind value with
  | .ok (some cell) => .str cell.asText
  | _ => .null

/-- The document of an actor that was added from inside. -/
def insertedDocument (id : Int) (new : NewActor) : Json :=
  .record [("id", .int id), ("ownerId", keptNumber new.ownerId), ("name", keptText new.name),
    ("abilities", .record (new.complete.scores.toList.map fun entry =>
      (entry.1, keptNumber entry.2))),
    ("profBonus", keptNumber new.complete.bonus)]

@[simp] theorem documentId?_actorJson (actor : Actor) :
    documentId? (actorJson actor) = some actor.id := rfl

theorem isDocumentOf_actorJson (userId : Int) (actor : Actor) :
    isDocumentOf userId (actorJson actor) = actor.isOwnedBy userId := by
  have howner : (actorJson actor).get? "ownerId" = some (cellJson actor.ownerId) := rfl
  simp only [isDocumentOf, howner, Actor.isOwnedBy]
  cases actor.ownerId with
  | int n => rfl
  | text s => rfl
  | real x =>
      cases x with
      | finite negative m e => rfl
      | infinite negative => rfl
      | nan => rfl

theorem keptNumber_of_bind {value : Json} {cell : Cell}
    (hbind : Store.bind value = .ok (some cell)) : keptNumber value = cellJson cell.asNumber := by
  simp only [keptNumber, hbind]

theorem insertedDocument_eq {store : Store} {new : NewActor} {actor : Actor}
    (hwritten : Store.Written store new actor) :
    insertedDocument actor.id new = actorJson actor := by
  obtain ⟨owner, howner, hownerId⟩ := hwritten.owner
  obtain ⟨name, hname, hnameText⟩ := hwritten.name
  obtain ⟨bonus, hbonus, hbonusCell⟩ := hwritten.bonus
  have hscores : (new.complete.scores.toList.map fun entry => (entry.1, keptNumber entry.2)) =
      actor.profile.scores.toList.map fun entry => (entry.1, cellJson entry.2) := by
    simp only [Scores.toList, List.map_map]
    apply List.map_congr_left
    intro ability hability
    obtain ⟨cell, hcell, hscore⟩ := hwritten.scores ability
    simp only [Function.comp_apply, keptNumber_of_bind hcell, hscore]
  have hkeptName : keptText new.name = .str actor.profile.name := by
    simp only [keptText, hname, hnameText]
  rw [insertedDocument, hscores, hkeptName, keptNumber_of_bind howner, keptNumber_of_bind hbonus,
    ← hownerId, ← hbonusCell]
  rfl

/-- All that was handed in for a new actor is a number or a text where it should be one; only
scores and the bonus may be left out. -/
structure Plain (new : NewActor) (ownerId : Int) (name : String) : Prop where
  ownerId : new.ownerId = .int ownerId
  name : new.name = .str name
  scores : ∀ ability, new.scores.get ability = .null ∨ ∃ n, new.scores.get ability = .int n
  bonus : new.bonus = .null ∨ ∃ n, new.bonus = .int n

theorem keptNumber_int {value : Json} {cell : Cell} (hbind : Store.bind value = .ok (some cell))
    (hint : ∃ n, value = .int n) : keptNumber value = value := by
  obtain ⟨n, rfl⟩ := hint
  rw [keptNumber_of_bind hbind]
  obtain rfl := Store.eq_int_of_bind hbind
  rfl

/-- Plain values are shown as they were handed in, with standard values for those left out. -/
theorem Plain.insertedDocument_eq {store : Store} {new : NewActor} {actor : Actor} {ownerId : Int}
    {name : String} (hplain : Plain new ownerId name)
    (hwritten : Store.Written store new actor) :
    insertedDocument actor.id new =
      .record [("id", .int actor.id), ("ownerId", .int ownerId), ("name", .str name),
        ("abilities", .record new.complete.scores.toList), ("profBonus", new.complete.bonus)] := by
  obtain ⟨owner, howner, -⟩ := hwritten.owner
  obtain ⟨bonus, hbonus, -⟩ := hwritten.bonus
  have hscores : (new.complete.scores.toList.map fun entry => (entry.1, keptNumber entry.2)) =
      new.complete.scores.toList := by
    simp only [Scores.toList, List.map_map]
    apply List.map_congr_left
    intro ability hability
    obtain ⟨cell, hcell, -⟩ := hwritten.scores ability
    have hint : ∃ n, new.complete.scores.get ability = .int n := by
      simp only [NewActor.complete, Scores.get_map]
      exact Store.orStandard_int (hplain.scores ability)
    simp only [Function.comp_apply, keptNumber_int hcell hint]
  have hname : keptText new.name = .str name := by
    rw [hplain.name]
    rfl
  rw [insertedDocument, hscores, hname, keptNumber_int howner ⟨ownerId, hplain.ownerId⟩,
    keptNumber_int hbonus (Store.orStandard_int hplain.bonus), hplain.ownerId]

/-! ## What is noticed -/

/-- What is noticed about the actors. -/
inductive Notice where
  | created (document : Json)
  | changed (document : Json)
  | deleted (id : Int)
  | ownerGone (userId : Int)
  | nothing

namespace Notice

/-- What the response to a call tells about the actors. -/
def ofResponse (call : Call) (response : Response) : Notice :=
  match call, response.content with
  | .createActor, .json document => if response.status = 201 then created document else nothing
  | .changeActor _, .json document => if response.status = 200 then changed document else nothing
  | .deleteActor text, _ =>
    match readActorId text with
    | .ok id => if response.status = 204 then deleted id else nothing
    | .error _ => nothing
  | _, _ => nothing

/-- The register after something was noticed. -/
def enter (register : List Json) : Notice → List Json
  | created document => register ++ [document]
  | changed document =>
    register.map fun old => if documentId? old = documentId? document then document else old
  | deleted id => register.filter (documentId? · != some id)
  | ownerGone userId => register.filter (!isDocumentOf userId ·)
  | nothing => register

end Notice

def Moment.notice (moment : Moment) : Notice :=
  match moment.event with
  | .request client request =>
    match Route.of request.method request.target, (moment.service.handle client request).1 with
    | .endpoint (.call call), .ok response => .ofResponse call response
    | _, _ => .nothing
  | .addUser _ _ => .nothing
  | .removeUser id =>
    match moment.service.store.findUser id with
    | .ok (some user) => .ownerGone user.id
    | _ => .nothing
  | .addActor new =>
    match moment.service.store.addActor new with
    | .ok (actor, _) => .created (insertedDocument actor.id new)
    | .error _ => .nothing
  | .pass _ => .nothing

/-- The latest documents of the actors that are there, in the order in which these were created. -/
def register (moments : List Moment) : List Json :=
  moments.foldl (fun register moment => moment.notice.enter register) []

theorem register_concat (moments : List Moment) (moment : Moment) :
    register (moments ++ [moment]) = moment.notice.enter (register moments) := by
  simp [register]

/-! ## What has happened to the actors -/

/-- What has happened to the table of actors if something was noticed. -/
inductive Stored (store : Store) : Notice → List Actor → Prop where
  | created {actor : Actor} (hid : actor.id = Store.nextId store.actorIds) :
      Stored store (.created (actorJson actor)) (store.insertActor actor).actors
  | changed {actor : Actor} {profile : Profile} (hfound : store.actor? actor.id = some actor) :
      Stored store (.changed (actorJson { actor with profile }))
        (store.setProfile actor.id profile).actors
  | deleted {id : Int} : Stored store (.deleted id) (store.dropActor id).actors
  | ownerGone {userId : Int} : Stored store (.ownerGone userId) (store.dropUser userId).actors
  | nothing : Stored store .nothing store.actors

/-- What is created has the next id. -/
theorem Stored.id_of_created {store : Store} {document : Json} {after : List Actor}
    (hstored : Stored store (.created document) after) :
    documentId? document = some (Store.nextId store.actorIds) := by
  cases hstored with
  | @created actor hid => rw [documentId?_actorJson, hid]

section Steps

variable {service : Service}

theorem ofResponse_of_failed {call : Call} {response : Response}
    (hfailed : writes call → 400 ≤ response.status) :
    Notice.ofResponse call response = .nothing := by
  have hstatus : ∀ n, n < 400 → writes call → response.status ≠ n := by
    intro n hn hwrites hsame
    have hle := hfailed hwrites
    omega
  unfold Notice.ofResponse
  split
  · exact if_neg (hstatus 201 (by decide) rfl)
  · exact if_neg (hstatus 200 (by decide) rfl)
  · split
    · exact if_neg (hstatus 204 (by decide) rfl)
    · rfl
  · rfl

theorem Write.stored {store after : Store} {user : User} {payload : Payload} {call : Call}
    {response : Response} (hwrite : Write store user payload call response after) :
    Stored store (Notice.ofResponse call response) after.actors := by
  cases hwrite with
  | created hread hname hadd =>
      obtain ⟨hwritten, rfl⟩ := Store.addActor_eq_ok hadd
      exact .created hwritten.id
  | @changed text id patch clean actor profile hid hread hfound howned hclean hprofile hallowed =>
      have hsame : actor.id = id := Store.id_of_actor? hfound
      subst hsame
      exact .changed hfound
  | @deleted text id actor hid hfound howned =>
      have hnotice : Notice.ofResponse (.deleteActor text) ⟨204, none, .empty⟩ = .deleted id := by
        simp only [Notice.ofResponse, hid, if_true]
      rw [hnotice]
      exact .deleted

theorem stored_handle (service : Service) (client : String) (request : Request) :
    Stored service.store (Moment.notice ⟨service, .request client request⟩)
      (service.handle client request).2.store.actors := by
  -- Only a call is noticed, and only a call can write.
  by_cases hcalls : ∃ call, Route.of request.method request.target = .endpoint (.call call)
  · obtain ⟨call, hroute⟩ := hcalls
    rcases handle_call_cases service client hroute with
      ⟨user, payload, response, -, -, hreply, hwrite⟩ | ⟨hsame, hfailed⟩
    · simp only [Moment.notice, hroute, hreply]
      exact hwrite.stored
    · simp only [Moment.notice, hroute, hsame]
      cases hreply : (service.handle client request).1 with
      | error crash => exact .nothing
      | ok response =>
          simp only [ofResponse_of_failed fun hwrites => hfailed hwrites response hreply]
          exact .nothing
  · have hsame : (service.handle client request).2.store = service.store := by
      rcases handle_store service client request with hsame | ⟨_, _, call, _, -, hroute, -⟩
      · exact hsame
      · exact absurd ⟨call, hroute⟩ hcalls
    have hnotice : Moment.notice ⟨service, .request client request⟩ = .nothing := by
      simp only [Moment.notice]
      split
      next call response hroute hreply => exact absurd ⟨call, hroute⟩ hcalls
      next => rfl
    rw [hnotice, hsame]
    exact .nothing

/-- Every event does to the actors what is noticed of it. -/
theorem stored_step (service : Service) (event : Event) :
    Stored service.store (Moment.notice ⟨service, event⟩) (service.step event).store.actors := by
  cases event with
  | request client request => exact stored_handle service client request
  | addUser name id =>
      simp only [step, Moment.notice]
      split
      next user after hadd =>
        obtain ⟨-, -, -, -, -, -, -, -, rfl⟩ := Store.addUser_eq_ok hadd
        exact .nothing
      next => exact .nothing
  | removeUser id =>
      simp only [step, Moment.notice, Store.removeUser]
      cases hfound : service.store.findUser id with
      | error cause => exact .nothing
      | ok found =>
          cases found with
          | none => exact .nothing
          | some user => exact .ownerGone
  | addActor new =>
      simp only [step, Moment.notice]
      cases hadd : service.store.addActor new with
      | error cause => exact .nothing
      | ok added =>
          obtain ⟨actor, after⟩ := added
          obtain ⟨hwritten, rfl⟩ := Store.addActor_eq_ok hadd
          simp only [insertedDocument_eq hwritten]
          exact .created hwritten.id
  | pass now => exact .nothing

end Steps

/-!
## The table of actors refines the register

As long as there is room for larger ids, a new actor has the largest id of all, so
the order of the ids is that in which the actors were created.  It stays so when the
largest id is deleted and given again, because the register has then lost it too.
Thus the table holds the actors of the register and nothing else, and whoever asks
for actors is shown documents of the register.
-/

/-- No actor has come to the largest id there is. -/
def HasRoom (service : Service) : Prop := ∀ id ∈ service.store.actorIds, id < Store.maxId

/-- Documents are chosen as their actors are. -/
theorem filter_map_actorJson {p : Json → Bool} {q : Actor → Bool}
    (hp : ∀ actor, p (actorJson actor) = q actor) (actors : List Actor) :
    (actors.map actorJson).filter p = (actors.filter q).map actorJson := by
  rw [List.filter_map]
  congr 1
  exact List.filter_congr fun actor _ => hp actor

section Stored

variable {store : Store} {notice : Notice} {after : List Actor}

theorem Stored.map_actorJson (hkeyed : store.Keyed)
    (hroom : ∀ id ∈ store.actorIds, id < Store.maxId) (hstored : Stored store notice after) :
    after.map actorJson = notice.enter (store.actors.map actorJson) := by
  cases hstored with
  | @created actor hid =>
      have hlast : ∀ other ∈ store.actors, other.id < actor.id := by
        intro other hother
        rw [hid]
        exact Store.lt_nextId hroom (List.mem_map_of_mem hother)
      simp only [Store.insertActor, Store.insertById_of_lt hlast, List.map_append, List.map_cons,
        List.map_nil, Notice.enter]
  | @changed actor profile hfound =>
      have hactor := (hkeyed.actor?_eq_some_iff.mp hfound).1
      simp only [Store.setProfile, Notice.enter, List.map_map, documentId?_actorJson]
      -- Only one row has the id, so the document that is written stands for the row that was found.
      apply List.map_congr_left
      intro other hother
      by_cases hsame : other.id = actor.id
      · have heq : other = actor := hkeyed.actors.eq_of_id_eq hother hactor hsame
        simp [heq, actorJson_revised]
      · simp [hsame]
  | @deleted id =>
      have hkept : ∀ actor : Actor, (documentId? (actorJson actor) != some id) =
          (actor.id != id) := fun actor => rfl
      exact (filter_map_actorJson hkept store.actors).symm
  | @ownerGone userId =>
      have hkept : ∀ actor : Actor, (!isDocumentOf userId (actorJson actor)) =
          !actor.isOwnedBy userId := by
        intro actor
        rw [isDocumentOf_actorJson]
      exact (filter_map_actorJson hkept store.actors).symm
  | nothing => rfl

theorem Stored.pos (hpos : ∀ actor ∈ store.actors, 0 < actor.id)
    (hstored : Stored store notice after) : ∀ actor ∈ after, 0 < actor.id := by
  intro actor hactor
  cases hstored with
  | @created new hid =>
      have hids : ∀ id ∈ store.actorIds, 0 < id := by
        intro id hid
        obtain ⟨old, hold, rfl⟩ := List.mem_map.mp hid
        exact hpos old hold
      rcases (Store.mem_insertById Actor.id new store.actors actor).mp hactor with rfl | hold
      · rw [hid]
        exact Store.nextId_pos hids
      · exact hpos actor hold
  | changed hfound =>
      obtain ⟨old, hold, rfl⟩ := List.mem_map.mp hactor
      have holdPos := hpos old hold
      split
      · rwa [Actor.revised_id]
      · exact holdPos
  | deleted => exact hpos actor (List.mem_of_mem_filter hactor)
  | ownerGone => exact hpos actor (List.mem_of_mem_filter hactor)
  | nothing => exact hpos actor hactor

end Stored

/-! ### Runs -/

/-- The table of actors holds those of a register, in its order. -/
structure Registered (service : Service) (register : List Json) : Prop where
  keyed : service.store.Keyed
  pos : ∀ actor ∈ service.store.actors, 0 < actor.id
  documents : service.store.actors.map actorJson = register

theorem Registered.step {service : Service} {register : List Json}
    (hregistered : Registered service register) (hroom : HasRoom service) (event : Event) :
    Registered (service.step event) ((Moment.notice ⟨service, event⟩).enter register) := by
  have hstored := stored_step service event
  refine ⟨keyed_step hregistered.keyed event, hstored.pos hregistered.pos, ?_⟩
  rw [hstored.map_actorJson hregistered.keyed hroom, hregistered.documents]

theorem Registered.run {start : Service} {events : List Event} (hkeyed : start.store.Keyed)
    (hnone : start.store.actors = [])
    (hroom : ∀ front, front <+: events → HasRoom (start.run front)) :
    Registered (start.run events) (register (start.moments events)) := by
  induction events using List.reverseRecOn with
  | nil =>
      have hactors : (start.run []).store.actors = [] := hnone
      exact ⟨hkeyed, by simp [hactors], by simp [hactors, moments, register]⟩
  | append_singleton rest event ih =>
      have hrest : ∀ front, front <+: rest → HasRoom (start.run front) :=
        fun front hfront => hroom front (hfront.trans (List.prefix_append rest [event]))
      rw [run_concat, moments_concat, register_concat]
      exact (ih hrest).step (hrest rest (List.prefix_refl rest)) event

/-! ### What is shown -/

/-- What is shown of the actors is what stands in a register. -/
structure Refines (service : Service) (register : List Json) : Prop where
  /-- The ids grow in the order of creation, so no two actors have one id. -/
  increasing : register.Pairwise fun old new =>
    ∃ m n, documentId? old = some m ∧ documentId? new = some n ∧ m < n
  newest : ∀ event document, Moment.notice ⟨service, event⟩ = .created document →
    ∃ n, documentId? document = some n ∧
      ∀ old ∈ register, ∃ m, documentId? old = some m ∧ m < n
  /-- What was added with plain values is shown with these. -/
  inserted : ∀ new document ownerId name,
    Moment.notice ⟨service, .addActor new⟩ = .created document → Plain new ownerId name →
    ∃ n, document = .record [("id", .int n), ("ownerId", .int ownerId), ("name", .str name),
      ("abilities", .record new.complete.scores.toList), ("profBonus", new.complete.bonus)]
  listed : ∀ client request user, service.requester client request = some user →
    Route.of request.method request.target = .endpoint (.call .listActors) →
    (service.handle client request).1 =
      .ok (.json 200 (.list (register.filter (isDocumentOf user.id))))
  shown : ∀ client request user text id document,
    service.requester client request = some user →
    Route.of request.method request.target = .endpoint (.call (.showActor text)) →
    readActorId text = .ok id → document ∈ register → documentId? document = some id →
    (service.handle client request).1 = .ok (.json 200 document)
  missing : ∀ client request user text id, service.requester client request = some user →
    Route.of request.method request.target = .endpoint (.call (.showActor text)) →
    readActorId text = .ok id → Cell.holds id →
    (∀ document ∈ register, documentId? document ≠ some id) →
    (service.handle client request).1 = .ok (.detail 404 "Actor not found")

theorem Registered.refines {service : Service} {register : List Json}
    (hregistered : Registered service register) (hroom : HasRoom service) :
    Refines service register := by
  obtain ⟨hkeyed, hpos, rfl⟩ := hregistered
  refine ⟨?increasing, ?newest, ?inserted, ?listed, ?shown, ?missing⟩
  case increasing =>
    apply List.pairwise_map.mpr
    exact hkeyed.actors.imp fun hlt => ⟨_, _, rfl, rfl, hlt⟩
  case newest =>
    intro event document hnotice
    have hstored := stored_step service event
    rw [hnotice] at hstored
    refine ⟨_, hstored.id_of_created, ?_⟩
    intro old hold
    obtain ⟨other, hother, rfl⟩ := List.mem_map.mp hold
    exact ⟨other.id, rfl, Store.lt_nextId hroom (List.mem_map_of_mem hother)⟩
  case inserted =>
    intro new document ownerId name hnotice hplain
    simp only [Moment.notice] at hnotice
    split at hnotice
    next actor after hadd =>
      obtain rfl := Notice.created.inj hnotice
      exact ⟨actor.id, hplain.insertedDocument_eq (Store.addActor_eq_ok hadd).1⟩
    next => cases hnotice
  case listed =>
    intro client request user huser hroute
    rw [(handle_of_user hroute rfl huser).1]
    rw [filter_map_actorJson (isDocumentOf_actorJson user.id)]
    rfl
  case shown =>
    intro client request user text id document huser hroute hid hdocument hsame
    obtain ⟨actor, hactor, rfl⟩ := List.mem_map.mp hdocument
    obtain rfl := Option.some.inj hsame
    have hholds : Cell.holds actor.id := by
      have hleast := hpos actor hactor
      have hmost := hroom actor.id (List.mem_map_of_mem hactor)
      simp only [Store.maxId, Cell.maxInt] at hmost
      simp only [Cell.holds, Cell.maxInt, Bool.and_eq_true]
      constructor
      · apply decide_eq_true
        omega
      · apply decide_eq_true
        omega
    rw [reply_of_showActor huser hroute hid hholds,
      hkeyed.actor?_eq_some_iff.mpr ⟨hactor, rfl⟩]
    rfl
  case missing =>
    intro client request user text id huser hroute hid hholds hmissing
    have hnone : service.store.actor? id = none := by
      cases hfound : service.store.actor? id with
      | none => rfl
      | some actor =>
          obtain ⟨hactor, rfl⟩ := hkeyed.actor?_eq_some_iff.mp hfound
          exact absurd rfl (hmissing _ (List.mem_map_of_mem hactor))
    rw [reply_of_showActor huser hroute hid hholds, hnone]
    rfl

/-- From a table without actors on, and as long as there is room for ids, the answers show what
the register of the run says.  It is the store that chooses the ids of actors, also of those that
are added from inside: one that came with a lower id of its own would not be listed last. -/
theorem actors_refine_register {start : Service} {events : List Event}
    (hkeyed : start.store.Keyed) (hnone : start.store.actors = [])
    (hroom : ∀ front, front <+: events → HasRoom (start.run front)) :
    Refines (start.run events) (register (start.moments events)) :=
  (Registered.run hkeyed hnone hroom).refines (hroom events (List.prefix_refl events))

/-- Ann's cow is deleted and her hen gets its id, her cat is renamed, and Bob takes his dog with
him. -/
theorem actors_refine_register_reused_id :
    let start : Service := ⟨{}, {}, [], .stream (fun _ => .ofGrid 0) 0⟩
    let ask (method path mediaType body : String) : Event := .request "ann" {
      method := method
      target := ⟨"http://test", "test", "test.local", path.toList, []⟩
      mediaType := mediaType
      body := body.toUTF8.toList }
    let events := [
      .addUser (.str "Ann") .null,
      .addUser (.str "Bob") .null,
      ask "POST" "/dev/login" "application/x-www-form-urlencoded" "user_id=1",
      ask "POST" "/api/actors" "application/json" "\x7b\"name\": \"Cat\"\x7d",
      .addActor { ownerId := .int 2, name := .str "Dog" },
      ask "POST" "/api/actors" "application/json" "\x7b\"name\": \"Cow\"\x7d",
      ask "DELETE" "/api/actors/3" "" "",
      ask "POST" "/api/actors" "application/json" "\x7b\"name\": \"Hen\"\x7d",
      ask "PATCH" "/api/actors/1" "application/json" "\x7b\"name\": \"Tom\"\x7d",
      .removeUser (.int 2)]
    (register (start.moments events)).map documentId? = [some 1, some 3] ∧
      Refines (start.run events) (register (start.moments events)) := by
  intro start ask events
  have hroom : ∀ front ∈ events.inits, HasRoom (start.run front) := by
    unfold HasRoom
    decide +kernel
  refine ⟨by decide +kernel, actors_refine_register Store.keyed_empty rfl ?_⟩
  intro front hfront
  exact hroom front ((List.mem_inits front events).mpr hfront)

end Service
end Tabletop
