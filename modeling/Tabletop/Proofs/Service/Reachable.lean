import Tabletop.Proofs.Service.Startup
import Tabletop.Proofs.Service.Writes
import Mathlib

/-!
# States that are reached

A service begins with an empty store and without sessions.  From there on it may
be started, also more than once, and take requests of any clients and changes from
inside, in any order.  Whatever happens to it, its tables stay in the order of
their ids.
-/

namespace Tabletop
namespace Service

open Tabletop.Random Web

inductive Reachable : Service → Prop where
  | fresh (settings : Settings) (source : Source) : Reachable ⟨settings, {}, [], source⟩
  | startup {service : Service} (hreach : Reachable service) :
      Reachable { service with store := (start service.settings service.store).2 }
  | step {service : Service} (hreach : Reachable service) (event : Event) :
      Reachable (service.step event)

theorem Reachable.run {service : Service} (hreach : Reachable service) (events : List Event) :
    Reachable (service.run events) := by
  induction events generalizing service with
  | nil => exact hreach
  | cons event rest ih => exact ih (hreach.step event)

/-! ## The order of the tables -/

section Keyed

variable {service : Service}

theorem Write.keyed {store after : Store} {user : User} {payload : Payload} {call : Call}
    {response : Response} (hkeyed : store.Keyed)
    (hwrite : Write store user payload call response after) : after.Keyed := by
  cases hwrite with
  | created hread hname hadd => exact hkeyed.addActor hadd
  | changed hid hread hfound howned hclean hprofile hallowed => exact hkeyed.setProfile _ _
  | deleted hid hfound howned => exact hkeyed.dropActor _

theorem keyed_start {settings : Settings} {store : Store} (hkeyed : store.Keyed) :
    (start settings store).2.Keyed := by
  rcases start_store settings store with hsame | hstart
  · rw [hsame]
    exact hkeyed
  · exact hkeyed.ensureUsers hstart

theorem keyed_handle (hkeyed : service.store.Keyed) (client : String) (request : Request) :
    (service.handle client request).2.store.Keyed := by
  rcases handle_store service client request with hsame | ⟨_, _, _, _, -, -, -, -, hwrite⟩
  · rw [hsame]
    exact hkeyed
  · exact hwrite.keyed hkeyed

theorem Change.keyed {event : Event} {after : Store} (hkeyed : service.store.Keyed)
    (hchange : Change service event after) : after.Keyed := by
  cases hchange with
  | request client request => exact keyed_handle hkeyed client request
  | addUser hadd => exact hkeyed.addUser hadd
  | removeUser hremove => exact hkeyed.removeUser hremove
  | addActor hadd => exact hkeyed.addActor hadd
  | pass now => exact ⟨hkeyed.users, hkeyed.actors⟩
  | refused => exact hkeyed

theorem keyed_step (hkeyed : service.store.Keyed) (event : Event) :
    (service.step event).store.Keyed :=
  (change_step service event).keyed hkeyed

theorem Reachable.keyed (hreach : Reachable service) : service.store.Keyed := by
  induction hreach with
  | fresh settings source => exact Store.keyed_empty
  | startup hreach ih => exact keyed_start ih
  | step hreach event ih => exact keyed_step ih event

end Keyed

end Service

/-!
## Actors belong to their owners

Only its owner can change an actor.  A request finds the actor by its id before it
looks at the owner, and then writes by the id alone; since an id names one row,
what was looked at is what is written.  The rows of everybody else are the same
rows before and after, and no row ever gets another id or another owner.
-/

/-- What says whose an actor is. -/
def Actor.deed (actor : Actor) : Int × Cell := (actor.id, actor.ownerId)

/-- What a request may do to the actors, whoever makes it. -/
structure KeepsOwners (requester : Option User) (before after : List Actor) : Prop where
  /-- The actors of everybody else stay as they are. -/
  others : ∀ user, requester = some user →
    after.filter (!·.isOwnedBy user.id) = before.filter (!·.isOwnedBy user.id)
  /-- Who is not signed in changes nothing. -/
  nobody : requester = none → after = before
  created : ∀ actor ∈ after, actor.id ∉ before.map Actor.id →
    ∃ user, requester = some user ∧ actor.ownerId = .int user.id
  kept : ∀ actor ∈ after, ∀ old ∈ before, actor.id = old.id → actor.ownerId = old.ownerId
  /-- No row changes its id or its owner: rows only go, or only come. -/
  deeds : (after.map Actor.deed).Sublist (before.map Actor.deed) ∨
    (before.map Actor.deed).Sublist (after.map Actor.deed)

namespace KeepsOwners

variable {store : Store} {user : User} {actor : Actor}

/-- If rows only go, nothing is created and nothing gets another owner. -/
theorem of_sublist {requester : Option User} {before after : List Actor}
    (hsorted : SortedBy Actor.id before)
    (hdeeds : (after.map Actor.deed).Sublist (before.map Actor.deed))
    (hothers : ∀ user, requester = some user →
      after.filter (!·.isOwnedBy user.id) = before.filter (!·.isOwnedBy user.id))
    (hnobody : requester = none → after = before) : KeepsOwners requester before after := by
  have hold : ∀ actor ∈ after, ∃ old ∈ before, old.deed = actor.deed := by
    intro actor hactor
    exact List.mem_map.mp (hdeeds.subset (List.mem_map_of_mem hactor))
  refine ⟨hothers, hnobody, ?created, ?kept, .inl hdeeds⟩
  case created =>
    intro actor hactor hnew
    obtain ⟨old, hmem, hdeed⟩ := hold actor hactor
    have hid : old.id = actor.id := congrArg Prod.fst hdeed
    exact absurd (hid ▸ List.mem_map_of_mem hmem) hnew
  case kept =>
    intro actor hactor other hother hsame
    obtain ⟨old, hmem, hdeed⟩ := hold actor hactor
    have hid : old.id = actor.id := congrArg Prod.fst hdeed
    have howner : old.ownerId = actor.ownerId := congrArg Prod.snd hdeed
    rw [← howner, hsorted.eq_of_id_eq hmem hother (hid.trans hsame)]

theorem refl {requester : Option User} (hkeyed : store.Keyed) :
    KeepsOwners requester store.actors store.actors :=
  of_sublist hkeyed.actors (List.Sublist.refl _) (fun _ _ => rfl) (fun _ => rfl)

theorem setProfile (hkeyed : store.Keyed) {id : Int} (hfound : store.actor? id = some actor)
    (howned : actor.isOwnedBy user.id) (profile : Profile) :
    KeepsOwners (some user) store.actors (store.setProfile id profile).actors := by
  apply of_sublist hkeyed.actors
  · rw [Store.map_setProfile fun _ => by simp [Actor.deed]]
  · rintro _ ⟨⟩
    apply hkeyed.filter_setProfile hfound
    · simp [howned]
    · simpa [Actor.isOwnedBy] using howned
  · nofun

theorem dropActor (hkeyed : store.Keyed) {id : Int} (hfound : store.actor? id = some actor)
    (howned : actor.isOwnedBy user.id) :
    KeepsOwners (some user) store.actors (store.dropActor id).actors := by
  apply of_sublist hkeyed.actors
  · exact List.filter_sublist.map Actor.deed
  · rintro _ ⟨⟩
    apply hkeyed.filter_dropActor hfound
    simp [howned]
  · nofun

theorem insertActor (hkeyed : store.Keyed) (hfree : actor.id ∉ store.actorIds)
    (howner : actor.ownerId = .int user.id) :
    KeepsOwners (some user) store.actors (store.insertActor actor).actors := by
  refine ⟨?others, nofun, ?created, ?kept, ?deeds⟩
  case others =>
    rintro _ ⟨⟩
    apply Store.filter_insertById
    simp [Actor.isOwnedBy, howner]
  case created =>
    intro other hother hnew
    rcases (Store.mem_insertById _ _ _ _).mp hother with rfl | hold
    · exact ⟨user, rfl, howner⟩
    · exact absurd (List.mem_map_of_mem hold) hnew
  case kept =>
    intro other hother old hold hid
    rcases (Store.mem_insertById _ _ _ _).mp hother with rfl | hother
    · exact absurd (hid ▸ List.mem_map_of_mem hold) hfree
    · rw [hkeyed.actors.eq_of_id_eq hother hold hid]
  case deeds =>
    right
    exact (Store.sublist_insertById Actor.id actor store.actors).map Actor.deed

end KeepsOwners

namespace Service

open Web

variable {service : Service}

theorem Write.keepsOwners {store after : Store} {user : User} {payload : Payload} {call : Call}
    {response : Response} (hkeyed : store.Keyed)
    (hwrite : Write store user payload call response after) :
    KeepsOwners (some user) store.actors after.actors := by
  cases hwrite with
  | created hread hname hadd =>
      obtain ⟨hwritten, rfl⟩ := Store.addActor_eq_ok hadd
      apply KeepsOwners.insertActor hkeyed hwritten.id_free
      exact hwritten.ownerId_eq_int rfl
  | changed hid hread hfound howned hclean hprofile hallowed =>
      exact KeepsOwners.setProfile hkeyed hfound howned _
  | deleted hid hfound howned => exact KeepsOwners.dropActor hkeyed hfound howned

/-- In every state that is reached, a request changes no actors but those of the user that
it is made by. -/
theorem request_keeps_owners (hreach : Reachable service) (client : String)
    (request : Request) :
    KeepsOwners (service.requester client request) service.store.actors
      (service.handle client request).2.store.actors := by
  have hkeyed := hreach.keyed
  rcases handle_store service client request with
    hsame | ⟨user, _, _, _, huser, -, -, -, hwrite⟩
  · rw [hsame]
    exact KeepsOwners.refl hkeyed
  · rw [huser]
    exact hwrite.keepsOwners hkeyed

/-- Ben is signed in and asks that an actor of Ann be deleted. -/
theorem request_keeps_owners_stranger :
    let service := (Service.mk {} {} [] (.stream (fun _ => .ofGrid 0) 0)).run [
      .addUser (.str "Ann") .null,
      .addUser (.str "Ben") .null,
      .addActor { ownerId := .int 1, name := .str "Cat" },
      .request "ben" {
        method := "POST"
        target := ⟨"http://test", "test", "test.local", "/dev/login".toList, []⟩
        mediaType := "application/x-www-form-urlencoded"
        body := "user_id=2".toUTF8.toList }]
    let request : Request := {
      method := "DELETE"
      target := ⟨"http://test", "test", "test.local", "/api/actors/1".toList, []⟩ }
    service.requester "ben" request = some ⟨2, "Ben"⟩ ∧
      KeepsOwners (some ⟨2, "Ben"⟩) service.store.actors
        (service.handle "ben" request).2.store.actors := by
  intro service request
  have hreach : Reachable service := (Reachable.fresh _ _).run _
  have hben : service.requester "ben" request = some ⟨2, "Ben"⟩ := by decide +kernel
  have hkept := request_keeps_owners hreach "ben" request
  rw [hben] at hkept
  exact ⟨hben, hkept⟩

end Service

end Tabletop
