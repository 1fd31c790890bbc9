import Tabletop.Proofs.Service.Clock
import Tabletop.Proofs.Service.Patches
import Mathlib

/-!
# Patches of a stored actor

The owner of an actor patches it.  What the patch gives is merged into the profile of the row, and
nothing else in the service changes, but that the row notes when it was last written if it is
written at all.  So the next patch meets the merged row, and whatever holds of merging one update
after the other holds of sending one patch after the other, whatever time passes in between.
-/

namespace Tabletop

open Text Validation Web

/-! ## Rows -/

/-- A row without the note of when it was last written. -/
def Actor.untimed (actor : Actor) : Actor := { actor with updated := 0 }

/-- What a patch makes at some time of the row of an actor.  What it gives is set, and all else is
kept; the row is written, and its last change noted, only if something in it differs. -/
structure Patched (update : Update) (now : Time) (old new : Actor) : Prop where
  id : new.id = old.id
  owner : new.ownerId = old.ownerId
  created : new.created = old.created
  merges : Merges update old.profile new.profile
  updated : new.updated = if new.profile = old.profile then old.updated else now

namespace Patched

variable {update first later : Update} {now before : Time} {old between new other : Actor}
  {profile : Profile}

/-- The row is known by its profile. -/
theorem eq_revised (hnew : Patched update now old new) : new = old.revised now new.profile := by
  obtain ⟨hid, howner, hcreated, -, hupdated⟩ := hnew
  unfold Actor.revised
  cases new
  cases old
  split
  next hsame => simp_all
  next hdiffers => simp_all

theorem eq (hnew : Patched update now old new) (hother : Patched update now old other) :
    new = other := by
  rw [hnew.eq_revised, hother.eq_revised, hnew.merges.eq hother.merges]

/-- A row that has all that a patch gives is not written. -/
theorem eq_self (hnew : Patched update now old new) (hsame : new.profile = old.profile) :
    new = old := by
  rw [hnew.eq_revised, Actor.revised, if_pos hsame]

/-- Two patches at one time are one, unless the second takes back what the first has changed. -/
theorem trans (hbetween : Patched first now old between) (hnew : Patched later now between new)
    (hnoted : new.profile ≠ old.profile ∨ between = old) :
    Patched (first.overriddenBy later) now old new := by
  refine ⟨hnew.id.trans hbetween.id, hnew.owner.trans hbetween.owner,
    hnew.created.trans hbetween.created, hbetween.merges.trans hnew.merges, ?_⟩
  rcases hnoted with hdiffers | rfl
  · rw [if_neg hdiffers, hnew.updated]
    split
    next hsame => rw [hbetween.updated, if_neg (hsame ▸ hdiffers)]
    next => rfl
  · exact hnew.updated

/-- A patch finds nothing to do where it has been. -/
theorem again (hbetween : Patched update before old between)
    (hnew : Patched update now between new) : new = between :=
  hnew.eq_self (hnew.merges.eq hbetween.merges.again)

end Patched

namespace Service

/-- The service with another row in the place of the row of the same id. -/
def withRow (service : Service) (row : Actor) : Service :=
  { service with store := service.store.setRow row }

/-- An actor is found under its id, with scores that may be stored. -/
structure HasRow (service : Service) (actor : Actor) : Prop where
  keyed : service.store.Keyed
  found : service.store.findActor (.int actor.id) = .ok (some actor)
  allowed : Store.checkScores actor.profile.scores = .ok ()

/-- The owner of an actor sends a body that is a patch for it. -/
structure Patches (service : Service) (client : String) (request : Request) (actor : Actor)
    (json : Json) : Prop where
  route : ∃ text, Route.of request.method request.target = .endpoint (.call (.changeActor text)) ∧
    readActorId text = .ok actor.id
  owner : ∃ user, service.requester client request = some user ∧ actor.isOwnedBy user.id
  body : request.json? = some json
  valid : IsPatch json

section Requests

variable {service : Service} {client other : String} {request second : Request}
  {actor row old : Actor} {json body : Json} {now : Time}

theorem HasRow.withRow (hrow : HasRow service actor) (hid : row.id = actor.id)
    (hallowed : Store.checkScores row.profile.scores = .ok ()) :
    HasRow (service.withRow row) row := by
  obtain ⟨hholds, hfound⟩ := Store.findActor_int_eq_ok_iff.mp hrow.found
  refine ⟨hrow.keyed.setRow row, Store.findActor_int_eq_ok_iff.mpr ⟨?_, ?_⟩, hallowed⟩
  · rwa [hid]
  · rw [hid]
    exact Store.actor?_setRow hfound hid

theorem HasRow.pass (hrow : HasRow service actor) (now : Time) :
    HasRow (service.step (.pass now)) actor :=
  ⟨⟨hrow.keyed.users, hrow.keyed.actors⟩, hrow.found, hrow.allowed⟩

/-- Who is signed in and who owns an actor depends neither on profiles nor on the time. -/
theorem Patches.passed (hpatches : Patches service client request actor json)
    (hid : row.id = actor.id) (howner : row.ownerId = actor.ownerId) (now : Time) :
    Patches ((service.withRow row).step (.pass now)) client request row json := by
  refine ⟨?_, ?_, hpatches.body, hpatches.valid⟩
  · rw [hid]
    exact hpatches.route
  · unfold Actor.isOwnedBy
    rw [howner]
    exact hpatches.owner

end Requests

/-! ## Laws of patches -/

/-- The service without the time, and without the notes of when actors were last written. -/
def untimed (service : Service) : Service :=
  { service with
    store := { service.store with
      now := 0
      actors := service.store.actors.map Actor.untimed } }

/-- Nor can anybody find out by what is done later. -/
theorem reply_of_untimed {service other : Service} (hsame : service.untimed = other.untimed)
    (events : List Event) (client : String) (request : Request) :
    ((service.run events).handle client request).1 =
      ((other.run events).handle client request).1 := by
  have hundated : ∀ service : Service, service.untimed.undated = service.undated := by
    intro service
    simp only [undated, untimed, Store.undated, List.map_map]
    rfl
  have hboth : service.undated = other.undated := by rw [← hundated, hsame, hundated]
  exact reply_of_undated hboth rfl client request

end Service
end Tabletop
