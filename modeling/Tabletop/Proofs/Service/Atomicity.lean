import Tabletop.Proofs.Service.Answers
import Tabletop.Proofs.Service.Reachable
import Mathlib

/-!
# Requests are atomic

A request writes one row of the actors or none, and its status tells which: a row
is added where the answer is 201, replaced where it is 200 to a patch, and
removed where it is 204.  A request that is refused or that crashes, at whatever
point, has written nothing, because a call that fails leaves no store behind.
-/

namespace Tabletop
namespace Service

open Web

/-- What a request has done to the actors if its status is one of success. -/
inductive SingleWrite (request : Request) : Nat → List Actor → List Actor → Prop where
  | added {actor : Actor} {front back : List Actor}
      (hmethod : request.method = "POST")
      (hplace : Place.ofPath? request.target.readablePath = some .actors)
      (hfree : ∀ other ∈ front ++ back, other.id ≠ actor.id) :
      SingleWrite request 201 (front ++ back) (front ++ actor :: back)
  | changed {text : String} {old new : Actor} {front back : List Actor}
      (hmethod : request.method = "PATCH")
      (hplace : Place.ofPath? request.target.readablePath = some (.actor text))
      (hid : readActorId text = .ok old.id)
      (hkept : new.id = old.id)
      (hothers : ∀ other ∈ front ++ back, other.id ≠ old.id) :
      SingleWrite request 200 (front ++ old :: back) (front ++ new :: back)
  | removed {text : String} {old : Actor} {front back : List Actor}
      (hmethod : request.method = "DELETE")
      (hplace : Place.ofPath? request.target.readablePath = some (.actor text))
      (hid : readActorId text = .ok old.id)
      (hothers : ∀ other ∈ front ++ back, other.id ≠ old.id) :
      SingleWrite request 204 (front ++ old :: back) (front ++ back)

/-- How the tables stand after a request, by the status of its response. -/
structure Atomic (service : Service) (client : String) (request : Request) : Prop where
  users : (service.handle client request).2.store.users = service.store.users
  /-- If the actors differ, one row was written and the status says how. -/
  minimal : (service.handle client request).2.store.actors ≠ service.store.actors →
    ∃ n, service.status? client request = some n ∧
      SingleWrite request n service.store.actors (service.handle client request).2.store.actors
  /-- A call that should write and does not fail has written. -/
  written : ∀ call n, Route.of request.method request.target = .endpoint (.call call) →
    writes call → service.status? client request = some n → n < 400 →
    SingleWrite request n service.store.actors (service.handle client request).2.store.actors
  refused : ∀ n, service.status? client request = some n → 400 ≤ n →
    (service.handle client request).2.store = service.store
  crashed : service.status? client request = none →
    (service.handle client request).2.store = service.store
  /-- A blank name refuses a whole patch that could be applied otherwise. -/
  blankName : ∀ text payload user id patch name actor,
    Route.of request.method request.target = .endpoint (.call (.changeActor text)) →
    bodyFor request (.changeActor text) = .ok payload →
    service.requester client request = some user →
    readActorId text = .ok id → payload.read Patch.ofJson = .ok patch →
    Cell.holds id → service.store.actor? id = some actor → actor.isOwnedBy user.id →
    patch.name = some name → Text.stripBlank name = "" →
    service.status? client request = some 422

theorem Write.singleWrite {store after : Store} {user : User} {payload : Payload} {call : Call}
    {response : Response} {request : Request} (hkeyed : store.Keyed)
    (hroute : Route.of request.method request.target = .endpoint (.call call))
    (hwrite : Write store user payload call response after) :
    SingleWrite request response.status store.actors after.actors := by
  obtain ⟨hplace, hmethod⟩ := Route.of_eq_endpoint_iff.mp hroute
  cases hwrite with
  | @created profile name actor after hread hname hadd =>
      obtain ⟨hwritten, rfl⟩ := Store.addActor_eq_ok hadd
      obtain ⟨front, back, hbefore, hafter⟩ :=
        Store.insertById_splits Actor.id actor store.actors
      have hfree : ∀ other ∈ front ++ back, other.id ≠ actor.id := by
        intro other hother hsame
        apply hwritten.id_free
        rw [← hsame]
        exact List.mem_map_of_mem (hbefore ▸ hother)
      simp only [Store.insertActor]
      rw [hafter, hbefore]
      exact .added hmethod hplace hfree
  | @changed text id patch clean actor profile hid hread hfound howned hclean hprofile hallowed =>
      obtain ⟨front, back, hbefore, hafter, hothers⟩ := hkeyed.setProfile_splits hfound profile
      obtain rfl := (hkeyed.actor?_eq_some_iff.mp hfound).2
      rw [hafter, hbefore]
      exact .changed hmethod hplace hid (actor.revised_id _ _) hothers
  | @deleted text id actor hid hfound howned =>
      obtain ⟨front, back, hbefore, hafter, hothers⟩ := hkeyed.dropActor_splits hfound
      obtain rfl := (hkeyed.actor?_eq_some_iff.mp hfound).2
      rw [hafter, hbefore]
      exact .removed hmethod hplace hid hothers

section Requests

variable {service : Service} {client : String} {request : Request}

/-- If the store is not as it was, one row was written and the request succeeded. -/
theorem singleWrite_or_same (hkeyed : service.store.Keyed) (client : String)
    (request : Request) :
    (service.handle client request).2.store = service.store ∨
      ∃ n, service.status? client request = some n ∧ n < 300 ∧
        SingleWrite request n service.store.actors
          (service.handle client request).2.store.actors := by
  rcases handle_store service client request with
    hsame | ⟨user, payload, call, response, -, hroute, -, hreply, hwrite⟩
  · exact .inl hsame
  · have hstatus := status?_eq_some_iff.mpr ⟨_, hreply, Response.seenBy_status _ _⟩
    exact .inr ⟨response.status, hstatus, hwrite.status_lt, hwrite.singleWrite hkeyed hroute⟩

/-- In every state that is reached, a request of any kind writes one row or none, and it has
written nothing if it is refused or crashes. -/
theorem request_atomic (hreach : Reachable service) (client : String)
    (request : Request) : Atomic service client request := by
  have hkeyed := hreach.keyed
  have hwrites := singleWrite_or_same hkeyed client request
  refine ⟨?users, ?minimal, ?written, ?refused, ?crashed, ?blankName⟩
  case users => exact handle_users service client request
  case minimal =>
    intro hdiffer
    rcases hwrites with hsame | ⟨n, hstatus, -, hwrite⟩
    · exact absurd (congrArg Store.actors hsame) hdiffer
    · exact ⟨n, hstatus, hwrite⟩
  case written =>
    intro call n hroute hcall hstatus hsuccess
    obtain ⟨response, hresponse, rfl⟩ := status?_eq_some_iff.mp hstatus
    rcases handle_call_cases service client hroute with
      ⟨user, payload, written, -, -, hreply, hwrite⟩ | ⟨-, hfailed⟩
    · obtain rfl := Except.ok.inj (hreply.symm.trans hresponse)
      exact hwrite.singleWrite hkeyed hroute
    · have hstatus := hfailed hcall response hresponse
      omega
  case refused =>
    intro n hstatus hrefused
    rcases hwrites with hsame | ⟨m, hother, hsuccess, -⟩
    · exact hsame
    · rw [hstatus] at hother
      obtain rfl := Option.some.inj hother
      omega
  case crashed =>
    intro hcrash
    rcases hwrites with hsame | ⟨m, hother, -⟩
    · exact hsame
    · rw [hcrash] at hother
      cases hother
  case blankName =>
    intro text payload user id patch name actor hroute hbody huser hid hread hholds hfound
      howned hname hblank
    rw [status?_eq_some_iff]
    refine ⟨Refusal.blankName.response, ?_, rfl⟩
    rw [(handle_of_user hroute hbody huser).1, answerCall_changeActor,
      changeAtOnce_of_blankName hid hread hholds hfound howned hname hblank]
    rfl

/-- Ann, who owns a cat, sends a patch with new scores and a name of one space. -/
theorem request_atomic_blank_patch :
    let service := (Service.mk {} {} [] (.stream (fun _ => .ofGrid 0) 0)).run [
      .addUser (.str "Ann") .null,
      .addActor { ownerId := .int 1, name := .str "Cat" },
      .request "ann" {
        method := "POST"
        target := ⟨"http://test", "test", "test.local", "/dev/login".toList, []⟩
        mediaType := "application/x-www-form-urlencoded"
        body := "user_id=1".toUTF8.toList }]
    let request : Request := {
      method := "PATCH"
      target := ⟨"http://test", "test", "test.local", "/api/actors/1".toList, []⟩
      mediaType := "application/json"
      body := "\x7b\"name\": \" \", \"abilities\": \x7b\"STR\": 18\x7d\x7d".toUTF8.toList }
    service.status? "ann" request = some 422 ∧
      (service.handle "ann" request).2.store = service.store := by
  intro service request
  have hreach : Reachable service := (Reachable.fresh _ _).run _
  have hstatus : service.status? "ann" request = some 422 := by decide +kernel
  exact ⟨hstatus, (request_atomic hreach "ann" request).refused 422 hstatus (by decide)⟩

end Requests
end Service
end Tabletop
