import Tabletop.Proofs.Service.Sessions
import Mathlib

/-!
# Who a call is made by

A call is answered for the user under whose id its visitor signed in last.  It is
refused with the status 401 exactly if there is no such id, the id is zero, or no
user has it at the moment.  Whether a user has it is looked up anew by every call,
so the same history answers for a user, then for nobody, as the users change.
-/

namespace Tabletop
namespace Service

open Web

/-- A visitor's request is a call whose body can be read. -/
structure MakesCall (visitor : Visitor) (request : Request) (call : Call) (payload : Payload) :
    Prop where
  site : request.target.site = visitor.site
  own : request.foreignCookies = false
  route : Route.of request.method request.target = .endpoint (.call call)
  body : bodyFor request call = .ok payload

section Calls

variable {visitor : Visitor} {service : Service} {request : Request} {call : Call}
  {payload : Payload}

theorem MakesCall.requester_eq (hcall : MakesCall visitor request call payload) :
    service.requester visitor.client request =
      (service.session visitor).user? service.store := by
  unfold requester
  rw [shown_of_own hcall.site hcall.own]

theorem MakesCall.refused_iff (hcall : MakesCall visitor request call payload) :
    service.status? visitor.client request = some 401 ↔ ∀ id,
      service.session visitor = some id → id = 0 ∨ service.store.user? id = none := by
  rw [status?_eq_401_iff hcall.route hcall.body, hcall.requester_eq,
    Session.user?_eq_none_iff]

theorem Session.user?_eq_some {store : Store} {id : Int} {user : User} (hid : id ≠ 0)
    (huser : store.user? id = some user) : Session.user? (some id) store = some user := by
  simp [Session.user?, Session.id?, Option.filter, hid, huser]

/-- What a call leaves behind is what it does for the user of the session. -/
theorem MakesCall.handle_of_user (hcall : MakesCall visitor request call payload) {id : Int}
    {user : User} (hsession : service.session visitor = some id) (hid : id ≠ 0)
    (huser : service.store.user? id = some user) :
    let turn := answerCall service (some id) user payload call
    (service.handle visitor.client request).1 = turn.reply ∧
      (service.handle visitor.client request).2.store = turn.store ∧
      (service.handle visitor.client request).2.source = turn.source := by
  have hshown := (shown_of_own hcall.site hcall.own).trans hsession
  have hrequester : service.requester visitor.client request = some user := by
    rw [hcall.requester_eq, hsession]
    exact Session.user?_eq_some hid huser
  rw [← hshown]
  exact Service.handle_of_user hcall.route hcall.body hrequester

end Calls

/-- A call of a visitor after a run, told by what the visitor did in the run. -/
structure FollowsHistory (start : Service) (events : List Event) (visitor : Visitor) : Prop where
  session_iff : ∀ id, (start.run events).session visitor = some id ↔
    SignedIn visitor id (start.moments events)
  refused_iff : ∀ request call payload, MakesCall visitor request call payload →
    ((start.run events).status? visitor.client request = some 401 ↔
      ∀ id, SignedIn visitor id (start.moments events) →
        id = 0 ∨ (start.run events).store.user? id = none)
  /-- Otherwise the call is that of the user who has the id. -/
  acts : ∀ request call payload id user, MakesCall visitor request call payload →
    SignedIn visitor id (start.moments events) → id ≠ 0 →
    (start.run events).store.user? id = some user →
    user.id = id ∧
      let turn := answerCall (start.run events) (some id) user payload call
      ((start.run events).handle visitor.client request).1 = turn.reply ∧
        ((start.run events).handle visitor.client request).2.store = turn.store ∧
        ((start.run events).handle visitor.client request).2.source = turn.source
  /-- A visitor that signs in is signed in so, whatever it was before. -/
  replaced : ∀ event id, event.Undisturbed visitor →
    Moment.SignsIn ⟨start.run events, event⟩ visitor id →
    (start.run (events ++ [event])).session visitor = some id
  /-- What is no sign-in and does not end the session leaves it alone. -/
  kept : ∀ event, event.Undisturbed visitor →
    (∀ id, ¬ Moment.SignsIn ⟨start.run events, event⟩ visitor id) →
    ¬ Moment.SignsOut ⟨start.run events, event⟩ visitor →
    (∀ id, SignedIn visitor id (start.moments events) →
      ¬ Moment.FindsNobody ⟨start.run events, event⟩ visitor id) →
    (start.run (events ++ [event])).session visitor = (start.run events).session visitor
  /-- A login that fails is no sign-in. -/
  failed : ∀ request, (Event.request visitor.client request).Undisturbed visitor →
    Route.of request.method request.target = .endpoint .login →
    (start.run events).status? visitor.client request ≠ some 303 →
    (start.run (events ++ [.request visitor.client request])).session visitor =
      (start.run events).session visitor
  /-- Nobody but its client changes the session of a visitor. -/
  others : ∀ event, event.Undisturbed visitor →
    (∀ request, event ≠ .request visitor.client request) →
    (start.run (events ++ [event])).session visitor = (start.run events).session visitor

section Runs

variable {start : Service} {events : List Event} {visitor : Visitor}

/-- Outside of production, the calls of a visitor that starts without a session are answered as
its history of signing in and out tells, whatever else happens in between. -/
theorem calls_follow_history (hnone : start.sessions = [])
    (hdev : start.settings.isProduction = false)
    (hevents : ∀ event ∈ events, event.Undisturbed visitor) :
    FollowsHistory start events visitor := by
  have hsession := session_run_iff hnone hdev hevents
  have hown : KeepsOwn visitor (start.run events) := KeepsOwn.run hnone hevents
  have hdevRun : (start.run events).settings.isProduction = false := by
    rw [run_settings]
    exact hdev
  have hstep := fun {event : Event} (hevent : event.Undisturbed visitor) =>
    session_step_iff hown hdevRun hevent
  -- Whatever is neither a sign-in nor an end is the same to the history and to the session.
  have hkept : ∀ event, event.Undisturbed visitor →
      (∀ id, ¬ Moment.SignsIn ⟨start.run events, event⟩ visitor id) →
      ¬ Moment.SignsOut ⟨start.run events, event⟩ visitor →
      (∀ id, SignedIn visitor id (start.moments events) →
        ¬ Moment.FindsNobody ⟨start.run events, event⟩ visitor id) →
      (start.run (events ++ [event])).session visitor = (start.run events).session visitor := by
    intro event hevent hsignIn hsignOut hfound
    rw [run_concat]
    apply Option.ext
    intro id
    rw [hstep hevent]
    constructor
    · rintro (hsigned | ⟨hid, -⟩)
      · exact absurd hsigned (hsignIn id)
      · exact hid
    · intro hid
      refine .inr ⟨hid, ?_⟩
      rintro (⟨other, hother⟩ | hout | hnobody)
      · exact hsignIn other hother
      · exact hsignOut hout
      · exact hfound id ((hsession id).mp hid) hnobody
  refine ⟨hsession, ?refused_iff, ?acts, ?replaced, hkept, ?failed, ?others⟩
  case refused_iff =>
    intro request call payload hcall
    rw [hcall.refused_iff]
    exact forall_congr' fun id => imp_congr_left (hsession id)
  case acts =>
    intro request call payload id user hcall hsigned hid huser
    exact ⟨Store.id_of_user? huser, hcall.handle_of_user ((hsession id).mpr hsigned) hid huser⟩
  case replaced =>
    intro event id hevent hsignIn
    rw [run_concat]
    exact (hstep hevent id).mpr (.inl hsignIn)
  case failed =>
    intro request hevent hroute hstatus
    refine hkept _ hevent ?_ ?_ ?_
    · rintro id ⟨other, form, ⟨hother, -, -⟩, -, -, hdone⟩
      obtain ⟨-, rfl⟩ := Event.request.inj hother
      exact hstatus hdone
    · rintro ⟨other, hother, -, hlogout⟩
      obtain ⟨-, rfl⟩ := Event.request.inj hother
      simp [hroute] at hlogout
    · rintro id - ⟨⟨other, call, payload, ⟨hother, -, hcall⟩, -⟩, -⟩
      obtain ⟨-, rfl⟩ := Event.request.inj hother
      simp [hroute] at hcall
  case others =>
    intro event hevent hother
    refine hkept event hevent ?_ ?_ ?_
    · rintro id ⟨request, form, ⟨hmine, -⟩, -⟩
      exact hother request hmine
    · rintro ⟨request, hmine, -⟩
      exact hother request hmine
    · rintro id - ⟨⟨request, call, payload, ⟨hmine, -⟩, -⟩, -⟩
      exact hother request hmine

/-- Ann signs in as the first user, then as the second while Bob signs out, and fails to sign in
as a third one that is not there. -/
theorem calls_follow_history_signed_in_twice :
    let ann : Visitor := ⟨"ann", "test.local"⟩
    let start : Service := ⟨{}, {}, [], .stream (fun _ => .ofGrid 0) 0⟩
    let ask (client method path body : String) : Event := .request client {
      method := method
      target := ⟨"http://test", "test", "test.local", path.toList, []⟩
      mediaType := "application/x-www-form-urlencoded"
      body := body.toUTF8.toList }
    let events := [
      .addUser (.str "Ann") .null,
      .addUser (.str "Bob") .null,
      ask "ann" "POST" "/dev/login" "user_id=1",
      ask "bob" "POST" "/dev/login" "user_id=2",
      ask "ann" "POST" "/dev/login" "user_id=2",
      ask "bob" "POST" "/dev/logout" "",
      ask "ann" "POST" "/dev/login" "user_id=3"]
    SignedIn ann 2 (start.moments events) ∧ FollowsHistory start events ann := by
  intro ann start ask events
  have hevents : ∀ event ∈ events, event.Undisturbed ann := by
    simp [events, ask, ann, Event.Undisturbed]
  have hfollows : FollowsHistory start events ann :=
    calls_follow_history rfl (by decide) hevents
  have hsession : (start.run events).session ann = some 2 := by decide +kernel
  exact ⟨(hfollows.session_iff 2).mp hsession, hfollows⟩

end Runs
end Service
end Tabletop
