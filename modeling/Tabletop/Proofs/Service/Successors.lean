import Tabletop.Proofs.Service.Authentication
import Mathlib

/-!
# Sessions of users who are gone

A session holds the id of a user and not the user.  When the user goes, the session
ends with the next call of its visitor, which finds nobody.  Up to that call nothing
tells it from a session of a later user with the same id: ids are given anew, and
whoever gets this one is the user that the visitor acts as.  So a session ends with
its user exactly if nobody else is given the id while the session is open.
-/

namespace Tabletop
namespace Service

open Web

namespace Moment

/-- The user of an id is deleted. -/
def Deletes (moment : Moment) (id : Int) : Prop :=
  ∃ named user, moment.event = .removeUser named ∧
    moment.service.store.findUser named = .ok (some user) ∧ user.id = id

/-- A user is added under an id. -/
def Inserts (moment : Moment) (id : Int) : Prop :=
  ∃ name given user after, moment.event = .addUser name given ∧
    moment.service.store.addUser name given = .ok (user, after) ∧ user.id = id

end Moment

/-- A run in which a visitor signs in, the user of that id is deleted later, and the visitor does
not sign in again. -/
structure Orphan (start : Service) (visitor : Visitor) (id : Int) where
  first : List Event
  signIn : Event
  between : List Event
  deletion : Event
  later : List Event
  signsIn : Moment.SignsIn ⟨start.run first, signIn⟩ visitor id
  deletes : Moment.Deletes ⟨start.run (first ++ [signIn] ++ between), deletion⟩ id
  once : ∀ moment ∈ (start.run (first ++ [signIn])).moments (between ++ [deletion] ++ later),
    ∀ other, ¬ moment.SignsIn visitor other

namespace Orphan

variable {start : Service} {visitor : Visitor} {id : Int}

/-- The run up to some time after the deletion. -/
def events (orphan : Orphan start visitor id) (passed : List Event) : List Event :=
  orphan.first ++ [orphan.signIn] ++ (orphan.between ++ [orphan.deletion] ++ passed)

/-- What has happened since the visitor signed in. -/
def since (orphan : Orphan start visitor id) (passed : List Event) : List Moment :=
  (start.run (orphan.first ++ [orphan.signIn])).moments
    (orphan.between ++ [orphan.deletion] ++ passed)

/-- Nobody else is given the id while the session is open.  Zero is an id that no session is
open for. -/
def Unclaimed (orphan : Orphan start visitor id) : Prop :=
  ∀ passed insertion rest, orphan.later = passed ++ insertion :: rest →
    Moment.Inserts ⟨start.run (orphan.events passed), insertion⟩ id → id ≠ 0 →
    ∃ moment ∈ orphan.since passed, moment.Ends visitor id

end Orphan

/-! ## Whether an id has a user -/

section Vacancy

variable {service : Service} {event : Event} {id : Int}

theorem user?_step_of_deletes (hdeletes : Moment.Deletes ⟨service, event⟩ id) :
    (service.step event).store.user? id = none := by
  obtain ⟨named, user, rfl, hfound, rfl⟩ := hdeletes
  have hremove : service.store.removeUser named = .ok (service.store.dropUser user.id) := by
    simp only [Store.removeUser, hfound]
    rfl
  simp only [step, hremove, Store.user?_eq_none_iff, Store.userIds_dropUser]
  tauto

theorem user?_step_of_inserts (hinserts : Moment.Inserts ⟨service, event⟩ id) :
    (service.step event).store.user? id ≠ none := by
  obtain ⟨name, given, user, after, rfl, hadd, rfl⟩ := hinserts
  simp only at hadd
  obtain ⟨-, -, -, -, -, -, -, -, rfl⟩ := Store.addUser_eq_ok hadd
  simp only [step, hadd, Ne, Store.user?_eq_none_iff, Store.userIds_insertUser]
  tauto

/-- An id without a user gets one only if a user is added under it. -/
theorem Change.user?_eq_none {after : Store} (hnone : service.store.user? id = none)
    (hinsert : ¬ Moment.Inserts ⟨service, event⟩ id) (hchange : Change service event after) :
    after.user? id = none := by
  rw [Store.user?_eq_none_iff] at hnone ⊢
  cases hchange with
  | request client request => simpa only [Store.userIds, handle_users] using hnone
  | @addUser name given user after hadd =>
      have hne : id ≠ user.id := by
        rintro rfl
        exact hinsert ⟨name, given, user, after, rfl, hadd, rfl⟩
      obtain ⟨-, -, -, -, -, -, -, -, rfl⟩ := Store.addUser_eq_ok hadd
      rw [Store.userIds_insertUser]
      tauto
  | removeUser hremove =>
      obtain ⟨found, -, rfl⟩ := Store.removeUser_eq_ok hremove
      cases found with
      | none => exact hnone
      | some user =>
          simp only [Option.elim_some, Store.userIds_dropUser]
          tauto
  | addActor hadd =>
      obtain ⟨-, rfl⟩ := Store.addActor_eq_ok hadd
      exact hnone
  | pass now => exact hnone
  | refused => exact hnone

end Vacancy

/-! ## Which session is left -/

section Sessions

variable {start : Service} {visitor : Visitor} {id other : Int} {front back : List Moment}
  {passed : List Event}

theorem Moment.SignsIn.id_unique {moment : Moment} (hsignsIn : moment.SignsIn visitor id)
    (hother : moment.SignsIn visitor other) : other = id := by
  obtain ⟨request, form, ⟨hevent, -, -⟩, hform, hread, -⟩ := hsignsIn
  obtain ⟨request', form', ⟨hevent', -, -⟩, hform', hread', -⟩ := hother
  obtain ⟨-, rfl⟩ := Event.request.inj (hevent.symm.trans hevent')
  obtain rfl := Except.ok.inj (hform.symm.trans hform')
  exact (Except.ok.inj (hread.symm.trans hread')).symm

theorem not_signsIn_of_routes {service : Service} {events : List Event}
    (hroutes : ∀ request, .request visitor.client request ∈ events →
      Route.of request.method request.target ≠ .endpoint .login) :
    ∀ moment ∈ service.moments events, ∀ other, ¬ moment.SignsIn visitor other := by
  rintro moment hmoment other ⟨request, form, ⟨hevent, -, hroute⟩, -⟩
  have hmem := event_mem_of_mem_moments hmoment
  rw [hevent] at hmem
  exact hroutes request hmem hroute

/-- Without another sign-in, who is signed in was so before and has not been cut off. -/
theorem SignedIn.of_append (hsigned : SignedIn visitor id (front ++ back))
    (hback : ∀ moment ∈ back, ∀ other, ¬ moment.SignsIn visitor other) :
    SignedIn visitor id front ∧ ∀ moment ∈ back, ¬ moment.Ends visitor id := by
  induction back using List.reverseRecOn with
  | nil => exact ⟨by simpa using hsigned, by simp⟩
  | append_singleton rest last ih =>
      rw [← List.append_assoc, signedIn_concat] at hsigned
      have hrest : ∀ moment ∈ rest, ∀ other, ¬ moment.SignsIn visitor other :=
        fun moment hmoment => hback moment (List.mem_append_left _ hmoment)
      rcases hsigned with hsignsIn | ⟨hsigned, hends⟩
      · exact absurd hsignsIn (hback last (by simp) id)
      · obtain ⟨hfront, hkept⟩ := ih hsigned hrest
        refine ⟨hfront, ?_⟩
        intro moment hmoment
        rcases List.mem_append.mp hmoment with hmoment | hlast
        · exact hkept moment hmoment
        · obtain rfl := List.mem_singleton.mp hlast
          exact hends

namespace Orphan

variable (orphan : Orphan start visitor id)

theorem moments_events : start.moments (orphan.events passed) =
    start.moments orphan.first ++ [⟨start.run orphan.first, orphan.signIn⟩] ++
      orphan.since passed := by
  rw [events, since, moments_append, moments_concat]

theorem events_concat (next : Event) :
    orphan.events (passed ++ [next]) = orphan.events passed ++ [next] := by
  simp [events]

theorem since_concat (next : Event) :
    orphan.since (passed ++ [next]) =
      orphan.since passed ++ [⟨start.run (orphan.events passed), next⟩] := by
  have hrun : start.run (orphan.events passed) =
      (start.run (orphan.first ++ [orphan.signIn])).run
        (orphan.between ++ [orphan.deletion] ++ passed) := by
    simp only [run, events, List.foldl_append]
  rw [since, ← List.append_assoc, moments_concat, hrun, since]

theorem not_signsIn (hpassed : passed <+: orphan.later) :
    ∀ moment ∈ orphan.since passed, ∀ other, ¬ moment.SignsIn visitor other := by
  obtain ⟨rest, hrest⟩ := hpassed
  intro moment hmoment
  apply orphan.once moment
  rw [← hrest, ← List.append_assoc, moments_append]
  exact List.mem_append_left _ hmoment

/-- The session of an orphan is the one of its last sign-in, while nothing has ended it. -/
theorem signedIn_iff (hpassed : passed <+: orphan.later) :
    SignedIn visitor other (start.moments (orphan.events passed)) ↔
      other = id ∧ ∀ moment ∈ orphan.since passed, ¬ moment.Ends visitor id := by
  rw [moments_events]
  constructor
  · intro hsigned
    obtain ⟨hfirst, hkept⟩ := hsigned.of_append (orphan.not_signsIn hpassed)
    have hsame : other = id := by
      rcases signedIn_concat.mp hfirst with hsignsIn | ⟨-, hends⟩
      · exact orphan.signsIn.id_unique hsignsIn
      · exact absurd (.inl ⟨id, orphan.signsIn⟩) hends
    subst hsame
    exact ⟨rfl, hkept⟩
  · rintro ⟨rfl, hkept⟩
    exact ⟨_, _, _, List.append_assoc _ _ _, orphan.signsIn, hkept⟩

/-- While the session is open and nobody else is given the id, the id has no user. -/
theorem user?_eq_none (hunclaimed : orphan.Unclaimed) (hid : id ≠ 0)
    (hpassed : passed <+: orphan.later)
    (hopen : ∀ moment ∈ orphan.since passed, ¬ moment.Ends visitor id) :
    (start.run (orphan.events passed)).store.user? id = none := by
  -- What has passed since the deletion grows by one event, and a new user needs an open session
  -- to have ended, which it has not.
  induction passed using List.reverseRecOn with
  | nil =>
      have hevents : orphan.events [] =
          orphan.first ++ [orphan.signIn] ++ orphan.between ++ [orphan.deletion] := by
        simp [events]
      rw [hevents, run_concat]
      exact user?_step_of_deletes orphan.deletes
  | append_singleton passed next ih =>
      rw [since_concat] at hopen
      have hbefore : ∀ moment ∈ orphan.since passed, ¬ moment.Ends visitor id :=
        fun moment hmoment => hopen moment (List.mem_append_left _ hmoment)
      obtain ⟨rest, hrest⟩ := hpassed
      have hlater : orphan.later = passed ++ next :: rest := by simpa using hrest.symm
      rw [events_concat, run_concat]
      refine (change_step _ next).user?_eq_none (ih ⟨next :: rest, hlater.symm⟩ hbefore) ?_
      intro hinserts
      obtain ⟨moment, hmoment, hends⟩ := hunclaimed passed next rest hlater hinserts hid
      exact hbefore moment hmoment hends

theorem session_iff (hnone : start.sessions = []) (hdev : start.settings.isProduction = false)
    (hevents : ∀ event ∈ orphan.events orphan.later, event.Undisturbed visitor)
    (hpassed : passed <+: orphan.later) :
    (start.run (orphan.events passed)).session visitor = some other ↔
      other = id ∧ ∀ moment ∈ orphan.since passed, ¬ moment.Ends visitor id := by
  have hundisturbed : ∀ event ∈ orphan.events passed, event.Undisturbed visitor := by
    intro event hevent
    obtain ⟨rest, hrest⟩ := hpassed
    apply hevents event
    have hsplit : orphan.events orphan.later = orphan.events passed ++ rest := by
      simp [events, ← hrest]
    rw [hsplit]
    exact List.mem_append_left _ hevent
  rw [session_run_iff hnone hdev hundisturbed, orphan.signedIn_iff hpassed]

end Orphan

/-- Who adds a user signs nobody in or out. -/
theorem Moment.Inserts.not_ends {moment : Moment} (hinserts : moment.Inserts id) :
    ¬ moment.Ends visitor other := by
  obtain ⟨name, given, user, after, hevent, -⟩ := hinserts
  simp [hevent, Ends, SignsIn, SignsOut, FindsNobody, Calls, Asks]

end Sessions

/-! ## Calls after the user is gone -/

/-- A request is not taken for one of a user, and changes nothing. -/
structure Unauthenticated (service : Service) (client : String) (request : Request) : Prop where
  nobody : service.requester client request = none
  refused : ∀ call payload, Route.of request.method request.target = .endpoint (.call call) →
    bodyFor request call = .ok payload → service.status? client request = some 401
  store : (service.handle client request).2.store = service.store
  source : (service.handle client request).2.source = service.source

/-- No call of a visitor is taken for one of a user. -/
def ShutsOut (service : Service) (visitor : Visitor) : Prop :=
  ∀ request call, request.target.site = visitor.site → request.foreignCookies = false →
    Route.of request.method request.target = .endpoint (.call call) →
    Unauthenticated service visitor.client request

section Calls

variable {service : Service} {visitor : Visitor}

theorem unauthenticated_of_nobody {client : String} {request : Request} {call : Call}
    (hroute : Route.of request.method request.target = .endpoint (.call call))
    (hnobody : service.requester client request = none) :
    Unauthenticated service client request := by
  have hstill : ∃ session failure,
      service.answer (service.shown ⟨client, request.target.site⟩ request) request =
        .still service session (.error failure) := by
    cases hbody : bodyFor request call with
    | error refusal => exact ⟨_, _, answer_of_unreadable hroute hbody⟩
    | ok payload => exact ⟨_, _, answer_of_nobody hroute hbody hnobody⟩
  obtain ⟨session, failure, hturn⟩ := hstill
  refine ⟨hnobody, ?refused, ?store, ?source⟩
  case refused =>
    intro other payload hother hbody
    exact (status?_eq_401_iff hother hbody).mpr hnobody
  case store =>
    simp only [handle, hturn]
    rfl
  case source =>
    simp only [handle, hturn]
    rfl

theorem shutsOut_iff : service.ShutsOut visitor ↔ ∀ id, service.session visitor = some id →
    id = 0 ∨ service.store.user? id = none := by
  rw [← Session.user?_eq_none_iff]
  constructor
  · intro hshut
    let request : Request := {
      method := "GET"
      target := ⟨"http://test", "test", visitor.site, "/api/actors".toList, []⟩ }
    have hplace : Place.ofPath? request.target.readablePath = some .actors := by
      have hpath : Place.ofPath?
          (Target.readablePath ⟨"", "", "", "/api/actors".toList, []⟩) = some .actors := by
        decide +kernel
      exact hpath
    have hroute : Route.of request.method request.target = .endpoint (.call .listActors) :=
      Route.of_eq_endpoint_iff.mpr ⟨hplace, rfl⟩
    have hnobody := (hshut request .listActors rfl rfl hroute).nobody
    rwa [requester, shown_of_own rfl rfl] at hnobody
  · intro hnobody request call hsite hforeign hroute
    apply unauthenticated_of_nobody hroute
    rw [requester, shown_of_own hsite hforeign]
    exact hnobody

end Calls

section Runs

variable {start : Service} {visitor : Visitor} {id : Int}

/-- Once its user is deleted, the calls of a visitor are at all times those of nobody, until it
signs in again, exactly if nobody else is given the id while the session is open. -/
theorem orphan_shut_out_iff (hnone : start.sessions = [])
    (hdev : start.settings.isProduction = false) (orphan : Orphan start visitor id)
    (hevents : ∀ event ∈ orphan.events orphan.later, event.Undisturbed visitor) :
    (∀ passed, passed <+: orphan.later → (start.run (orphan.events passed)).ShutsOut visitor) ↔
      orphan.Unclaimed := by
  constructor
  · intro hshut passed insertion rest hlater hinserts hid
    by_contra hends
    push Not at hends
    have hpassed : passed ++ [insertion] <+: orphan.later := ⟨rest, by simp [hlater]⟩
    -- The insertion ends no session either, so right after it the session is still open.
    have hkept : ∀ moment ∈ orphan.since (passed ++ [insertion]), ¬ moment.Ends visitor id := by
      rw [orphan.since_concat]
      intro moment hmoment
      rcases List.mem_append.mp hmoment with hmoment | hlast
      · exact hends moment hmoment
      · obtain rfl := List.mem_singleton.mp hlast
        exact hinserts.not_ends
    have hopen := (orphan.session_iff hnone hdev hevents hpassed).mpr ⟨rfl, hkept⟩
    rcases shutsOut_iff.mp (hshut _ hpassed) id hopen with hzero | hnobody
    · exact hid hzero
    · rw [orphan.events_concat, run_concat] at hnobody
      exact user?_step_of_inserts hinserts hnobody
  · intro hunclaimed passed hpassed
    rw [shutsOut_iff]
    intro other hother
    obtain ⟨rfl, hopen⟩ := (orphan.session_iff hnone hdev hevents hpassed).mp hother
    by_cases hid : other = 0
    · exact .inl hid
    · exact .inr (orphan.user?_eq_none hunclaimed hid hpassed hopen)

/-- Ann calls once after she is deleted, and only then Eve is added under her id. -/
theorem orphan_shut_out_iff_cut_off :
    let ann : Visitor := ⟨"ann", "test.local"⟩
    let start : Service := ⟨{}, {}, [], .stream (fun _ => .ofGrid 0) 0⟩
    let login : Request := {
      method := "POST"
      target := ⟨"http://test", "test", "test.local", "/dev/login".toList, []⟩
      mediaType := "application/x-www-form-urlencoded"
      body := "user_id=1".toUTF8.toList }
    let list : Request := {
      method := "GET"
      target := ⟨"http://test", "test", "test.local", "/api/actors".toList, []⟩ }
    ∃ orphan : Orphan start ann 1,
      orphan.events orphan.later = [.addUser (.str "Ann") .null, .request "ann" login,
        .removeUser (.int 1), .request "ann" list, .addUser (.str "Eve") .null] ∧
      orphan.Unclaimed ∧ ∀ passed, passed <+: orphan.later →
        (start.run (orphan.events passed)).ShutsOut ann := by
  intro ann start login list
  have hroute : Route.of list.method list.target = .endpoint (.call .listActors) := by
    decide +kernel
  have hown : KeepsOwn ann (start.run [.addUser (.str "Ann") .null]) :=
    KeepsOwn.run rfl (by simp [Event.Undisturbed])
  have hsignsIn : Moment.SignsIn
      ⟨start.run [.addUser (.str "Ann") .null], .request "ann" login⟩ ann 1 :=
    signsIn_of_new_session hown (by decide +kernel) (by simp [Event.Undisturbed, login, ann])
      (by decide +kernel) (by decide +kernel)
  have hdeletes : Moment.Deletes
      ⟨start.run [.addUser (.str "Ann") .null, .request "ann" login], .removeUser (.int 1)⟩ 1 :=
    ⟨.int 1, ⟨1, "Ann"⟩, rfl, by decide +kernel, rfl⟩
  let orphan : Orphan start ann 1 := {
    first := [.addUser (.str "Ann") .null]
    signIn := .request "ann" login
    between := []
    deletion := .removeUser (.int 1)
    later := [.request "ann" list, .addUser (.str "Eve") .null]
    signsIn := hsignsIn
    deletes := hdeletes
    once := not_signsIn_of_routes (by simp [hroute, ann]) }
  have hcut : Moment.Ends ⟨start.run [.addUser (.str "Ann") .null, .request "ann" login,
      .removeUser (.int 1)], .request "ann" list⟩ ann 1 :=
    .inr (.inr ⟨⟨list, .listActors, .empty, ⟨rfl, rfl, hroute⟩, rfl⟩, by decide,
      by decide +kernel⟩)
  have hunclaimed : orphan.Unclaimed := by
    intro passed insertion rest hlater hinserts hid
    cases passed with
    | nil =>
        obtain ⟨rfl, -⟩ := List.cons.inj hlater
        obtain ⟨_, _, _, _, hevent, -⟩ := hinserts
        cases hevent
    | cons event others =>
        obtain ⟨rfl, -⟩ := List.cons.inj hlater
        exact ⟨_, List.mem_cons_of_mem _ List.mem_cons_self, hcut⟩
  have hevents : ∀ event ∈ orphan.events orphan.later, event.Undisturbed ann := by
    simp [Orphan.events, orphan, login, list, ann, Event.Undisturbed]
  have hshut := (orphan_shut_out_iff rfl (by decide +kernel) orphan hevents).mpr hunclaimed
  exact ⟨orphan, rfl, hunclaimed, hshut⟩

/-- Eve is added under the id of Ann, who is deleted but still signed in, and Ann is Eve now. -/
theorem orphan_acts_as_successor :
    let ann : Visitor := ⟨"ann", "test.local"⟩
    let start : Service := ⟨{}, {}, [], .stream (fun _ => .ofGrid 0) 0⟩
    let login : Request := {
      method := "POST"
      target := ⟨"http://test", "test", "test.local", "/dev/login".toList, []⟩
      mediaType := "application/x-www-form-urlencoded"
      body := "user_id=1".toUTF8.toList }
    let list : Request := {
      method := "GET"
      target := ⟨"http://test", "test", "test.local", "/api/actors".toList, []⟩ }
    let events := [.addUser (.str "Ann") .null, .request "ann" login, .removeUser (.int 1),
      .addUser (.str "Eve") .null]
    (∃ orphan : Orphan start ann 1, orphan.events orphan.later = events) ∧
      (start.run events).requester "ann" list = some ⟨1, "Eve"⟩ ∧
      (start.run events).status? "ann" list = some 200 := by
  intro ann start login list events
  have hown : KeepsOwn ann (start.run [.addUser (.str "Ann") .null]) :=
    KeepsOwn.run rfl (by simp [Event.Undisturbed])
  have hsignsIn : Moment.SignsIn
      ⟨start.run [.addUser (.str "Ann") .null], .request "ann" login⟩ ann 1 :=
    signsIn_of_new_session hown (by decide +kernel) (by simp [Event.Undisturbed, login, ann])
      (by decide +kernel) (by decide +kernel)
  have hdeletes : Moment.Deletes
      ⟨start.run [.addUser (.str "Ann") .null, .request "ann" login], .removeUser (.int 1)⟩ 1 :=
    ⟨.int 1, ⟨1, "Ann"⟩, rfl, by decide +kernel, rfl⟩
  let orphan : Orphan start ann 1 := {
    first := [.addUser (.str "Ann") .null]
    signIn := .request "ann" login
    between := []
    deletion := .removeUser (.int 1)
    later := [.addUser (.str "Eve") .null]
    signsIn := hsignsIn
    deletes := hdeletes
    once := not_signsIn_of_routes (by simp) }
  exact ⟨⟨orphan, rfl⟩, by decide +kernel, by decide +kernel⟩

end Runs
end Service
end Tabletop
