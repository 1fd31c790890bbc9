import Tabletop.Proofs.Service.Answers
import Tabletop.Proofs.Service.History
import Mathlib

/-!
# Sessions follow what visitors do

The session of a visitor is the id under which it signed in last, unless that has
ended since.  Nothing else touches it: not what other visitors do, not a login that
fails, not a crash, and not a change of the users from inside.
-/

namespace Tabletop
namespace Service

open Web

/-!
## What visitors do

A visitor is a client at a site.  Of all that happens, three things concern its
session: it signs in as a user, it signs out, or a call of its finds no user of the id
that it signed in under.  The first begins a session and each of them ends the one before.

A client keeps a session for each site, and shows one also below the site that it
is for.  So a visitor is disturbed only by what its client does at a site above.
-/

/-- The client of a visitor comes to no site above the visitor's, and to that one it brings no
other cookies. -/
def Event.Undisturbed (visitor : Visitor) : Event → Prop
  | .request client sent => client = visitor.client →
      sent.target.site = visitor.site ∧ sent.foreignCookies = false ∨
        Target.isWithin visitor.site sent.target.site = false
  | _ => True

namespace Moment

/-- A visitor asks for an endpoint at its site. -/
def Asks (moment : Moment) (visitor : Visitor) (request : Request) (asked : Endpoint) : Prop :=
  moment.event = .request visitor.client request ∧ request.target.site = visitor.site ∧
    Route.of request.method request.target = .endpoint asked

/-- A visitor chooses the user of an id and is sent on. -/
def SignsIn (moment : Moment) (visitor : Visitor) (id : Int) : Prop :=
  ∃ request form, moment.Asks visitor request .login ∧ request.form = .ok form ∧
    readUserId form = .ok id ∧ moment.service.status? visitor.client request = some 303

def SignsOut (moment : Moment) (visitor : Visitor) : Prop :=
  ∃ request, moment.Asks visitor request .logout

/-- A visitor makes a call that can be read. -/
def Calls (moment : Moment) (visitor : Visitor) : Prop :=
  ∃ request call payload, moment.Asks visitor request (.call call) ∧
    bodyFor request call = .ok payload

/-- A visitor makes a call, and there is no user of an id.  Nobody looks for the user of the
id zero. -/
def FindsNobody (moment : Moment) (visitor : Visitor) (id : Int) : Prop :=
  moment.Calls visitor ∧ id ≠ 0 ∧ moment.service.store.user? id = none

/-- What ends the session of a visitor under an id. -/
def Ends (moment : Moment) (visitor : Visitor) (id : Int) : Prop :=
  (∃ other, moment.SignsIn visitor other) ∨ moment.SignsOut visitor ∨
    moment.FindsNobody visitor id

end Moment

/-- A visitor signed in under an id, and nothing has ended that since. -/
def SignedIn (visitor : Visitor) (id : Int) (moments : List Moment) : Prop :=
  ∃ earlier signIn later, moments = earlier ++ signIn :: later ∧ signIn.SignsIn visitor id ∧
    ∀ moment ∈ later, ¬ moment.Ends visitor id

theorem signedIn_concat {visitor : Visitor} {id : Int} {moments : List Moment}
    {moment : Moment} :
    SignedIn visitor id (moments ++ [moment]) ↔ moment.SignsIn visitor id ∨
      SignedIn visitor id moments ∧ ¬ moment.Ends visitor id :=
  standing_concat

open Text Validation

/-! ## The session that a visitor shows -/

/-- All that a visitor's client could show at its site is the session of the site itself. -/
structure KeepsOwn (visitor : Visitor) (service : Service) : Prop where
  nodup : service.sessions.keys.Nodup
  own : ∀ other ∈ service.sessions.keys, other.client = visitor.client →
    Target.isWithin visitor.site other.site → other = visitor

theorem isWithin_self (site : String) : Target.isWithin site site = true := by
  simp [Target.isWithin]

section Own

variable {visitor : Visitor} {service : Service}

theorem KeepsOwn.session_eq (hown : KeepsOwn visitor service) :
    service.session visitor = service.sessions.get? visitor := by
  have hreached : (service.sessions.filter fun entry =>
      entry.1.client = visitor.client ∧ Target.isWithin visitor.site entry.1.site) =
      service.sessions.filter (·.1 = visitor) := by
    apply List.filter_congr
    intro entry hentry
    rw [decide_eq_decide]
    constructor
    · rintro ⟨hclient, hwithin⟩
      exact hown.own entry.1 (List.mem_map_of_mem hentry) hclient hwithin
    · rintro rfl
      exact ⟨rfl, isWithin_self _⟩
  rw [OrderedMap.get?_eq_getLast? hown.nodup, ← hreached]
  rfl

theorem keys_keep_subset {sessions : OrderedMap Visitor Int} {before after : Session}
    {other : Visitor} (hother : other ∈ (keep sessions visitor before after).keys) :
    other = visitor ∨ other ∈ sessions.keys := by
  unfold keep at hother
  split at hother
  · exact .inr hother
  · split at hother
    · exact OrderedMap.mem_keys_insert.mp hother
    · exact .inr ((OrderedMap.keys_erase_sublist sessions visitor).subset hother)

theorem nodup_keys_keep {sessions : OrderedMap Visitor Int} (hnodup : sessions.keys.Nodup)
    (before after : Session) : (keep sessions visitor before after).keys.Nodup := by
  unfold keep
  split
  · exact hnodup
  · split
    · exact OrderedMap.nodup_keys_insert hnodup visitor _
    · exact (OrderedMap.keys_erase_sublist sessions visitor).nodup hnodup

theorem get?_keep_self {sessions : OrderedMap Visitor Int} {before : Session}
    (hbefore : sessions.get? visitor = before) (after : Session) :
    (keep sessions visitor before after).get? visitor = after := by
  unfold keep
  split
  next hsame => rw [hbefore, hsame]
  · cases after with
    | some id => simp [OrderedMap.get?_insert]
    | none => simp [OrderedMap.get?_erase]

theorem get?_keep_of_ne {sessions : OrderedMap Visitor Int} {other : Visitor}
    (hne : other ≠ visitor) (before after : Session) :
    (keep sessions visitor before after).get? other = sessions.get? other := by
  unfold keep
  split
  · rfl
  · cases after with
    | some id => simp [OrderedMap.get?_insert, hne]
    | none => simp [OrderedMap.get?_erase, hne]

/-- The sessions after a request: those before it, or with another one for its visitor. -/
theorem handle_sessions (client : String) (request : Request) :
    let requester : Visitor := ⟨client, request.target.site⟩
    let before := service.shown requester request
    let turn := service.answer before request
    (service.handle client request).2.sessions =
      match turn.reply with
      | .ok _ => keep service.sessions requester before turn.session
      | .error _ => service.sessions := rfl

theorem KeepsOwn.step (hown : KeepsOwn visitor service) {event : Event}
    (hevent : event.Undisturbed visitor) : KeepsOwn visitor (service.step event) := by
  cases event with
  | request client request =>
      have hkeys : ∀ other ∈ (service.handle client request).2.sessions.keys,
          other = ⟨client, request.target.site⟩ ∨ other ∈ service.sessions.keys := by
        intro other hother
        rw [handle_sessions] at hother
        split at hother
        · exact keys_keep_subset hother
        · exact .inr hother
      refine ⟨?nodup, ?own⟩
      case nodup =>
        show (service.handle client request).2.sessions.keys.Nodup
        rw [handle_sessions]
        split
        · exact nodup_keys_keep hown.nodup _ _
        · exact hown.nodup
      case own =>
        intro other hother hclient hwithin
        rcases hkeys other hother with rfl | hold
        · rcases hevent hclient with ⟨hsite, -⟩ | habove
          · cases visitor
            exact congrArg₂ Visitor.mk hclient hsite
          · rw [habove] at hwithin
            cases hwithin
        · exact hown.own other hold hclient hwithin
  | addUser name id =>
      have hsessions := service.step_sessions (.addUser name id) nofun
      exact ⟨hsessions ▸ hown.nodup, hsessions ▸ hown.own⟩
  | removeUser id =>
      have hsessions := service.step_sessions (.removeUser id) nofun
      exact ⟨hsessions ▸ hown.nodup, hsessions ▸ hown.own⟩
  | addActor new =>
      have hsessions := service.step_sessions (.addActor new) nofun
      exact ⟨hsessions ▸ hown.nodup, hsessions ▸ hown.own⟩
  | pass now => exact ⟨hown.nodup, hown.own⟩

end Own

/-! ## How the session changes -/

section Steps

variable {visitor : Visitor} {service : Service} {request : Request}

theorem shown_of_own {visitor : Visitor} (hsite : request.target.site = visitor.site)
    (hforeign : request.foreignCookies = false) :
    service.shown ⟨visitor.client, request.target.site⟩ request = service.session visitor := by
  simp [shown, hforeign, hsite]

/-- What the answer to a visitor leaves of its session.  A crash leaves it alone. -/
theorem session_handle_self (hown : KeepsOwn visitor service)
    (hevent : (Event.request visitor.client request).Undisturbed visitor)
    (hsite : request.target.site = visitor.site) (hforeign : request.foreignCookies = false) :
    let turn := service.answer (service.session visitor) request
    (service.handle visitor.client request).2.session visitor =
      match turn.reply with
      | .ok _ => turn.session
      | .error _ => service.session visitor := by
  have hafter : KeepsOwn visitor (service.handle visitor.client request).2 := hown.step hevent
  have hself : (⟨visitor.client, request.target.site⟩ : Visitor) = visitor := by
    rw [hsite]
  rw [hafter.session_eq, handle_sessions, shown_of_own hsite hforeign, hself]
  dsimp only
  split
  · exact get?_keep_self hown.session_eq.symm _
  · exact hown.session_eq.symm

theorem session_handle_of_ne (hown : KeepsOwn visitor service) {client : String}
    (hevent : (Event.request client request).Undisturbed visitor)
    (hne : (⟨client, request.target.site⟩ : Visitor) ≠ visitor) :
    (service.handle client request).2.session visitor = service.session visitor := by
  have hafter : KeepsOwn visitor (service.handle client request).2 := hown.step hevent
  rw [hafter.session_eq, hown.session_eq, handle_sessions]
  split
  · exact get?_keep_of_ne hne.symm _ _
  · rfl

theorem session_step_inside {event : Event}
    (hinside : ∀ client request, event ≠ .request client request) :
    (service.step event).session visitor = service.session visitor := by
  unfold session
  rw [service.step_sessions event hinside]

/-! What a visitor's request is, told by its route. -/

theorem asks_iff (hsite : request.target.site = visitor.site) {other : Request}
    {asked : Endpoint} :
    Moment.Asks ⟨service, .request visitor.client request⟩ visitor other asked ↔
      other = request ∧ Route.of request.method request.target = .endpoint asked := by
  unfold Moment.Asks
  constructor
  · rintro ⟨hevent, -, hroute⟩
    obtain ⟨-, rfl⟩ := Event.request.inj hevent
    exact ⟨rfl, hroute⟩
  · rintro ⟨rfl, hroute⟩
    exact ⟨rfl, hsite, hroute⟩

theorem signsIn_iff (hsite : request.target.site = visitor.site) {id : Int} :
    Moment.SignsIn ⟨service, .request visitor.client request⟩ visitor id ↔
      Route.of request.method request.target = .endpoint .login ∧
        ∃ form, request.form = .ok form ∧ readUserId form = .ok id ∧
          service.status? visitor.client request = some 303 := by
  simp only [Moment.SignsIn, asks_iff hsite]
  constructor
  · rintro ⟨_, form, ⟨rfl, hroute⟩, hform⟩
    exact ⟨hroute, form, hform⟩
  · rintro ⟨hroute, form, hform⟩
    exact ⟨request, form, ⟨rfl, hroute⟩, hform⟩

theorem signsOut_iff (hsite : request.target.site = visitor.site) :
    Moment.SignsOut ⟨service, .request visitor.client request⟩ visitor ↔
      Route.of request.method request.target = .endpoint .logout := by
  simp only [Moment.SignsOut, asks_iff hsite, exists_eq_left]

theorem calls_iff (hsite : request.target.site = visitor.site) :
    Moment.Calls ⟨service, .request visitor.client request⟩ visitor ↔
      ∃ call payload, Route.of request.method request.target = .endpoint (.call call) ∧
        bodyFor request call = .ok payload := by
  simp only [Moment.Calls, asks_iff hsite]
  constructor
  · rintro ⟨_, call, payload, ⟨rfl, hroute⟩, hbody⟩
    exact ⟨call, payload, hroute, hbody⟩
  · rintro ⟨call, payload, hroute, hbody⟩
    exact ⟨request, call, payload, ⟨rfl, hroute⟩, hbody⟩

/-! What an answer leaves of a session, endpoint by endpoint. -/

theorem login_eq_ok {settings : Settings} {store : Store} {response : Response} {id : Int}
    (hlogin : login settings store request = .ok (response, id)) :
    ∃ form user, request.form = .ok form ∧ readUserId form = .ok id ∧
      store.findUser (.int id) = .ok (some user) ∧ response = .seeOther "/" := by
  simp only [login, Except.bind_eq_ok_iff, Except.mapError_eq_ok_iff, granted_eq_ok_iff]
    at hlogin
  obtain ⟨form, hform, chosen, hread, _, -, found, hfound, hreply⟩ := hlogin
  cases found with
  | none => cases hreply
  | some user =>
      obtain ⟨rfl, rfl⟩ := Prod.mk.inj (Except.pure_eq_ok_iff.mp hreply)
      exact ⟨form, user, hform, hread, hfound, rfl⟩

theorem answer_of_login_ok {session : Session} {response : Response} {id : Int}
    (hroute : Route.of request.method request.target = .endpoint .login)
    (hlogin : login service.settings service.store request = .ok (response, id)) :
    service.answer session request =
      { Turn.still service session (.ok response) with session := some id } := by
  simp only [answer, hroute, visit, hlogin]

theorem answer_of_login_error {session : Session} {failure : Failure}
    (hroute : Route.of request.method request.target = .endpoint .login)
    (hlogin : login service.settings service.store request = .error failure) :
    service.answer session request = .still service session (.error failure) := by
  simp only [answer, hroute, visit, hlogin]

theorem answer_of_logout {session : Session} (hdev : service.settings.isProduction = false)
    (hroute : Route.of request.method request.target = .endpoint .logout) :
    service.answer session request =
      { Turn.still service session (.ok (.seeOther "/dev/login")) with session := none } := by
  have hlogout : logout service.settings = .ok (.seeOther "/dev/login") := by
    simp only [logout, guardLogin, hdev]
    rfl
  simp only [answer, hroute, visit, hlogout]

theorem answerCall_session {session : Session} {user : User} {payload : Payload} {call : Call} :
    (answerCall service session user payload call).session = session := by
  have hstoring : ∀ work, (Turn.storing service session work).session = session := fun _ => rfl
  cases call with
  | listActors => rfl
  | showActor id => rfl
  | roll => rfl
  | createActor => exact hstoring _
  | changeActor id => exact hstoring _
  | deleteActor id => exact hstoring _

/-- A login that fails shows another status, so the one that is seen to succeed did. -/
theorem status?_of_login {client : String}
    (hroute : Route.of request.method request.target = .endpoint .login) :
    service.status? client request = some 303 ↔
      ∃ response id, login service.settings service.store request = .ok (response, id) := by
  rw [status?_eq_some_iff, handle_reply service client hroute]
  cases hlogin : login service.settings service.store request with
  | error failure =>
      rw [answer_of_login_error hroute hlogin]
      constructor
      · rintro ⟨response, hreply, hstatus⟩
        have hfailed := Failure.le_status hreply
        omega
      · rintro ⟨_, _, hok⟩
        cases hok
  | ok signedIn =>
      obtain ⟨response, id⟩ := signedIn
      rw [answer_of_login_ok hroute hlogin]
      obtain ⟨-, -, -, -, -, rfl⟩ := login_eq_ok hlogin
      exact ⟨fun _ => ⟨_, _, rfl⟩, fun _ => ⟨_, rfl, rfl⟩⟩

theorem Session.user?_eq_none_iff {session : Session} {store : Store} :
    session.user? store = none ↔ ∀ id, session = some id → id = 0 ∨ store.user? id = none := by
  cases session with
  | none => exact ⟨nofun, fun _ => rfl⟩
  | some id =>
      by_cases hzero : id = 0
      · simp [Session.user?, Session.id?, hzero]
      · simp [Session.user?, Session.id?, hzero]

theorem Session.afterLookup_eq_some_iff {session : Session} {store : Store}
    (huser : session.user? store = none) {id : Int} :
    session.afterLookup store = some id ↔ session = some id ∧ id = 0 := by
  cases session with
  | none => simp [Session.afterLookup, Session.id?]
  | some other =>
      by_cases hzero : other = 0
      · simp [Session.afterLookup, Session.id?, hzero, eq_comm]
      · have hnone : Session.afterLookup (some other) store = none := by
          simp [Session.afterLookup, huser, Session.id?, hzero]
        rw [hnone]
        constructor
        · intro hsome
          cases hsome
        · rintro ⟨hother, hid⟩
          exact absurd ((Option.some.inj hother).trans hid) hzero

section Own

variable (hown : KeepsOwn visitor service)
  (hevent : (Event.request visitor.client request).Undisturbed visitor)
  (hsite : request.target.site = visitor.site) (hforeign : request.foreignCookies = false)

include hown hevent hsite hforeign

/-- An answer that leaves the session alone does so also as a crash. -/
theorem session_handle_of_same
    (hsame : (service.answer (service.session visitor) request).session =
      service.session visitor) :
    (service.handle visitor.client request).2.session visitor = service.session visitor := by
  rw [session_handle_self hown hevent hsite hforeign]
  split
  · exact hsame
  · rfl

theorem session_login_iff
    (hroute : Route.of request.method request.target = .endpoint .login) (id : Int) :
    let moment : Moment := ⟨service, .request visitor.client request⟩
    (service.handle visitor.client request).2.session visitor = some id ↔
      moment.SignsIn visitor id ∨
        service.session visitor = some id ∧ ¬ ∃ other, moment.SignsIn visitor other := by
  have hstatus : service.status? visitor.client request = some 303 ↔
      ∃ response id, login service.settings service.store request = .ok (response, id) :=
    status?_of_login hroute
  simp only [signsIn_iff hsite, hroute, true_and]
  cases hlogin : login service.settings service.store request with
  | error failure =>
      have hfails : service.status? visitor.client request ≠ some 303 := by
        rw [Ne, hstatus, hlogin]
        rintro ⟨_, _, ⟨⟩⟩
      have hturn : (service.answer (service.session visitor) request).session =
          service.session visitor := by
        rw [answer_of_login_error hroute hlogin]
        rfl
      rw [session_handle_of_same hown hevent hsite hforeign hturn]
      simp [hfails]
  | ok signedIn =>
      obtain ⟨response, chosen⟩ := signedIn
      obtain ⟨form, -, hform, hread, -⟩ := login_eq_ok hlogin
      have hdone := hstatus.mpr ⟨response, chosen, hlogin⟩
      have hafter : (service.handle visitor.client request).2.session visitor =
          some chosen := by
        rw [session_handle_self hown hevent hsite hforeign, answer_of_login_ok hroute hlogin]
        rfl
      simp [hafter, hform, hread, hdone]

theorem session_call_iff {call : Call}
    (hroute : Route.of request.method request.target = .endpoint (.call call)) (id : Int) :
    let moment : Moment := ⟨service, .request visitor.client request⟩
    (service.handle visitor.client request).2.session visitor = some id ↔
      service.session visitor = some id ∧ ¬ moment.FindsNobody visitor id := by
  have hkept : ∀ {session : Session}, service.session visitor = session →
      (service.answer session request).session = session →
      (service.handle visitor.client request).2.session visitor = session := by
    rintro _ rfl hsame
    exact session_handle_of_same hown hevent hsite hforeign hsame
  simp only [Moment.FindsNobody, calls_iff hsite, hroute, Route.endpoint.injEq,
    Endpoint.call.injEq, exists_and_left, exists_eq_left']
  cases hbody : bodyFor request call with
  | error refusal =>
      rw [hkept rfl (by rw [answer_of_unreadable hroute hbody]; rfl)]
      simp
  | ok payload =>
      simp only [Except.ok.injEq, exists_eq', true_and, not_and]
      cases huser : (service.session visitor).user? service.store with
      | none =>
          -- The lookup ends the session, except under zero, which nobody is looked for by.
          have hafter : (service.handle visitor.client request).2.session visitor =
              (service.session visitor).afterLookup service.store := by
            rw [session_handle_self hown hevent hsite hforeign,
              answer_of_nobody hroute hbody huser]
            rfl
          have hnobody := Session.user?_eq_none_iff.mp huser id
          rw [hafter, Session.afterLookup_eq_some_iff huser]
          constructor
          · rintro ⟨hid, hzero⟩
            exact ⟨hid, fun hne => absurd hzero hne⟩
          · rintro ⟨hid, hfound⟩
            refine ⟨hid, ?_⟩
            by_contra hne
            rcases hnobody hid with hzero | hnone
            · exact hne hzero
            · exact hfound hne hnone
      | some user =>
          rw [hkept rfl (by rw [answer_of_user hroute hbody huser]; exact answerCall_session)]
          constructor
          · intro hid
            refine ⟨hid, ?_⟩
            intro hne hnone
            have hnobody : (service.session visitor).user? service.store = none := by
              rw [hid]
              exact Session.user?_eq_none_iff.mpr fun other hother =>
                .inr (Option.some.inj hother ▸ hnone)
            rw [hnobody] at huser
            cases huser
          · exact And.left

/-- No other request of a visitor concerns its session. -/
theorem session_quiet_iff
    (hquiet : ∀ asked, Route.of request.method request.target = .endpoint asked →
      asked = .index ∨ asked = .loginPage) (id : Int) :
    let moment : Moment := ⟨service, .request visitor.client request⟩
    (service.handle visitor.client request).2.session visitor = some id ↔
      moment.SignsIn visitor id ∨
        service.session visitor = some id ∧ ¬ moment.Ends visitor id := by
  have hlogin : Route.of request.method request.target ≠ .endpoint .login := by
    intro hroute
    simpa using hquiet .login hroute
  have hlogout : Route.of request.method request.target ≠ .endpoint .logout := by
    intro hroute
    simpa using hquiet .logout hroute
  have hcall : ∀ call, Route.of request.method request.target ≠ .endpoint (.call call) := by
    intro call hroute
    simpa using hquiet (.call call) hroute
  have hturn : (service.answer (service.session visitor) request).session =
      service.session visitor := by
    cases hroute : Route.of request.method request.target with
    | endpoint asked =>
        rcases hquiet asked hroute with rfl | rfl
        · simp only [answer, hroute, visit, Turn.still]
        · simp only [answer, hroute, visit, Turn.still]
    | manual page => simp only [answer, hroute, Turn.still]
    | wrongMethod => simp only [answer, hroute, Turn.still]
    | redirect location => simp only [answer, hroute, Turn.still]
    | unknown => simp only [answer, hroute, Turn.still]
  rw [session_handle_of_same hown hevent hsite hforeign hturn]
  simp [Moment.Ends, Moment.FindsNobody, signsIn_iff hsite, signsOut_iff hsite, calls_iff hsite,
    hlogin, hlogout, hcall]

/-- A visitor's request changes its session as the route says. -/
theorem session_request_iff (hdev : service.settings.isProduction = false) (id : Int) :
    let moment : Moment := ⟨service, .request visitor.client request⟩
    (service.handle visitor.client request).2.session visitor = some id ↔
      moment.SignsIn visitor id ∨
        service.session visitor = some id ∧ ¬ moment.Ends visitor id := by
  have hquiet := session_quiet_iff hown hevent hsite hforeign
  -- On each route at most one of the three ways to end a session is open.
  cases hroute : Route.of request.method request.target with
  | manual page => exact hquiet (by simp [hroute]) id
  | wrongMethod => exact hquiet (by simp [hroute]) id
  | redirect location => exact hquiet (by simp [hroute]) id
  | unknown => exact hquiet (by simp [hroute]) id
  | endpoint asked =>
      cases asked with
      | index => exact hquiet (by simp [hroute]) id
      | loginPage => exact hquiet (by simp [hroute]) id
      | login =>
          have hlogin := session_login_iff hown hevent hsite hforeign hroute id
          simpa [Moment.Ends, Moment.FindsNobody, signsOut_iff hsite, calls_iff hsite, hroute]
            using hlogin
      | call call =>
          have hcall := session_call_iff hown hevent hsite hforeign hroute id
          simpa [Moment.Ends, signsIn_iff hsite, signsOut_iff hsite, hroute] using hcall
      | logout =>
          have hafter : (service.handle visitor.client request).2.session visitor = none := by
            rw [session_handle_self hown hevent hsite hforeign, answer_of_logout hdev hroute]
            rfl
          simp [Moment.Ends, signsIn_iff hsite, signsOut_iff hsite, hroute, hafter]

end Own

/-- Every event changes the session of a visitor as its moment says. -/
theorem session_step_iff (hown : KeepsOwn visitor service)
    (hdev : service.settings.isProduction = false) {event : Event}
    (hevent : event.Undisturbed visitor) (id : Int) :
    (service.step event).session visitor = some id ↔
      Moment.SignsIn ⟨service, event⟩ visitor id ∨
        service.session visitor = some id ∧ ¬ Moment.Ends ⟨service, event⟩ visitor id := by
  by_cases hmine : ∃ request, event = .request visitor.client request ∧
    request.target.site = visitor.site
  · obtain ⟨request, rfl, hsite⟩ := hmine
    have hforeign : request.foreignCookies = false := by
      rcases hevent rfl with ⟨-, hforeign⟩ | habove
      · exact hforeign
      · rw [hsite, isWithin_self] at habove
        cases habove
    exact session_request_iff hown hevent hsite hforeign hdev id
  · have hasks : ∀ request asked, ¬ Moment.Asks ⟨service, event⟩ visitor request asked :=
      fun request asked hasks => hmine ⟨request, hasks.1, hasks.2.1⟩
    have hsame : (service.step event).session visitor = service.session visitor := by
      by_cases hinside : ∀ client request, event ≠ .request client request
      · exact session_step_inside hinside
      · push Not at hinside
        obtain ⟨client, request, rfl⟩ := hinside
        apply session_handle_of_ne hown hevent
        rintro rfl
        exact hmine ⟨request, rfl, rfl⟩
    simp [hsame, Moment.SignsIn, Moment.SignsOut, Moment.Ends, Moment.FindsNobody, Moment.Calls,
      hasks]

/-- A visitor comes to a session only by signing in. -/
theorem signsIn_of_new_session (hown : KeepsOwn visitor service)
    (hdev : service.settings.isProduction = false) {event : Event}
    (hevent : event.Undisturbed visitor) {id : Int} (hbefore : service.session visitor ≠ some id)
    (hafter : (service.step event).session visitor = some id) :
    Moment.SignsIn ⟨service, event⟩ visitor id := by
  rcases (session_step_iff hown hdev hevent id).mp hafter with hsignsIn | ⟨hold, -⟩
  · exact hsignsIn
  · exact absurd hold hbefore

end Steps

/-! ## Whole runs -/

section Runs

variable {visitor : Visitor} {start : Service}

theorem KeepsOwn.run {events : List Event} (hnone : start.sessions = [])
    (hevents : ∀ event ∈ events, event.Undisturbed visitor) :
    KeepsOwn visitor (start.run events) := by
  induction events using List.reverseRecOn with
  | nil =>
      have hkeys : (start.run []).sessions.keys = [] := congrArg OrderedMap.keys hnone
      refine ⟨?_, ?_⟩
      · rw [hkeys]
        exact List.nodup_nil
      · rw [hkeys]
        nofun
  | append_singleton rest event ih =>
      rw [run_concat]
      have hrest := ih fun other hother => hevents other (List.mem_append_left _ hother)
      exact hrest.step (hevents event (by simp))

theorem session_run_iff {events : List Event} (hnone : start.sessions = [])
    (hdev : start.settings.isProduction = false)
    (hevents : ∀ event ∈ events, event.Undisturbed visitor) (id : Int) :
    (start.run events).session visitor = some id ↔
      SignedIn visitor id (start.moments events) := by
  induction events using List.reverseRecOn with
  | nil =>
      have hsession : start.session visitor = none := by simp [session, hnone]
      constructor
      · intro hid
        rw [run, List.foldl_nil, hsession] at hid
        cases hid
      · rintro ⟨earlier, signIn, later, hsplit, -⟩
        simp [moments] at hsplit
  | append_singleton rest event ih =>
      have hrest : ∀ other ∈ rest, other.Undisturbed visitor :=
        fun other hother => hevents other (List.mem_append_left _ hother)
      have hdevRest : (start.run rest).settings.isProduction = false := by
        rw [run_settings]
        exact hdev
      rw [run_concat, moments_concat, signedIn_concat, ← ih hrest]
      exact session_step_iff (KeepsOwn.run hnone hrest) hdevRest (hevents event (by simp)) id

end Runs

end Service
end Tabletop
