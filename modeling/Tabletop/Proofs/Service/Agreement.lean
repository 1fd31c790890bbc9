import Tabletop.Proofs.Service.Successors
import Tabletop.Proofs.Web.Markup

/-!
# Whom the index page takes for signed in

The index page shows the form for rolls to whoever has a session with an id, and it does
not look for the user of that id.  A call does.  So the page and the calls agree as long
as there is a user of the id, and a session whose user is gone is all that they can differ
in: its client sees the form and is refused by every call.

A session begins with a user who is found, so its user can only be gone by a deletion.
-/

namespace Tabletop
namespace Service

open Web Markup

/-! ## What the page shows -/

/-- Whether a page has a tag with an attribute of a given value. -/
def hasTag (name label value : String) (page : String) : Bool :=
  (readPage page).pieces.any fun piece =>
    piece.tag.name = name.toList ∧ piece.tag.value? label = some value.toList

def showsRollForm (page : String) : Bool := hasTag "form" "id" "roll-form" page

def showsSignInLink (page : String) : Bool := hasTag "a" "href" "/dev/login" page

theorem shows_index (signedIn : Bool) :
    showsRollForm (Page.index signedIn) = signedIn ∧
      showsSignInLink (Page.index signedIn) = !signedIn := by
  cases signedIn
  all_goals
    unfold showsRollForm showsSignInLink hasTag readPage Page.index Page.layout Page.appName
      Page.rollForm Page.signInLink
    simp only [String.toList_append, -String.reduceAppend, if_true, if_false, Bool.false_eq_true]
    repeat rewrite [String.toList_ofList]
    decide +kernel

/-! ## Sessions of users who are gone -/

/-- A session that would be somebody's if there were a user of its id. -/
def Session.IsOrphan (session : Session) (store : Store) : Prop :=
  ∃ id, session = some id ∧ id ≠ 0 ∧ store.user? id = none

theorem Session.isOrphan_iff {session : Session} {store : Store} :
    session.IsOrphan store ↔ session.id?.isSome = true ∧ session.user? store = none := by
  rw [Session.user?_eq_none_iff]
  cases session with
  | none => simp [Session.IsOrphan, Session.id?]
  | some id =>
      by_cases hzero : id = 0
      · simp [Session.IsOrphan, Session.id?, hzero]
      · simp [Session.IsOrphan, Session.id?, hzero]

theorem Session.isSome_id?_of_user {session : Session} {store : Store} {user : User}
    (huser : session.user? store = some user) : session.id?.isSome = true := by
  unfold Session.user? at huser
  obtain ⟨id, hid, -⟩ := Option.bind_eq_some_iff.mp huser
  rw [hid]
  rfl

theorem exists_of_shown {service : Service} {visitor : Visitor} {request : Request} {id : Int}
    (hshown : service.shown visitor request = some id) :
    ∃ entry ∈ service.sessions, entry.2 = id := by
  unfold shown at hshown
  split at hshown
  · cases hshown
  · unfold Service.session at hshown
    obtain ⟨entry, hlast, hid⟩ := Option.map_eq_some_iff.mp hshown
    exact ⟨entry, List.mem_of_mem_filter (List.mem_of_getLast? hlast), hid⟩

/-- A user goes only by being deleted. -/
theorem Change.deletes {service : Service} {event : Event} {after : Store} {id : Int}
    (hchange : Change service event after) (huser : service.store.user? id ≠ none)
    (hgone : after.user? id = none) : Moment.Deletes ⟨service, event⟩ id := by
  rw [Ne, Store.user?_eq_none_iff, not_not] at huser
  rw [Store.user?_eq_none_iff] at hgone
  cases hchange with
  | request client request =>
      rw [Store.userIds, handle_users] at hgone
      exact absurd huser hgone
  | addUser hadd =>
      obtain ⟨-, -, -, -, -, -, -, -, rfl⟩ := Store.addUser_eq_ok hadd
      exact absurd (Store.userIds_insertUser.mpr (.inr huser)) hgone
  | @removeUser named after hremove =>
      obtain ⟨found, hfound, rfl⟩ := Store.removeUser_eq_ok hremove
      cases found with
      | none => exact absurd huser hgone
      | some user =>
          have hsame : user.id = id := by
            by_contra hne
            exact hgone (Store.userIds_dropUser.mpr ⟨huser, Ne.symm hne⟩)
          exact ⟨named, user, rfl, hfound, hsame⟩
  | addActor hadd =>
      obtain ⟨-, rfl⟩ := Store.addActor_eq_ok hadd
      exact absurd huser hgone
  | pass now => exact absurd huser hgone
  | refused => exact absurd huser hgone

section Steps

variable {service : Service} {session : Session} {request : Request} {id : Int}

/-- The session that an answer leaves is the one that was shown, or its user has been found. -/
theorem session_of_answer (hleft : (service.answer session request).session = some id) :
    session = some id ∨ service.store.user? id ≠ none := by
  cases hroute : Route.of request.method request.target with
  | endpoint asked =>
      cases asked with
      | index | loginPage =>
          simp only [answer, hroute, visit] at hleft
          exact .inl hleft
      | login =>
          cases hlogin : login service.settings service.store request with
          | error failure =>
              rw [answer_of_login_error hroute hlogin] at hleft
              exact .inl hleft
          | ok signedIn =>
              obtain ⟨response, chosen⟩ := signedIn
              rw [answer_of_login_ok hroute hlogin] at hleft
              obtain rfl : chosen = id := Option.some.inj hleft
              obtain ⟨-, user, -, -, hfound, -⟩ := login_eq_ok hlogin
              rw [Store.findUser_int] at hfound
              split at hfound
              · rw [Except.ok.inj hfound]
                exact .inr (Option.some_ne_none user)
              · cases hfound
      | logout =>
          cases hlogout : logout service.settings with
          | error failure =>
              simp only [answer, hroute, visit, hlogout] at hleft
              exact .inl hleft
          | ok response =>
              simp only [answer, hroute, visit, hlogout] at hleft
              cases hleft
      | call call =>
          cases hbody : bodyFor request call with
          | error refusal =>
              rw [answer_of_unreadable hroute hbody] at hleft
              exact .inl hleft
          | ok payload =>
              cases huser : session.user? service.store with
              | none =>
                  rw [answer_of_nobody hroute hbody huser] at hleft
                  exact .inl ((Session.afterLookup_eq_some_iff huser).mp hleft).1
              | some user =>
                  rw [answer_of_user hroute hbody huser, answerCall_session] at hleft
                  exact .inl hleft
  | manual | wrongMethod | redirect | unknown =>
      simp only [answer, hroute] at hleft
      exact .inl hleft

/-- An id in the sessions that are kept was there before, or it is left behind anew. -/
theorem held_keep {sessions : OrderedMap Visitor Int} {visitor : Visitor}
    {before after : Session} {entry : Visitor × Int}
    (hentry : entry ∈ keep sessions visitor before after) :
    (∃ old ∈ sessions, old.2 = entry.2) ∨ after = some entry.2 ∧ before ≠ after := by
  unfold keep at hentry
  split at hentry
  next => exact .inl ⟨entry, hentry, rfl⟩
  next hchanged =>
    cases after with
    | none => exact .inl ⟨entry, List.mem_of_mem_filter hentry, rfl⟩
    | some id =>
        rcases OrderedMap.exists_of_mem_insertBy hentry with hnew | hold
        · exact .inr ⟨congrArg some hnew.symm, hchanged⟩
        · exact .inl hold

/-- An id that a session holds after an event was held before, or its user has been found. -/
theorem held_step {event : Event} {entry : Visitor × Int}
    (hentry : entry ∈ (service.step event).sessions) :
    (∃ old ∈ service.sessions, old.2 = entry.2) ∨ service.store.user? entry.2 ≠ none := by
  cases event with
  | request client request =>
      change entry ∈ (service.handle client request).2.sessions at hentry
      rw [handle_sessions] at hentry
      split at hentry
      next =>
        rcases held_keep hentry with hold | ⟨hafter, hchanged⟩
        · exact .inl hold
        · refine .inr ((session_of_answer hafter).resolve_left ?_)
          intro hbefore
          exact hchanged (hbefore.trans hafter.symm)
      next => exact .inl ⟨entry, hentry, rfl⟩
  | addUser | removeUser | addActor | pass =>
      rw [step_sessions] at hentry
      · exact .inl ⟨entry, hentry, rfl⟩
      · simp

/-- If there is no user of an id that a session holds, the user was deleted in the run. -/
theorem held_run {start : Service} (hnone : start.sessions = []) {events : List Event}
    {entry : Visitor × Int} (hentry : entry ∈ (start.run events).sessions)
    (hgone : (start.run events).store.user? entry.2 = none) :
    ∃ moment ∈ start.moments events, moment.Deletes entry.2 := by
  induction events using List.reverseRecOn generalizing entry with
  | nil =>
      have hempty : (start.run []).sessions = [] := hnone
      rw [hempty] at hentry
      cases hentry
  | append_singleton events event ih =>
      rw [run_concat] at hentry hgone
      rw [moments_concat]
      by_cases huser : (start.run events).store.user? entry.2 = none
      · -- Only a session from before can be that of nobody.
        obtain ⟨old, hold, hsame⟩ := (held_step hentry).resolve_right (not_not.mpr huser)
        obtain ⟨moment, hmoment, hdeletes⟩ := ih hold (hsame ▸ huser)
        exact ⟨moment, List.mem_append_left _ hmoment, hsame ▸ hdeletes⟩
      · exact ⟨_, List.mem_append_right _ List.mem_cons_self,
          (change_step _ event).deletes huser hgone⟩

end Steps

/-! ## The page and the calls -/

section Comparison

variable {client : String} {look list : Request}

/-- A client looks at the index page and asks for its actors, with the same cookies. -/
structure AsksForBoth (look list : Request) : Prop where
  index : Route.of look.method look.target = .endpoint .index
  actors : Route.of list.method list.target = .endpoint (.call .listActors)
  site : list.target.site = look.target.site
  cookies : list.foreignCookies = look.foreignCookies

/-- How what a client sees on the index page compares with the answer to its call. -/
structure Compares (service : Service) (client : String) (look list : Request) (page : String) :
    Prop where
  seen : (service.handle client look).1 = .ok (.page page)
  either : showsSignInLink page = !showsRollForm page
  answered : service.status? client list = some 200 ∨ service.status? client list = some 401
  agree_iff : (showsRollForm page = true ↔ service.status? client list = some 200) ↔
    ¬ (service.shown ⟨client, look.target.site⟩ look).IsOrphan service.store
  orphan : (service.shown ⟨client, look.target.site⟩ look).IsOrphan service.store →
    showsRollForm page = true ∧ service.status? client list = some 401

theorem reply_of_index (service : Service) (client : String)
    (hindex : Route.of look.method look.target = .endpoint .index) :
    (service.handle client look).1 =
      .ok (.page (Page.index (service.shown ⟨client, look.target.site⟩ look).id?.isSome)) := by
  rw [handle_reply service client hindex]
  simp only [answer, hindex, visit, Turn.still, indexPage]

/-- Whoever has a user is shown the actors. -/
theorem status?_of_list {service : Service} {user : User}
    (hlist : Route.of list.method list.target = .endpoint (.call .listActors))
    (huser : service.requester client list = some user) :
    service.status? client list = some 200 := by
  rw [status?_eq_some_iff, (handle_of_user hlist rfl huser).1]
  exact ⟨_, rfl, rfl⟩

theorem exists_compares (service : Service) (client : String) (hboth : AsksForBoth look list) :
    ∃ page, Compares service client look list page := by
  obtain ⟨hindex, hlist, hsite, hcookies⟩ := hboth
  let session := service.shown ⟨client, look.target.site⟩ look
  obtain ⟨hform, hlink⟩ := shows_index session.id?.isSome
  have hrequester : service.requester client list = session.user? service.store := by
    simp only [requester, shown, hsite, hcookies, session]
  have heither : showsSignInLink (Page.index session.id?.isSome) =
      !showsRollForm (Page.index session.id?.isSome) := by rw [hform, hlink]
  have hseen := reply_of_index service client hindex
  cases huser : session.user? service.store with
  | some user =>
      have hstatus := status?_of_list hlist (hrequester.trans huser)
      have hlive : ¬ session.IsOrphan service.store := by simp [Session.isOrphan_iff, huser]
      have hshows := hform.trans (Session.isSome_id?_of_user huser)
      have hagree : showsRollForm (Page.index session.id?.isSome) = true ↔
          service.status? client list = some 200 := iff_of_true hshows hstatus
      exact ⟨_, hseen, heither, .inl hstatus, iff_of_true hagree hlive,
        fun horphan => absurd horphan hlive⟩
  | none =>
      have hstatus := (status?_eq_401_iff hlist rfl).mpr (hrequester.trans huser)
      have horphan : session.IsOrphan service.store ↔ session.id?.isSome = true := by
        simp [Session.isOrphan_iff, huser]
      refine ⟨_, hseen, heither, .inr hstatus, ?_, fun hgone =>
        ⟨hform.trans (horphan.mp hgone), hstatus⟩⟩
      rw [hform, horphan, hstatus]
      simp

end Comparison

section Runs

variable {start : Service} {look list : Request}

/-- In a run the index page agrees with the call but for clients whose user was deleted: these
see the form, and their call is refused. -/
theorem index_agrees_unless_orphaned (hnone : start.sessions = []) (events : List Event)
    (client : String) (hboth : AsksForBoth look list) :
    (∃ page, Compares (start.run events) client look list page) ∧
      ∀ id, (start.run events).shown ⟨client, look.target.site⟩ look = some id →
        (start.run events).store.user? id = none →
        ∃ moment ∈ start.moments events, moment.Deletes id := by
  refine ⟨exists_compares _ client hboth, ?_⟩
  intro id hshown hgone
  obtain ⟨entry, hentry, rfl⟩ := exists_of_shown hshown
  exact held_run hnone hentry hgone

/-- Ann is signed in: she sees the form, and her actors. -/
theorem index_agrees_unless_orphaned_signed_in :
    let start : Service := ⟨{}, {}, [], .stream (fun _ => .ofGrid 0) 0⟩
    let login : Request := {
      method := "POST"
      target := ⟨"http://test", "test", "test.local", "/dev/login".toList, []⟩
      mediaType := "application/x-www-form-urlencoded"
      body := "user_id=1".toUTF8.toList }
    let look : Request := {
      method := "GET"
      target := ⟨"http://test", "test", "test.local", "/".toList, []⟩ }
    let list : Request := {
      method := "GET"
      target := ⟨"http://test", "test", "test.local", "/api/actors".toList, []⟩ }
    let service := start.run [.addUser (.str "Ann") .null, .request "ann" login]
    ∃ page, Compares service "ann" look list page ∧ showsRollForm page = true ∧
      service.status? "ann" list = some 200 := by
  intro start login look list service
  have hboth : AsksForBoth look list :=
    ⟨by decide +kernel, by decide +kernel, rfl, rfl⟩
  have hnone : start.sessions = [] := rfl
  obtain ⟨⟨page, hcompares⟩, -⟩ := index_agrees_unless_orphaned hnone
    [.addUser (.str "Ann") .null, .request "ann" login] "ann" hboth
  have hstatus : service.status? "ann" list = some 200 := by decide +kernel
  have hlive : ¬ (service.shown ⟨"ann", "test.local"⟩ look).IsOrphan service.store := by
    rw [Session.isOrphan_iff]
    decide +kernel
  exact ⟨page, hcompares, (hcompares.agree_iff.mpr hlive).mpr hstatus, hstatus⟩

/-- Ann is deleted while she is signed in: she still sees the form, but her call is refused. -/
theorem index_greets_orphan :
    let start : Service := ⟨{}, {}, [], .stream (fun _ => .ofGrid 0) 0⟩
    let login : Request := {
      method := "POST"
      target := ⟨"http://test", "test", "test.local", "/dev/login".toList, []⟩
      mediaType := "application/x-www-form-urlencoded"
      body := "user_id=1".toUTF8.toList }
    let look : Request := {
      method := "GET"
      target := ⟨"http://test", "test", "test.local", "/".toList, []⟩ }
    let list : Request := {
      method := "GET"
      target := ⟨"http://test", "test", "test.local", "/api/actors".toList, []⟩ }
    let service := start.run [.addUser (.str "Ann") .null, .request "ann" login,
      .removeUser (.int 1)]
    AsksForBoth look list ∧
      ∃ page, (service.handle "ann" look).1 = .ok (.page page) ∧ showsRollForm page = true ∧
        showsSignInLink page = false ∧ service.status? "ann" list = some 401 := by
  intro start login look list service
  have hboth : AsksForBoth look list := ⟨by decide +kernel, by decide +kernel, rfl, rfl⟩
  have hsession : (service.shown ⟨"ann", look.target.site⟩ look).id?.isSome = true := by
    decide +kernel
  have hseen := reply_of_index service "ann" hboth.index
  rw [hsession] at hseen
  exact ⟨hboth, _, hseen, (shows_index true).1, (shows_index true).2, by decide +kernel⟩

end Runs

end Service
end Tabletop
