import Mathlib
import Tabletop.Proofs.Service.Sessions

/-!
# Production

In production nobody can sign in, and without a session every call is refused before it
looks at anything.  So a service that begins without sessions never has one, and a request
leaves it exactly as it was: all that changes it comes from inside.

The form of the login is read before the page is said to be unknown, so a client is told
what is wrong with it.  There is no response at all if the id is a string that is no text,
because the response would have to repeat it.
-/

namespace Tabletop

namespace Web

open Text Validation

/-- The string of a field: its text, or the name of its file. -/
def FormValue.string : FormValue → Loose
  | .text value => value
  | .file name _ => name

/-- What a form gives as the id of a user is a string, but no text. -/
def Form.BreaksId (form : Form) : Prop :=
  ∃ value string, form.value? "user_id" = some value ∧ value.string = .broken string

def Request.BreaksId (request : Request) : Prop :=
  ∃ form, request.form = .ok form ∧ form.BreaksId

namespace Multipart

/-- A body with one part, behind which nothing follows. -/
theorem partsOf_single {boundary bytes rest content after : List UInt8} {headers : List Header}
    (hlength : boundary.length ≤ maxBoundaryLength)
    (hhead : readHead [] .lineStart 0 bytes = .complete headers rest)
    (hcontent : readContent (cr :: lf :: hyphen :: hyphen :: boundary) [] rest =
      (content, some (.nothing, after))) :
    partsOf boundary (hyphen :: hyphen :: boundary ++ cr :: lf :: bytes) =
      ([⟨headers, content, true⟩], true) := by
  have hparts : readParts (cr :: lf :: hyphen :: hyphen :: boundary) bytes =
      ([⟨headers, content, true⟩], true) := by
    unfold readParts
    split <;> simp_all
    split <;> simp_all
  rw [← hparts]
  set mark := hyphen :: hyphen :: boundary with hmark
  have hpreamble : dropPreamble (mark ++ cr :: lf :: bytes) = mark ++ cr :: lf :: bytes := rfl
  have hfront : mark.isPrefixOf (mark ++ cr :: lf :: bytes) = true :=
    List.isPrefixOf_iff_prefix.mpr (List.prefix_append _ _)
  simp only [partsOf, ← hmark, hpreamble, hfront, Nat.not_lt.mpr hlength, if_true, if_false,
    List.drop_left]
  rfl

theorem decode_of_parts {mediaType : HeaderValue} {charset : String} {boundary : List Char}
    {body : List UInt8} {parts : List Part} {form : Form}
    (hcharset : mediaType.get? "charset" = some charset.toList)
    (hname : Charset.isName charset = true) (hboundary : mediaType.get? "boundary" = some boundary)
    (hparts : partsOf (bytesOf boundary) body = (parts, true))
    (hfields : fieldsOf charset {} parts = .ok form) : decode mediaType body = .ok form := by
  unfold decode
  simp only [hcharset, hboundary, hparts, hfields, hname, Option.map_some, Option.getD_some,
    String.ofList_toList]
  rfl

end Multipart

end Web

namespace Service

open Text Validation Web

/-! ## The form of the login -/

section Login

variable {settings : Settings} {store : Store} {request : Request} {form : Form}

/-- An issue with an id that is missing, or with a text that writes none. -/
def IsIdIssue (issue : Issue) : Prop :=
  ∃ rule value, issue = ⟨["user_id"], rule, .value value⟩ ∧
    (value = .null ∨ ∃ text, value = .str text)

theorem readUserId_of_breaksId (hbreaks : form.BreaksId) :
    ∃ string, readUserId form = .error [⟨["user_id"], .wholeType, .value (.broken string)⟩] := by
  obtain ⟨value, string, hvalue, hstring⟩ := hbreaks
  refine ⟨string, ?_⟩
  unfold readUserId
  rw [hvalue]
  cases value with
  | text value =>
      obtain rfl : value = .broken string := hstring
      rfl
  | file name isEmpty =>
      obtain rfl : name = .broken string := hstring
      simp only [reduceCtorEq, false_and, if_false]
      rfl

theorem ofText_isIdIssue (text : String) :
    Except.FailsOnly (fun issues => ∃ issue, IsIdIssue issue ∧ issues = [issue])
      ((Whole.ofText text).inside "user_id") := by
  have hissue : ∀ rule, IsIdIssue ⟨["user_id"], rule, .value (.str text)⟩ :=
    fun rule => ⟨rule, .str text, rfl, .inr ⟨text, rfl⟩⟩
  simp only [Whole.ofText]
  split
  · exact Except.failsOnly_error ⟨_, hissue .wholeLength, rfl⟩
  · split
    · exact Except.failsOnly_ok _
    · exact Except.failsOnly_error ⟨_, hissue .wholeText, rfl⟩

theorem readUserId_isIdIssue (hwhole : ¬ form.BreaksId) :
    Except.FailsOnly (fun issues => ∃ issue, IsIdIssue issue ∧ issues = [issue])
      (readUserId form) := by
  have hmissing : IsIdIssue ⟨["user_id"], .missing, .value .null⟩ :=
    ⟨.missing, .null, rfl, .inl rfl⟩
  have htext : ∀ value, form.value? "user_id" = some value →
      ∃ text, value.string = .text text := by
    intro value hvalue
    cases hstring : value.string with
    | text text => exact ⟨text, rfl⟩
    | broken string => exact absurd ⟨value, string, hvalue, hstring⟩ hwhole
  unfold readUserId
  cases hvalue : form.value? "user_id" with
  | none => exact Except.failsOnly_error ⟨_, hmissing, rfl⟩
  | some value =>
      obtain ⟨text, hstring⟩ := htext value hvalue
      cases value with
      | text value =>
          obtain rfl : value = .text text := hstring
          dsimp only
          split
          · exact Except.failsOnly_error ⟨_, hmissing, rfl⟩
          · exact ofText_isIdIssue text
      | file name isEmpty =>
          obtain rfl : name = .text text := hstring
          dsimp only
          split
          · exact Except.failsOnly_error ⟨_, hmissing, rfl⟩
          · exact Except.failsOnly_error ⟨_, ⟨.wholeType, .str text, rfl, .inr ⟨text, rfl⟩⟩, rfl⟩

/-- Why a login is refused in production. -/
inductive DeniesLogin (request : Request) : Refusal → Prop where
  | badForm {fault : FormFault} (hform : request.form = .error (.badForm fault)) :
      DeniesLogin request (.badForm fault)
  | badId {form : Form} {issue : Issue} (hform : request.form = .ok form)
      (hread : readUserId form = .error [issue]) (hissue : IsIdIssue issue) :
      DeniesLogin request (.invalid [issue.inside "body"])
  | closed : DeniesLogin request .unknownPage

theorem DeniesLogin.status {reason : Refusal} (hdenies : DeniesLogin request reason) :
    400 ≤ reason.response.status ∧ reason.response.status < 500 := by
  cases hdenies with
  | badForm hform => exact (by decide : 400 ≤ 400 ∧ 400 < 500)
  | badId hform hread hissue => exact (by decide : 400 ≤ 422 ∧ 422 < 500)
  | closed => exact (by decide : 400 ≤ 404 ∧ 404 < 500)

theorem IsIdIssue.ofIssues {issue : Issue} (hissue : IsIdIssue issue) :
    Failure.ofIssues [issue.inside "body"] = .refused (.invalid [issue.inside "body"]) := by
  obtain ⟨rule, value, rfl, hvalue⟩ := hissue
  rcases hvalue with rfl | ⟨text, rfl⟩
  · rfl
  · rfl

/-- The guard of the pages to sign in and out. -/
theorem guardLogin_of_production (hprod : settings.isProduction = true) :
    guardLogin settings = .error (.refused .unknownPage) := if_pos hprod

theorem loginPage_of_production (hprod : settings.isProduction = true) (store : Store) :
    loginPage settings store = .error (.refused .unknownPage) := by
  unfold loginPage
  rw [guardLogin_of_production hprod]
  rfl

theorem logout_of_production (hprod : settings.isProduction = true) :
    logout settings = .error (.refused .unknownPage) := by
  unfold logout
  rw [guardLogin_of_production hprod]
  rfl

theorem login_of_badForm {refusal : Refusal} (hform : request.form = .error refusal) :
    login settings store request = .error (.refused refusal) := by
  unfold login
  rw [hform]
  rfl

theorem login_of_badId {issues : List Issue} (hform : request.form = .ok form)
    (hread : readUserId form = .error issues) :
    login settings store request =
      .error (Failure.ofIssues (issues.map (Issue.inside "body"))) := by
  unfold login
  rw [hform]
  show granted "body" (readUserId form) >>= _ = _
  rw [hread]
  rfl

/-- An id that is a string but no text leaves the login without a response, in any settings. -/
theorem login_of_breaksId (settings : Settings) (store : Store) (hbreaks : request.BreaksId) :
    login settings store request = .error (.crashed (.unwritable .string)) := by
  obtain ⟨form, hform, hbreaks⟩ := hbreaks
  obtain ⟨string, hread⟩ := readUserId_of_breaksId hbreaks
  rw [login_of_badId hform hread]
  rfl

theorem login_of_production (hprod : settings.isProduction = true) (store : Store)
    (hwhole : ¬ request.BreaksId) :
    ∃ reason, DeniesLogin request reason ∧
      login settings store request = .error (.refused reason) := by
  cases hform : request.form with
  | error refusal =>
      obtain ⟨fault, rfl⟩ := request.form_fails refusal hform
      exact ⟨_, .badForm hform, login_of_badForm hform⟩
  | ok form =>
      cases hread : readUserId form with
      | error issues =>
          have hwholeForm : ¬ form.BreaksId := fun hbreaks => hwhole ⟨form, hform, hbreaks⟩
          obtain ⟨issue, hissue, rfl⟩ := readUserId_isIdIssue hwholeForm issues hread
          have hlogin : login settings store request =
              .error (Failure.ofIssues [issue.inside "body"]) := login_of_badId hform hread
          rw [hissue.ofIssues] at hlogin
          exact ⟨_, .badId hform hread hissue, hlogin⟩
      | ok id =>
          have hgranted : granted "body" (readUserId form) = .ok id := granted_eq_ok_iff.mpr hread
          refine ⟨_, .closed, ?_⟩
          unfold login
          rw [hform]
          show granted "body" (readUserId form) >>= _ = _
          rw [hgranted]
          show guardLogin settings >>= _ = _
          rw [guardLogin_of_production hprod]
          rfl

end Login

/-! ## A service that is closed -/

/-- In production, and nobody is signed in. -/
structure IsClosed (service : Service) : Prop where
  production : service.settings.isProduction = true
  nobody : service.sessions = []

section Closed

variable {service : Service} {client : String} {request : Request}

theorem IsClosed.session (hclosed : IsClosed service) (visitor : Visitor) :
    service.session visitor = none := by
  simp [Service.session, hclosed.nobody]

theorem IsClosed.shown (hclosed : IsClosed service) (visitor : Visitor) (request : Request) :
    service.shown visitor request = none := by
  unfold Service.shown
  split
  · rfl
  · exact hclosed.session visitor

/-- Whatever is asked for, nothing changes but what the client sees. -/
theorem IsClosed.answer_still (hclosed : IsClosed service) (request : Request) :
    ∃ result, service.answer none request = .still service none result := by
  have hprod := hclosed.production
  cases hroute : Route.of request.method request.target with
  | manual page =>
      simp only [answer, hroute]
      exact ⟨_, rfl⟩
  | wrongMethod =>
      simp only [answer, hroute]
      exact ⟨_, rfl⟩
  | redirect location =>
      simp only [answer, hroute]
      exact ⟨_, rfl⟩
  | unknown =>
      simp only [answer, hroute]
      exact ⟨_, rfl⟩
  | endpoint asked =>
      cases asked with
      | index =>
          simp only [answer, hroute, visit]
          exact ⟨_, rfl⟩
      | loginPage =>
          simp only [answer, hroute, visit]
          exact ⟨_, rfl⟩
      | login =>
          by_cases hbreaks : request.BreaksId
          · have hlogin := login_of_breaksId service.settings service.store hbreaks
            exact ⟨_, answer_of_login_error hroute hlogin⟩
          · obtain ⟨reason, -, hlogin⟩ := login_of_production hprod service.store hbreaks
            exact ⟨_, answer_of_login_error hroute hlogin⟩
      | logout =>
          simp only [answer, hroute, visit, logout_of_production hprod]
          exact ⟨_, rfl⟩
      | call call =>
          cases hbody : bodyFor request call with
          | error refusal => exact ⟨_, answer_of_unreadable hroute hbody⟩
          | ok payload => exact ⟨_, answer_of_nobody hroute hbody rfl⟩

theorem IsClosed.handle_eq (hclosed : IsClosed service) (client : String) (request : Request) :
    (service.handle client request).2 = service := by
  obtain ⟨result, hanswer⟩ := hclosed.answer_still request
  have hshown := hclosed.shown ⟨client, request.target.site⟩ request
  simp only [handle, hshown, hanswer, Turn.still, keep, if_true]
  split <;> rfl

theorem IsClosed.step_of_request (hclosed : IsClosed service) {event : Event}
    (hrequest : event.isInside = false) : service.step event = service := by
  cases event with
  | request client request => exact hclosed.handle_eq client request
  | addUser name id => cases hrequest
  | removeUser id => cases hrequest
  | addActor new => cases hrequest
  | pass now => cases hrequest

theorem IsClosed.step (hclosed : IsClosed service) (event : Event) :
    IsClosed (service.step event) ∧ (service.step event).source = service.source := by
  cases hinside : event.isInside with
  | false =>
      rw [hclosed.step_of_request hinside]
      exact ⟨hclosed, rfl⟩
  | true =>
      obtain ⟨store, hstep⟩ := step_of_inside service hinside
      rw [hstep]
      exact ⟨⟨hclosed.production, hclosed.nobody⟩, rfl⟩

theorem IsClosed.run (hclosed : IsClosed service) (events : List Event) :
    IsClosed (service.run events) ∧ (service.run events).source = service.source := by
  induction events generalizing service with
  | nil => exact ⟨hclosed, rfl⟩
  | cons event rest ih =>
      obtain ⟨hnext, hsource⟩ := hclosed.step event
      obtain ⟨hrest, hlast⟩ := ih hnext
      exact ⟨hrest, hlast.trans hsource⟩

/-- The requests of a run might as well not have been made. -/
theorem IsClosed.run_eq_inside (hclosed : IsClosed service) (events : List Event) :
    service.run events = service.run (events.filter Event.isInside) := by
  induction events generalizing service with
  | nil => rfl
  | cons event rest ih =>
      have hrest : (service.step event).run rest =
          (service.step event).run (rest.filter Event.isInside) := ih (hclosed.step event).1
      have hcons : service.run (event :: rest) = (service.step event).run rest := rfl
      cases hinside : event.isInside with
      | true =>
          rw [List.filter_cons_of_pos hinside, hcons, hrest]
          rfl
      | false =>
          rw [List.filter_cons_of_neg (by simp [hinside]), hcons, hrest,
            hclosed.step_of_request hinside]

end Closed

/-! ## What clients are answered -/

theorem handle_of_breaksId (service : Service) (client : String) {request : Request}
    (hroute : Route.of request.method request.target = .endpoint .login)
    (hbreaks : request.BreaksId) :
    (service.handle client request).1 = .error (.unwritable .string) := by
  have hlogin := login_of_breaksId service.settings service.store hbreaks
  rw [handle_reply service client hroute, answer_of_login_error hroute hlogin]
  rfl

/-- What a run of a service in production comes to, and how it answers from then on. -/
structure LockedDown (start : Service) (events : List Event) : Prop where
  nobody : (start.run events).sessions = [] ∧
    ∀ visitor, (start.run events).session visitor = none
  /-- A request leaves the store, the sessions and the source as they were. -/
  frame : ∀ client request, ((start.run events).handle client request).2 = start.run events
  inside : start.run events = start.run (events.filter Event.isInside)
  source : (start.run events).source = start.source
  index : ∀ client request, Route.of request.method request.target = .endpoint .index →
    ((start.run events).handle client request).1 = .ok (.page (Page.index false))
  pages : ∀ client request asked, Route.of request.method request.target = .endpoint asked →
    asked = .loginPage ∨ asked = .logout →
    ((start.run events).handle client request).1 = .ok (.detail 404 "Not Found")
  login : ∀ client request, Route.of request.method request.target = .endpoint .login →
    ¬ request.BreaksId → ∃ reason, DeniesLogin request reason ∧
      ((start.run events).handle client request).1 = .ok reason.response ∧
      400 ≤ reason.response.status ∧ reason.response.status < 500
  /-- Without a response the login has no effect either. -/
  unanswered : ∀ client request, Route.of request.method request.target = .endpoint .login →
    request.BreaksId →
    ((start.run events).handle client request).1 = .error (.unwritable .string)
  calls : ∀ client request call payload,
    Route.of request.method request.target = .endpoint (.call call) →
    bodyFor request call = .ok payload →
    ((start.run events).handle client request).1 = .ok (.detail 401 "Not authenticated")

/-- In production nobody who starts without a session ever gets to anything. -/
theorem production_locked_down {start : Service} (hprod : start.settings.isProduction = true)
    (hnobody : start.sessions = []) (events : List Event) : LockedDown start events := by
  have hstart : IsClosed start := ⟨hprod, hnobody⟩
  obtain ⟨hclosed, hsource⟩ := hstart.run events
  have hshown := hclosed.shown
  have hreply : ∀ {client request asked},
      Route.of request.method request.target = .endpoint asked →
      ((start.run events).handle client request).1 =
        ((start.run events).answer none request).reply := by
    intro client request asked hroute
    rw [handle_reply _ client hroute, hshown]
  refine ⟨⟨hclosed.nobody, hclosed.session⟩, hclosed.handle_eq, hstart.run_eq_inside events,
    hsource, ?index, ?pages, ?login, ?unanswered, ?calls⟩
  case index =>
    intro client request hroute
    rw [hreply hroute]
    simp only [answer, hroute, visit]
    rfl
  case pages =>
    rintro client request asked hroute (rfl | rfl)
    · rw [hreply hroute]
      simp only [answer, hroute, visit, loginPage_of_production hclosed.production _]
      rfl
    · rw [hreply hroute]
      simp only [answer, hroute, visit, logout_of_production hclosed.production]
      rfl
  case login =>
    intro client request hroute hwhole
    obtain ⟨reason, hdenies, hlogin⟩ :=
      login_of_production hclosed.production (start.run events).store hwhole
    refine ⟨reason, hdenies, ?_, hdenies.status⟩
    rw [hreply hroute, answer_of_login_error hroute hlogin]
    rfl
  case unanswered =>
    intro client request hroute hbreaks
    exact handle_of_breaksId _ client hroute hbreaks
  case calls =>
    intro client request call payload hroute hbody
    rw [hreply hroute, answer_of_nobody hroute hbody rfl]
    rfl

/-- A user is added from inside, and somebody tries to sign in as that user. -/
theorem production_locked_down_user :
    let start : Service :=
      ⟨{ environment := "production" }, {}, [], .stream (fun _ => .ofGrid 0) 0⟩
    let events : List Service.Event := [
      .addUser (.str "Ann") .null,
      .request "ann" {
        method := "POST"
        target := ⟨"http://test", "test", "test.local", "/dev/login".toList, []⟩
        mediaType := "application/x-www-form-urlencoded"
        body := "user_id=1".toUTF8.toList }]
    start.settings.isProduction = true ∧ start.sessions = [] ∧ LockedDown start events := by
  intro start events
  have hprod : start.settings.isProduction = true := by decide
  exact ⟨hprod, rfl, production_locked_down hprod rfl events⟩

/-- Half of a pair of surrogates as an id: the form is wrong, but nobody is told. -/
theorem closed_login_unanswered : ¬ ∀ (service : Service) (client : String) (request : Request),
    service.settings.isProduction = true → service.sessions = [] →
      Route.of request.method request.target = .endpoint .login →
      ∃ status, service.status? client request = some status ∧ 400 ≤ status ∧ status < 500 := by
  intro hall
  let service : Service :=
    ⟨{ environment := "production" }, {}, [], .stream (fun _ => .ofGrid 0) 0⟩
  let mediaType : HeaderValue :=
    ⟨"multipart/form-data", [("boundary", ['x']), ("charset", "unicode_escape".toList)]⟩
  let part : Multipart.Part :=
    ⟨[⟨"content-disposition", "form-data; name=\"user_id\"".toList⟩],
      "\\ud800".toUTF8.toList, true⟩
  let form : Form := [(.text "user_id", .text (.broken { codes := [0xD800] }))]
  let lines : List UInt8 :=
    ("Content-Disposition: form-data; name=\"user_id\"\r\n\r\n" ++
      "\\ud800\r\n--x--\r\n").toUTF8.toList
  let request : Request := {
    method := "POST"
    target := ⟨"http://test", "test", "test.local", "/dev/login".toList, []⟩
    mediaType := "multipart/form-data; boundary=x; charset=unicode_escape"
    body := Multipart.hyphen :: Multipart.hyphen :: Multipart.bytesOf ['x'] ++
      Multipart.cr :: Multipart.lf :: lines }
  have hmedia : HeaderValue.ofChars request.mediaType.toList = mediaType := by cbv
  have hparts : Multipart.partsOf (Multipart.bytesOf ['x']) request.body = ([part], true) := by
    have hhead : Multipart.readHead [] .lineStart 0 lines =
        .complete part.headers "\\ud800\r\n--x--\r\n".toUTF8.toList := by
      simp only [lines]
      cbv
    have hcontent : Multipart.readContent
        (Multipart.cr :: Multipart.lf :: Multipart.hyphen :: Multipart.hyphen ::
          Multipart.bytesOf ['x']) [] "\\ud800\r\n--x--\r\n".toUTF8.toList =
        (part.content, some (.nothing, [0x0D, 0x0A])) := by
      decide +kernel
    exact Multipart.partsOf_single (by decide) hhead hcontent
  have hfields : Multipart.fieldsOf "unicode_escape" {} [part] = .ok form := by decide +kernel
  have hform : request.form = .ok form := by
    have hcharset : mediaType.get? "charset" = some "unicode_escape".toList := rfl
    have hname : Charset.isName "unicode_escape" = true := by decide
    have hboundary : mediaType.get? "boundary" = some ['x'] := rfl
    have hdecode : Multipart.decode mediaType request.body = .ok form :=
      Multipart.decode_of_parts hcharset hname hboundary hparts hfields
    simp only [Request.form, hmedia]
    show (Multipart.decode mediaType request.body).mapError Refusal.badForm = .ok form
    rw [hdecode]
    rfl
  have hbreaks : request.BreaksId := ⟨form, hform, _, { codes := [0xD800] }, rfl, rfl⟩
  have hroute : Route.of request.method request.target = .endpoint .login := by decide +kernel
  obtain ⟨status, hanswered, -⟩ := hall service "ann" request (by decide) rfl hroute
  have hstatus : service.status? "ann" request = none := by
    unfold status?
    rw [handle_of_breaksId service "ann" hroute hbreaks]
    rfl
  rw [hstatus] at hanswered
  cases hanswered

end Service
end Tabletop
