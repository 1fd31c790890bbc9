import Tabletop.Proofs.Service.Reachable
import Tabletop.Proofs.Service.Register
import Mathlib

/-!
# Actors stay valid

What clients send is held to rules when it is read, and what is stored is held to rules
by the store.  The first rules are the stricter ones: whatever was read and merged into
a valid row has nothing that the store refuses.  So all rows are sound, those that
clients asked for are tidy as long as they last, and no request breaks a rule of the store.
-/

namespace Tabletop
namespace Service

open Text Validation Web

/-! ## Names -/

theorem cleanName_eq_ok {name clean : String} (hclean : cleanName name = .ok clean) :
    clean = stripBlank name ∧ clean ≠ "" := by
  simp only [cleanName] at hclean
  split at hclean
  · cases hclean
  next hnotEmpty =>
    obtain rfl := Except.ok.inj hclean
    exact ⟨rfl, by simpa using hnotEmpty⟩

/-- Dropping blanks makes a name shorter, but not empty. -/
theorem length_of_cleanName {name clean : String} (hclean : cleanName name = .ok clean)
    (hlength : name.length ≤ 100) : 1 ≤ clean.length ∧ clean.length ≤ 100 := by
  obtain ⟨rfl, hne⟩ := cleanName_eq_ok hclean
  have hshorter : (stripBlank name).length ≤ name.length := by
    simp only [stripBlank, String.length_ofList]
    exact length_trim_le isBlank name.toList
  have hpos : (stripBlank name).length ≠ 0 := by simpa using hne
  omega

theorem bare_of_cleanName {name clean : String} (hclean : cleanName name = .ok clean) :
    stripBlank clean = clean := by
  obtain ⟨rfl, -⟩ := cleanName_eq_ok hclean
  simp [stripBlank]

theorem cleanPatch_eq_ok {patch clean : Patch} (hclean : cleanPatch patch = .ok clean)
    (hpatch : patch.Within) : clean.Within ∧ ∀ name ∈ clean.name, stripBlank name = name := by
  unfold cleanPatch at hclean
  split at hclean
  next hname =>
    obtain rfl := Except.ok.inj hclean
    exact ⟨hpatch, by simp [hname]⟩
  next name hname =>
    obtain ⟨short, hshort, rfl⟩ := Except.map_eq_ok_iff.mp hclean
    refine ⟨⟨?_, hpatch.scores, hpatch.bonus⟩, ?_⟩
    · rintro _ ⟨⟩
      exact length_of_cleanName hshort (hpatch.name name hname).2
    · rintro _ ⟨⟩
      exact bare_of_cleanName hshort

/-- A profile that was read is tidy under its clean name. -/
theorem tidy_of_cleanName {json : Json} {profile : Profile} {name : String}
    (hread : Profile.ofJson json = .ok profile) (hclean : cleanName profile.name = .ok name) :
    Profile.Tidy { profile with name } := by
  obtain ⟨-, hlength, hbonus⟩ := Profile.ofJson_eq_ok hread
  exact ⟨length_of_cleanName hclean hlength.2, bare_of_cleanName hclean, hbonus⟩

/-! ## Where an actor comes from -/

/-- An actor that is added from inside has whole numbers for its scores and its bonus, or they
are left out. -/
def Event.AddsWholes : Event → Prop
  | .addActor new => new.IsWhole
  | _ => True

/-- The id under which an actor came. -/
def Notice.createdId? : Notice → Option Int
  | .created document => documentId? document
  | _ => none

namespace Moment

/-- An actor comes under an id. -/
def Creates (moment : Moment) (id : Int) : Prop := moment.notice.createdId? = some id

/-- An actor comes under an id because a client asks for one. -/
def Posts (moment : Moment) (id : Int) : Prop :=
  (∃ client request, moment.event = .request client request) ∧ moment.Creates id

/-- A new actor takes no id that is in use. -/
theorem Creates.id_free {moment : Moment} {id : Int} (hcreates : moment.Creates id) :
    id ∉ moment.service.store.actorIds := by
  have hstored : Stored moment.service.store moment.notice _ :=
    stored_step moment.service moment.event
  unfold Creates at hcreates
  cases hnotice : moment.notice with
  | created document =>
      rw [hnotice] at hstored hcreates
      obtain rfl := Option.some.inj (hstored.id_of_created.symm.trans hcreates)
      exact Store.nextId_not_mem _
  | _ =>
      rw [hnotice] at hcreates
      cases hcreates

end Moment

/-- The latest actor under an id is there because a client asked for it. -/
def Posted (id : Int) (moments : List Moment) : Prop :=
  Standing (fun moment => moment.Posts id) (fun moment => moment.Creates id) moments

/-- How a row of the table comes to be what it is after an event. -/
inductive Origin (service : Service) (event : Event) : Actor → Prop where
  | kept {actor : Actor} (hold : actor ∈ service.store.actors) : Origin service event actor
  | patched {old : Actor} {patch : Patch} (hold : old ∈ service.store.actors)
      (hpatch : patch.Within) (hbare : ∀ name ∈ patch.name, stripBlank name = name) :
      Origin service event (old.revised service.store.now (patch.apply old.profile))
  | posted {actor : Actor} (hsound : actor.profile.Sound) (htidy : actor.profile.Tidy) :
      Origin service event actor
  | inserted {new : NewActor} {actor : Actor} (hevent : event = .addActor new)
      (hwritten : Store.Written service.store new actor)
      (hcreates : Moment.Creates ⟨service, event⟩ actor.id) : Origin service event actor

section Steps

variable {service : Service} {event : Event} {actor : Actor}

theorem Write.origin {user : User} {payload : Payload} {call : Call} {response : Response}
    {after : Store} (hkeyed : service.store.Keyed)
    (hwrite : Write service.store user payload call response after)
    (hactor : actor ∈ after.actors) :
    Origin service event actor := by
  cases hwrite with
  | created hread hname hadd =>
      obtain ⟨json, -, hread⟩ := Payload.read_eq_ok_iff.mp hread
      obtain ⟨hsound, -, hbonus⟩ := Profile.ofJson_eq_ok hread
      rw [Store.addActor_of_profile service.store user.id _ hsound hbonus] at hadd
      split at hadd
      · obtain ⟨rfl, rfl⟩ := Prod.mk.inj (Except.ok.inj hadd)
        rcases (Store.mem_insertById _ _ _ _).mp hactor with rfl | hold
        · exact .posted ⟨hsound.scores, hsound.bonus⟩ (tidy_of_cleanName hread hname)
        · exact .kept hold
      · cases hadd
  | @changed text id patch clean found profile hid hread hfound howned hclean hprofile hallowed =>
      obtain ⟨json, -, hread⟩ := Payload.read_eq_ok_iff.mp hread
      obtain ⟨hclean, hbare⟩ := cleanPatch_eq_ok hclean (Patch.ofJson_eq_ok hread)
      obtain ⟨hmem, rfl⟩ := hkeyed.actor?_eq_some_iff.mp hfound
      obtain ⟨old, hold, rfl⟩ := List.mem_map.mp hactor
      split
      next hsame =>
        -- Only one row has the id, so the one that is written is the one that was found.
        obtain rfl := hkeyed.actors.eq_of_id_eq hold hmem hsame
        rw [hprofile]
        exact .patched hold hclean hbare
      next => exact .kept hold
  | deleted hid hfound howned => exact .kept (List.mem_of_mem_filter hactor)

theorem Change.origin {after : Store} (hkeyed : service.store.Keyed)
    (hchange : Change service event after) (hactor : actor ∈ after.actors) :
    Origin service event actor := by
  cases hchange with
  | request client request =>
      rcases handle_store service client request with hsame | ⟨_, _, _, _, -, -, -, -, hwrite⟩
      · rw [hsame] at hactor
        exact .kept hactor
      · exact hwrite.origin hkeyed hactor
  | addUser hadd =>
      obtain ⟨-, -, -, -, -, -, -, -, rfl⟩ := Store.addUser_eq_ok hadd
      exact .kept hactor
  | removeUser hremove =>
      obtain ⟨found, -, rfl⟩ := Store.removeUser_eq_ok hremove
      cases found with
      | none => exact .kept hactor
      | some user => exact .kept (List.mem_of_mem_filter hactor)
  | @addActor new added _ hadd =>
      obtain ⟨hwritten, rfl⟩ := Store.addActor_eq_ok hadd
      rcases (Store.mem_insertById _ _ _ _).mp hactor with rfl | hold
      · refine .inserted rfl hwritten ?_
        simp only [Moment.Creates, Moment.notice, hadd]
        rfl
      · exact .kept hold
  | pass now => exact .kept hactor
  | refused => exact .kept hactor

theorem Origin.sound (horigin : Origin service event actor)
    (hwholes : event.AddsWholes) (hsound : ∀ old ∈ service.store.actors, old.profile.Sound) :
    actor.profile.Sound := by
  cases horigin with
  | kept hold => exact hsound actor hold
  | patched hold hpatch hbare =>
      rw [Actor.revised_profile]
      exact Patch.apply_sound hpatch (hsound _ hold)
  | posted hsound htidy => exact hsound
  | inserted hevent hwritten hcreates =>
      subst hevent
      exact hwritten.sound hwholes

/-- Whatever an actor was added with, its scores are some that may be stored. -/
theorem Origin.allowed (horigin : Origin service event actor)
    (hallowed : ∀ old ∈ service.store.actors, Store.checkScores old.profile.scores = .ok ()) :
    Store.checkScores actor.profile.scores = .ok () := by
  cases horigin with
  | kept hold => exact hallowed actor hold
  | patched hold hpatch hbare =>
      rw [Actor.revised_profile]
      exact Store.checkScores_apply hpatch (hallowed _ hold)
  | posted hsound htidy => exact Store.checkScores_of_sound hsound
  | inserted hevent hwritten hcreates => exact hwritten.allowed

/-- What a client asked for is tidy, and it stays so until another actor gets its id. -/
theorem Origin.tidy {moments : List Moment} (horigin : Origin service event actor)
    (htidy : ∀ old ∈ service.store.actors, Posted old.id moments → old.profile.Tidy)
    (hposted : Posted actor.id (moments ++ [⟨service, event⟩])) : actor.profile.Tidy := by
  -- A row that was there before is not the one that comes with the event.
  have hearlier : ∀ old ∈ service.store.actors,
      Posted old.id (moments ++ [⟨service, event⟩]) → old.profile.Tidy := by
    intro old hold hposted
    rcases standing_concat.mp hposted with ⟨-, hcreates⟩ | ⟨hearlier, -⟩
    · exact absurd (List.mem_map_of_mem hold) hcreates.id_free
    · exact htidy old hold hearlier
  cases horigin with
  | kept hold => exact hearlier actor hold hposted
  | patched hold hpatch hbare =>
      rw [Actor.revised_id] at hposted
      rw [Actor.revised_profile]
      exact Patch.apply_tidy hpatch hbare (hearlier _ hold hposted)
  | posted hsound htidy => exact htidy
  | inserted hevent hwritten hcreates =>
      subst hevent
      rcases standing_concat.mp hposted with ⟨⟨_, _, hrequest⟩, -⟩ | ⟨-, hnone⟩
      · cases hrequest
      · exact absurd hcreates hnone

end Steps

theorem start_actors (settings : Settings) (store : Store) :
    (start settings store).2.actors = store.actors := by
  rcases start_store settings store with hsame | hstart
  · rw [hsame]
  · exact Store.ensureUsers_actors hstart

/-- In every state that is reached, all scores are some that may be stored. -/
theorem Reachable.allowed {service : Service} (hreach : Reachable service) :
    ∀ actor ∈ service.store.actors, Store.checkScores actor.profile.scores = .ok () := by
  induction hreach with
  | fresh settings source => simp
  | startup hreach ih =>
      intro actor hactor
      rw [start_actors] at hactor
      exact ih actor hactor
  | step hreach event ih =>
      intro actor hactor
      exact ((change_step _ event).origin hreach.keyed hactor).allowed ih

/-! ## Crashes -/

section Crashes

variable {service : Service} {session : Session} {request : Request} {crash : Crash}

theorem Turn.still_reply_eq_error {result : Except Failure Response} :
    (Turn.still service session result).reply = .error crash ↔
      result = .error (.crashed crash) := by
  cases result with
  | ok response => simp [Turn.still]
  | error failure => cases failure <;> simp [Turn.still, Failure.reply]

theorem Turn.settled_reply_eq_error {result : Except Failure (Response × Store)} :
    (Turn.settled service session result).reply = .error crash ↔
      result = .error (.crashed crash) := by
  cases result with
  | ok stored => simp [Turn.settled, Turn.still]
  | error failure => cases failure <;> simp [Turn.settled, Turn.still, Failure.reply]

/-- From sound rows on, the store refuses no call for what it would have to store. -/
theorem isMild_of_answerCall {user : User} {payload : Payload} {call : Call}
    (hsound : ∀ actor ∈ service.store.actors, actor.profile.Sound)
    (hreply : (answerCall service session user payload call).reply = .error crash) :
    (Failure.crashed crash).IsMild := by
  cases call with
  | listActors => cases hreply
  | createActor =>
      rw [answerCall_createActor] at hreply
      exact createAtOnce_isMild _ (Turn.settled_reply_eq_error.mp hreply)
  | showActor id => exact showActor_isMild id _ (Turn.still_reply_eq_error.mp hreply)
  | deleteActor id =>
      rw [answerCall_deleteActor] at hreply
      exact deleteAtOnce_isMild id _ (Turn.settled_reply_eq_error.mp hreply)
  | roll =>
      have hrolls : (Turn.still service session
          (roll service.store service.engine payload).1).reply = .error crash := hreply
      exact roll_isMild service.engine _ (Turn.still_reply_eq_error.mp hrolls)
  | changeActor id =>
      rw [answerCall_changeActor] at hreply
      refine changeAtOnce_fails (fun _ hmild => hmild) ?_ id _
        (Turn.settled_reply_eq_error.mp hreply)
      intro id actor patch clean cause hread hfound hclean hupdate
      obtain ⟨json, -, hread⟩ := Payload.read_eq_ok_iff.mp hread
      obtain ⟨hwithin, -⟩ := cleanPatch_eq_ok hclean (Patch.ofJson_eq_ok hread)
      have hmerged := Patch.apply_sound hwithin (hsound actor (List.mem_of_find?_eq_some hfound))
      rw [Store.updateActor_of_allowed _ _ (Store.checkScores_of_sound hmerged)] at hupdate
      cases hupdate

theorem guardLogin_isMild (settings : Settings) :
    Except.FailsOnly Failure.IsMild (guardLogin settings) := by
  unfold guardLogin
  split
  · exact Except.failsOnly_error (Failure.isMild_refused nofun)
  · exact Except.failsOnly_ok _

theorem loginPage_isMild (settings : Settings) (store : Store) :
    Except.FailsOnly Failure.IsMild (loginPage settings store) :=
  (guardLogin_isMild settings).bind fun _ _ => Except.failsOnly_ok _

theorem logout_isMild (settings : Settings) :
    Except.FailsOnly Failure.IsMild (logout settings) :=
  (guardLogin_isMild settings).bind fun _ _ => Except.failsOnly_ok _

theorem login_isMild (settings : Settings) (store : Store) :
    Except.FailsOnly Failure.IsMild (login settings store request) := by
  unfold login
  have hform : Except.FailsOnly Failure.IsMild (request.form.mapError Failure.refused) := by
    refine request.form_fails.mapError ?_
    rintro refusal ⟨fault, rfl⟩
    have hother : Refusal.badForm fault ≠ .notAuthenticated := nofun
    exact Failure.isMild_refused hother
  refine hform.bind ?_
  intro form hread
  refine (granted_isMild _ _).bind ?_
  intro id hid
  refine (guardLogin_isMild settings).bind ?_
  intro _ hguard
  refine (findUser_isMild id).bind ?_
  intro found hfound
  cases found with
  | none => exact Except.failsOnly_error (Failure.isMild_refused nofun)
  | some user => exact Except.failsOnly_ok _

theorem isMild_of_visit {endpoint : Endpoint}
    (hsound : ∀ actor ∈ service.store.actors, actor.profile.Sound)
    (hreply : (visit service session request endpoint).reply = .error crash) :
    (Failure.crashed crash).IsMild := by
  cases endpoint with
  | index => cases hreply
  | loginPage => exact loginPage_isMild _ _ _ (Turn.still_reply_eq_error.mp hreply)
  | login =>
      simp only [visit] at hreply
      split at hreply
      · cases hreply
      next failure hfailure =>
        obtain rfl := Except.error.inj (Turn.still_reply_eq_error.mp hreply)
        exact login_isMild _ _ _ hfailure
  | logout =>
      simp only [visit] at hreply
      split at hreply
      · cases hreply
      next failure hfailure =>
        obtain rfl := Except.error.inj (Turn.still_reply_eq_error.mp hreply)
        exact logout_isMild _ _ hfailure
  | call call =>
      simp only [visit] at hreply
      split at hreply
      · simp only [authorize] at hreply
        split at hreply
        · exact isMild_of_answerCall hsound hreply
        · cases Turn.still_reply_eq_error.mp hreply
      · cases Turn.still_reply_eq_error.mp hreply

/-- From sound rows on, no request ends because the store refuses a row. -/
theorem isMild_of_handle (hsound : ∀ actor ∈ service.store.actors, actor.profile.Sound)
    {client : String} (hcrash : (service.handle client request).1 = .error crash) :
    (Failure.crashed crash).IsMild := by
  simp only [handle, Except.map_eq_error_iff, answer] at hcrash
  cases hroute : Route.of request.method request.target with
  | endpoint asked =>
      simp only [hroute] at hcrash
      exact isMild_of_visit hsound hcrash
  | manual | wrongMethod | redirect | unknown =>
      simp only [hroute] at hcrash
      cases Turn.still_reply_eq_error.mp hcrash

end Crashes

/-! ## Runs -/

/-- What holds of the actors at the end of a run, and of all that is done to them there. -/
structure ValidActors (service : Service) (moments : List Moment) : Prop where
  sound : ∀ actor ∈ service.store.actors, actor.profile.Sound
  tidy : ∀ actor ∈ service.store.actors, Posted actor.id moments → actor.profile.Tidy
  /-- The store takes every profile that was read, for any owner whose id it can hold. -/
  added : ∀ (payload : Payload) (profile : Profile) (name : String) (ownerId : Int),
    payload.read Profile.ofJson = .ok profile → cleanName profile.name = .ok name →
    Cell.holds ownerId → ∃ actor, service.store.addActor {
      ownerId := .int ownerId
      name := .str name
      scores := profile.scores.map Cell.toJson
      bonus := profile.bonus.toJson } = .ok (actor, service.store.insertActor actor)
  /-- The store takes every patch that was read, merged into any of its rows. -/
  merged : ∀ (payload : Payload) (patch clean : Patch), payload.read Patch.ofJson = .ok patch →
    cleanPatch patch = .ok clean → ∀ actor ∈ service.store.actors,
    Store.checkScores (clean.apply actor.profile).scores = .ok () ∧
      service.store.updateActor actor (clean.apply actor.profile) =
        .ok (service.store.setProfile actor.id (clean.apply actor.profile))
  /-- Whatever a client asks for, the store refuses no row, and no value but a number of more than
  64 bits. -/
  unbroken : ∀ client request cause, (service.handle client request).1 = .error (.store cause) →
    ∃ n, cause = .tooLarge n

/-- What one event after the other preserves of the rows. -/
structure ValidRows (service : Service) (moments : List Moment) : Prop where
  keyed : service.store.Keyed
  sound : ∀ actor ∈ service.store.actors, actor.profile.Sound
  tidy : ∀ actor ∈ service.store.actors, Posted actor.id moments → actor.profile.Tidy

theorem ValidRows.step {service : Service} {moments : List Moment}
    (hrows : ValidRows service moments) {event : Event} (hwholes : event.AddsWholes) :
    ValidRows (service.step event) (moments ++ [⟨service, event⟩]) := by
  have horigin : ∀ actor ∈ (service.step event).store.actors, Origin service event actor :=
    fun actor hactor => (change_step service event).origin hrows.keyed hactor
  refine ⟨keyed_step hrows.keyed event, ?_, ?_⟩
  · intro actor hactor
    exact (horigin actor hactor).sound hwholes hrows.sound
  · intro actor hactor hposted
    exact (horigin actor hactor).tidy hrows.tidy hposted

theorem ValidRows.run {start : Service} {events : List Event} (hkeyed : start.store.Keyed)
    (hnone : start.store.actors = []) (hwholes : ∀ event ∈ events, event.AddsWholes) :
    ValidRows (start.run events) (start.moments events) := by
  induction events using List.reverseRecOn with
  | nil =>
      have hactors : (start.run []).store.actors = [] := hnone
      exact ⟨hkeyed, by simp [hactors], by simp [hactors]⟩
  | append_singleton rest event ih =>
      rw [run_concat, moments_concat]
      have hrest := ih fun other hother => hwholes other (List.mem_append_left [event] hother)
      exact hrest.step (hwholes event (by simp))

theorem ValidRows.validActors {service : Service} {moments : List Moment}
    (hrows : ValidRows service moments) : ValidActors service moments := by
  refine ⟨hrows.sound, hrows.tidy, ?added, ?merged, ?unbroken⟩
  case added =>
    intro payload profile name ownerId hread hname hholds
    obtain ⟨json, -, hread⟩ := Payload.read_eq_ok_iff.mp hread
    obtain ⟨hprofile, -, hbonus⟩ := Profile.ofJson_eq_ok hread
    rw [Store.addActor_of_profile service.store ownerId name hprofile hbonus, if_pos hholds]
    exact ⟨_, rfl⟩
  case merged =>
    intro payload patch clean hread hclean actor hactor
    obtain ⟨json, -, hread⟩ := Payload.read_eq_ok_iff.mp hread
    obtain ⟨hwithin, -⟩ := cleanPatch_eq_ok hclean (Patch.ofJson_eq_ok hread)
    have hmerged := Patch.apply_sound hwithin (hrows.sound actor hactor)
    have hallowed := Store.checkScores_of_sound hmerged
    exact ⟨hallowed, Store.updateActor_of_allowed _ _ hallowed⟩
  case unbroken =>
    intro client request cause hcrash
    exact (isMild_of_handle hrows.sound hcrash).store cause rfl

/-- From a table without actors on, if what is added from inside has whole numbers, all actors are
valid and stay so. -/
theorem actors_stay_valid {start : Service} {events : List Event} (hkeyed : start.store.Keyed)
    (hnone : start.store.actors = []) (hwholes : ∀ event ∈ events, event.AddsWholes) :
    ValidActors (start.run events) (start.moments events) :=
  (ValidRows.run hkeyed hnone hwholes).validActors

/-- Ann asks for a cat, whose name loses its blank ends, and changes some of it.  A dog comes from
inside with standard scores, and a score that is too large keeps a cow out. -/
theorem actors_stay_valid_patched :
    let start : Service := ⟨{}, {}, [], .stream (fun _ => .ofGrid 0) 0⟩
    let ask (method path mediaType body : String) : Event := .request "ann" {
      method := method
      target := ⟨"http://test", "test", "test.local", path.toList, []⟩
      mediaType := mediaType
      body := body.toUTF8.toList }
    let events := [
      .addUser (.str "Ann") .null,
      ask "POST" "/dev/login" "application/x-www-form-urlencoded" "user_id=1",
      ask "POST" "/api/actors" "application/json"
        "\x7b\"name\": \" Cat \", \"profBonus\": true\x7d",
      ask "PATCH" "/api/actors/1" "application/json"
        "\x7b\"abilities\": \x7b\"STR\": \"18\", \"DEX\": null\x7d, \"profBonus\": null\x7d",
      .addActor { ownerId := .int 1, name := .str "Dog", bonus := .int (-5) },
      .addActor { ownerId := .int 1, name := .str "Cow", scores := .const (.int 31) }]
    let cat : Actor := ⟨1, .int 1, ⟨"Cat", .set (.const (.int 10)) .strength (.int 18), .int 1⟩,
      0, 0⟩
    let dog : Actor := ⟨2, .int 1, ⟨"Dog", .const (.int 10), .int (-5)⟩, 0, 0⟩
    (start.run events).store.actors = [cat, dog] ∧ Posted 1 (start.moments events) ∧
      ValidActors (start.run events) (start.moments events) := by
  intro start ask events cat dog
  have hwholes : ∀ event ∈ events, event.AddsWholes := by
    simp only [events, List.forall_mem_cons, Event.AddsWholes]
    refine ⟨trivial, trivial, trivial, trivial, ⟨?dogScores, .inr ⟨-5, rfl⟩⟩,
      ⟨?cowScores, .inl rfl⟩, by simp⟩
    case dogScores => exact fun ability => .inl (Scores.get_const _ ability)
    case cowScores => exact fun ability => .inr ⟨31, Scores.get_const _ ability⟩
  refine ⟨by decide +kernel, ?_, actors_stay_valid Store.keyed_empty rfl hwholes⟩
  refine ⟨(start.moments events).take 2, ⟨start.run (events.take 2), _⟩,
    (start.moments events).drop 3, rfl, ⟨⟨_, _, rfl⟩, ?_⟩, ?_⟩
  · unfold Moment.Creates
    decide +kernel
  · unfold Moment.Creates
    decide +kernel

end Service
end Tabletop
