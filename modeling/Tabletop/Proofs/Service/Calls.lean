import Tabletop.Service
import Tabletop.Proofs.Character
import Tabletop.Proofs.Store.Profiles
import Tabletop.Proofs.Store.Transactions
import Mathlib

/-!
# Calls as transactions

A call that changes something looks at everything that could stand against it, assigns what it was
given and commits once, as the last of its changes.  So it comes to the same as if it wrote at
once: a call that fails leaves the store as it was, wherever it fails, and one that succeeds
leaves all that it has written.  Scores are assigned under their codes, in capitals as those of a
character are, and the codes of the six abilities name just the six scores.
-/

namespace Tabletop
namespace Service

open Store Text Validation Web

/-! ## Without a transaction -/

def cleanPatch (patch : Patch) : Except Failure Patch :=
  match patch.name with
  | none => .ok patch
  | some name => (cleanName name).map fun name => { patch with name := some name }

def createAtOnce (store : Store) (user : User) (payload : Payload) :
    Except Failure (Response × Store) := do
  let profile ← granted "body" (payload.read Profile.ofJson)
  let name ← cleanName profile.name
  let (actor, store) ← (store.addActor {
    ownerId := .int user.id
    name := .str name
    scores := profile.scores.map Cell.toJson
    bonus := profile.bonus.toJson }).mapError Failure.ofStore
  return (.json 201 (actorJson actor), store)

def changeAtOnce (store : Store) (user : User) (id : String) (payload : Payload) :
    Except Failure (Response × Store) := do
  let (id, patch) ← readChange id payload
  let actor ← ownActorAt store user id
  let patch ← cleanPatch patch
  let profile := patch.apply actor.profile
  let store ← (store.updateActor actor profile).mapError Failure.ofStore
  return (.json 200 (actorJson { actor with profile }), store)

def deleteAtOnce (store : Store) (user : User) (id : String) :
    Except Failure (Response × Store) := do
  let id ← granted "path" (readActorId id)
  let _ ← ownActorAt store user id
  return (⟨204, none, .empty⟩, store.dropActor id)

/-- What is left if the store changes just when a call succeeds. -/
def Turn.settled (service : Service) (session : Session)
    (result : Except Failure (Response × Store)) : Turn :=
  match result with
  | .ok (response, store) => { still service session (.ok response) with store }
  | .error failure => still service session (.error failure)

/-- Some work on a store comes to a result, and leaves the store as it was if that is a failure. -/
def ComesTo (work : Work Failure Response) (store : Store)
    (result : Except Failure (Response × Store)) : Prop :=
  work.on store =
    match result with
    | .ok (response, after) => (.ok response, after)
    | .error failure => (.error failure, store)

theorem ComesTo.storing_eq {service : Service} {work : Work Failure Response}
    {result : Except Failure (Response × Store)} (hwork : ComesTo work service.store result)
    (session : Session) : Turn.storing service session work = .settled service session result := by
  unfold Turn.storing
  rw [hwork]
  cases result <;> rfl

/-! ## Actors that are found -/

theorem actorAt_eq_ok {store : Store} {id : Int} {actor : Actor}
    (hfound : actorAt store id = .ok actor) : store.actor? id = some actor := by
  simp only [actorAt, Except.bind_eq_ok_iff, Except.mapError_eq_ok_iff] at hfound
  obtain ⟨found, hfind, hfound⟩ := hfound
  cases found with
  | none => cases hfound
  | some other =>
      obtain rfl := Except.pure_eq_ok_iff.mp hfound
      exact (Store.findActor_int_eq_ok_iff.mp hfind).2

theorem ownActorAt_eq_ok {store : Store} {user : User} {id : Int} {actor : Actor}
    (hown : ownActorAt store user id = .ok actor) :
    store.actor? id = some actor ∧ actor.isOwnedBy user.id := by
  simp only [ownActorAt, Except.bind_eq_ok_iff] at hown
  obtain ⟨found, hfound, hown⟩ := hown
  split at hown
  next howned =>
    obtain rfl := Except.pure_eq_ok_iff.mp hown
    exact ⟨actorAt_eq_ok hfound, howned⟩
  · cases hown

/-! ## Scores that are assigned -/

/-- Codes of abilities stop nothing, and the last score under each of them counts. -/
theorem enterScores_eq_ok {α : Type} {entries : List (String × α)}
    (hentries : NamesAbilities entries) (scores : Scores α) :
    enterScores scores entries = .ok (scores.overwrite entries) := by
  have hassign := Scores.assign_eq_overwrite hentries scores
  unfold labelled at hassign
  unfold enterScores
  rw [hassign]

/-- The scores of a new actor are those that were read. -/
theorem enterScores_toList {α : Type} (old scores : Scores α) :
    enterScores old scores.toList = .ok scores := by
  rw [enterScores_eq_ok scores.namesAbilities_toList, Scores.overwrite_toList]

/-- What a patch gives for a score takes its place, and the other scores stay as they are. -/
theorem enterScores_dump (patch : Patch) (profile : Profile) :
    enterScores profile.scores patch.dump = .ok (patch.apply profile).scores := by
  unfold Patch.dump
  rw [enterScores_eq_ok (Scores.namesAbilities_given _), Scores.overwrite_given]
  simp only [Patch.apply, Scores.get_map]

/-! ## Patches that are assigned -/

section Patches

variable {transaction : Transaction}

/-- What is assigned to an actor one after the other waits as one change. -/
theorem during_assignPatch_of_name (hwaiting : transaction.waiting = []) {actor : Actor}
    {patch : Patch} {name : String}
    (hname : patch.name.elim (.ok actor.profile.name) cleanName = .ok name) :
    (assignPatch actor patch).during transaction =
      (.ok (), { transaction with
        waiting := [.updateActor actor { patch.apply actor.profile with name }] }) := by
  simp only [assignPatch, Work.during_bind, Work.during_lift, Work.during_assign, hname,
    enterScores_dump, hwaiting]
  simp [Edit.isUpdateOf, Patch.apply]

/-- The name is looked at before anything is assigned. -/
theorem during_assignPatch (hwaiting : transaction.waiting = []) (actor : Actor) (patch : Patch) :
    (assignPatch actor patch).during transaction =
      match cleanPatch patch with
      | .ok clean => (.ok (), { transaction with
          waiting := [.updateActor actor (clean.apply actor.profile)] })
      | .error failure => (.error failure, transaction) := by
  cases hname : patch.name with
  | none =>
      have hkept : patch.name.elim (.ok actor.profile.name) cleanName =
          .ok (patch.apply actor.profile).name := by
        simp [hname, Patch.apply]
      rw [during_assignPatch_of_name hwaiting hkept]
      simp only [cleanPatch, hname]
  | some given =>
      cases hclean : cleanName given with
      | error failure =>
          simp only [assignPatch, Work.during_bind, Work.during_lift, cleanPatch, hname, hclean,
            Option.elim_some, Except.map]
      | ok name =>
          have hgiven : patch.name.elim (.ok actor.profile.name) cleanName = .ok name := by
            rw [hname, Option.elim_some, hclean]
          rw [during_assignPatch_of_name hwaiting hgiven]
          simp only [cleanPatch, hname, hclean, Except.map, Patch.apply, Option.getD_some]

end Patches

/-! ## Calls -/

section Calls

variable {store : Store} {user : User} {payload : Payload} {text : String}

/-- What is done for a new actor before it is committed. -/
def prepareCreation (user : User) (payload : Payload) : Work Failure Unit := do
  let profile ← granted "body" (payload.read Profile.ofJson)
  let name ← cleanName profile.name
  let scores ← enterScores (.const .null) (profile.scores.map Cell.toJson).toList
  Work.wait (.addActor {
    ownerId := .int user.id
    name := .str name
    scores
    bonus := profile.bonus.toJson })

def answerCreation : Work Failure Response := do
  let actor ← Work.latest.mapError .ofStore
  return .json 201 (actorJson actor)

theorem createActor_eq (user : User) (payload : Payload) :
    createActor user payload = (do
      prepareCreation user payload
      Work.commit.mapError .ofStore
      answerCreation) := by
  simp only [createActor, prepareCreation, answerCreation, bind_assoc]

/-- What is done for a change before it is committed; the id is that of the actor. -/
def prepareChange (user : User) (text : String) (payload : Payload) : Work Failure Int := do
  let (id, patch) ← readChange text payload
  let actor ← Work.read fun store => ownActorAt store user id
  assignPatch actor patch
  return id

def answerChange (id : Int) : Work Failure Response := do
  let actor ← (Work.refresh id).mapError .ofStore
  return .json 200 (actorJson actor)

/-- What a client is shown of an actor does not tell when it was written. -/
theorem actorJson_revised (actor : Actor) (now : Time) (profile : Profile) :
    actorJson (actor.revised now profile) = actorJson { actor with profile } := by
  simp only [actorJson, Actor.revised_id, Actor.revised_ownerId, Actor.revised_profile]

theorem during_answerChange (transaction : Transaction) {id : Int} {actor : Actor}
    (hfound : transaction.written.actor? id = some actor) :
    (answerChange id).during transaction = (.ok (.json 200 (actorJson actor)), transaction) := by
  simp only [answerChange, Work.refresh, Work.during_bind, Work.during_mapError,
    Work.during_read, hfound, Option.elim_some, Except.mapError, Work.during_pure]

theorem changeActor_eq (user : User) (text : String) (payload : Payload) :
    changeActor user text payload = (do
      let id ← prepareChange user text payload
      Work.commit.mapError .ofStore
      answerChange id) := by
  simp only [changeActor, prepareChange, answerChange, bind_assoc, pure_bind]

def prepareDeletion (user : User) (text : String) : Work Failure Unit := do
  let id ← granted "path" (readActorId text)
  let actor ← Work.read fun store => ownActorAt store user id
  Work.wait (.dropActor actor.id)

theorem deleteActor_eq (user : User) (text : String) :
    deleteActor user text = (do
      prepareDeletion user text
      Work.commit.mapError .ofStore
      pure ⟨204, none, .empty⟩) := by
  simp only [deleteActor, prepareDeletion, bind_assoc]

theorem commitsNothing_prepareCreation (user : User) (payload : Payload) :
    (prepareCreation user payload).CommitsNothing := by
  refine (Work.commitsNothing_lift _).bind fun profile => ?_
  refine (Work.commitsNothing_lift _).bind fun name => ?_
  refine (Work.commitsNothing_lift _).bind fun scores => ?_
  exact Work.commitsNothing_wait _

theorem commitsNothing_assignPatch (actor : Actor) (patch : Patch) :
    (assignPatch actor patch).CommitsNothing := by
  refine (Work.commitsNothing_lift _).bind fun name => ?_
  refine (Work.commitsNothing_assign _ _).bind fun _ => ?_
  refine (Work.commitsNothing_lift _).bind fun scores => ?_
  refine (Work.commitsNothing_assign _ _).bind fun _ => ?_
  exact Work.commitsNothing_assign _ _

theorem commitsNothing_prepareChange (user : User) (text : String) (payload : Payload) :
    (prepareChange user text payload).CommitsNothing := by
  refine (Work.commitsNothing_lift _).bind fun change => ?_
  refine (Work.commitsNothing_read _).bind fun actor => ?_
  refine (commitsNothing_assignPatch _ _).bind fun _ => ?_
  exact Work.commitsNothing_pure _

theorem commitsNothing_prepareDeletion (user : User) (text : String) :
    (prepareDeletion user text).CommitsNothing := by
  refine (Work.commitsNothing_lift _).bind fun id => ?_
  refine (Work.commitsNothing_read _).bind fun actor => ?_
  exact Work.commitsNothing_wait _

theorem changesNothing_answerCreation : answerCreation.ChangesNothing :=
  (Work.changesNothing_latest.mapError _).bind fun _ => Work.changesNothing_pure _

theorem changesNothing_answerChange (id : Int) : (answerChange id).ChangesNothing :=
  ((Work.changesNothing_read _).mapError _).bind fun _ => Work.changesNothing_pure _

/-- A call commits once, as the last of its changes. -/
theorem commitsLast_createActor (user : User) (payload : Payload) :
    (createActor user payload).CommitsLast .ofStore :=
  ⟨Unit, _, _, commitsNothing_prepareCreation user payload,
    fun _ => changesNothing_answerCreation, createActor_eq user payload⟩

theorem commitsLast_changeActor (user : User) (text : String) (payload : Payload) :
    (changeActor user text payload).CommitsLast .ofStore :=
  ⟨Int, _, _, commitsNothing_prepareChange user text payload, changesNothing_answerChange,
    changeActor_eq user text payload⟩

theorem commitsLast_deleteActor (user : User) (text : String) :
    (deleteActor user text).CommitsLast .ofStore :=
  ⟨Unit, _, _, commitsNothing_prepareDeletion user text, fun _ => Work.changesNothing_pure _,
    deleteActor_eq user text⟩

theorem comesTo_createActor (store : Store) (user : User) (payload : Payload) :
    ComesTo (createActor user payload) store (createAtOnce store user payload) := by
  unfold ComesTo
  rw [createActor_eq, Work.on_committed (commitsNothing_prepareCreation user payload)
    fun _ => changesNothing_answerCreation]
  simp only [prepareCreation, createAtOnce, Work.during_bind, Work.during_lift, Work.during_wait,
    enterScores_toList]
  cases granted "body" (payload.read Profile.ofJson) with
  | error failure => rfl
  | ok profile =>
      simp only [Except.ok_bind]
      cases cleanName profile.name with
      | error failure => rfl
      | ok name =>
          simp only [Except.ok_bind, Transaction.flush, Transaction.on, List.nil_append,
            List.foldlM_cons, List.foldlM_nil, Transaction.write]
          cases store.addActor _ with
          | error cause => rfl
          | ok stored => rfl

theorem comesTo_changeActor (store : Store) (user : User) (text : String)
    (payload : Payload) :
    ComesTo (changeActor user text payload) store (changeAtOnce store user text payload) := by
  unfold ComesTo
  rw [changeActor_eq, Work.on_committed (commitsNothing_prepareChange user text payload)
    changesNothing_answerChange]
  simp only [prepareChange, changeAtOnce, Work.during_bind, Work.during_lift, Work.during_read]
  cases readChange text payload with
  | error failure => rfl
  | ok change =>
      obtain ⟨id, patch⟩ := change
      simp only [Except.ok_bind]
      cases hown : ownActorAt store user id with
      | error failure =>
          simp only [Transaction.on, hown, Except.error_bind]
      | ok actor =>
          have hwaiting : (Transaction.on store).waiting = [] := rfl
          have hassign := during_assignPatch hwaiting actor patch
          simp only [Transaction.on, hown, Except.ok_bind] at hassign ⊢
          rw [hassign]
          cases cleanPatch patch with
          | error failure => rfl
          | ok clean =>
              obtain ⟨hfound, -⟩ := ownActorAt_eq_ok hown
              simp only [Except.ok_bind, Work.during_pure, Transaction.flush, List.foldlM_cons,
                List.foldlM_nil, Transaction.write]
              cases hupdate : store.updateActor actor (clean.apply actor.profile) with
              | error cause => rfl
              | ok after =>
                  -- The row that is read again is the one that was found, with its new profile.
                  obtain ⟨-, rfl⟩ := updateActor_eq_ok_iff.mp hupdate
                  obtain rfl := id_of_actor? hfound
                  have hanswer := congrArg Prod.fst <|
                    during_answerChange (.on (store.setProfile actor.id _))
                      (actor?_setProfile hfound (clean.apply actor.profile))
                  rw [actorJson_revised] at hanswer
                  exact Prod.ext hanswer rfl

theorem comesTo_deleteActor (store : Store) (user : User) (text : String) :
    ComesTo (deleteActor user text) store (deleteAtOnce store user text) := by
  unfold ComesTo
  rw [deleteActor_eq, Work.on_committed (commitsNothing_prepareDeletion user text)
    fun _ => Work.changesNothing_pure _]
  simp only [prepareDeletion, deleteAtOnce, Work.during_bind, Work.during_lift, Work.during_read,
    Work.during_wait]
  cases granted "path" (readActorId text) with
  | error failure => rfl
  | ok id =>
      cases hown : ownActorAt store user id with
      | error failure => simp only [Transaction.on, hown, Except.ok_bind, Except.error_bind]
      | ok actor =>
          obtain ⟨hfound, -⟩ := ownActorAt_eq_ok hown
          simp only [Transaction.on, hown, Except.ok_bind, Transaction.flush, List.nil_append,
            List.foldlM_cons, List.foldlM_nil, Transaction.write, id_of_actor? hfound]
          rfl

/-! ## Answers -/

variable (service : Service) (session : Session)

theorem answerCall_createActor :
    answerCall service session user payload .createActor =
      .settled service session (createAtOnce service.store user payload) :=
  (comesTo_createActor service.store user payload).storing_eq session

theorem answerCall_changeActor :
    answerCall service session user payload (.changeActor text) =
      .settled service session (changeAtOnce service.store user text payload) :=
  (comesTo_changeActor service.store user text payload).storing_eq session

theorem answerCall_deleteActor :
    answerCall service session user payload (.deleteActor text) =
      .settled service session (deleteAtOnce service.store user text) :=
  (comesTo_deleteActor service.store user text).storing_eq session

end Calls

end Service
end Tabletop
