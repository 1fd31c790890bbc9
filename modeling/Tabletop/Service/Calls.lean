import Tabletop.Service.Startup
import Tabletop.Web.Page
import Tabletop.Web.Payload
import Tabletop.Web.Request

/-!
# Calls of the service

Who calls is known by a session.  A call reads or writes actors, or it rolls dice.
-/

namespace Tabletop
namespace Service

open Text Validation Web

/-!
## Sessions

A session remembers the id of a user.  It names nobody if that user is gone or
the id is zero.  Outside of production a client signs in by choosing a user.
-/

/-- The id that a client is signed in under, if it has a session. -/
abbrev Session := Option Int

namespace Session

/-- The id of a session that is not zero. -/
def id? (session : Session) : Option Int := session.filter (· != 0)

def user? (session : Session) (store : Store) : Option User := session.id?.bind store.user?

/-- The session after its user was looked for: it ends if the user is gone. -/
def afterLookup (session : Session) (store : Store) : Session :=
  if session.id?.isSome && (session.user? store).isNone then none else session

end Session

def readUserId (form : Form) : Checked Int :=
  Checked.inside "user_id" <|
    match form.value? "user_id" with
    | none => .fault .missing .null
    | some (.text text) =>
      if text = .text "" then .fault .missing .null else Whole.ofJson (.ofLoose text)
    | some (.file name isEmpty) =>
      if name = .text "" ∧ isEmpty then .fault .missing .null
      else .fault .wholeType (.ofLoose name)

/-- What keeps all rules, or the failure that lists the issues. -/
def granted {α : Type} (place : String) (checked : Checked α) : Except Failure α :=
  (checked.inside place).mapError Failure.ofIssues

/-- In production there are no pages to sign in or out. -/
def guardLogin (settings : Settings) : Except Failure Unit :=
  if settings.isProduction then .error (.refused .unknownPage) else .ok ()

def indexPage (session : Session) : Response := .page (Page.index session.id?.isSome)

def loginPage (settings : Settings) (store : Store) : Except Failure Response := do
  guardLogin settings
  return .page (Page.login store.users)

/-- Signs a client in: the response and the id of the new session. -/
def login (settings : Settings) (store : Store) (request : Request) :
    Except Failure (Response × Int) := do
  let form ← request.form.mapError Failure.refused
  let id ← granted "body" (readUserId form)
  guardLogin settings
  match ← (store.findUser (.int id)).mapError Failure.ofStore with
  | none => .error (.refused .unknownUser)
  | some _ => return (.seeOther "/", id)

def logout (settings : Settings) : Except Failure Response := do
  guardLogin settings
  return .seeOther "/dev/login"

/-!
## Calls about actors

Everybody who is signed in may see every actor, but only its owner may change or
delete it.  A call that changes something does all of it in one transaction, and what
it has not committed when it fails is lost.
-/

open Store

/-- What a client is shown of a cell: nothing of a number that is not finite. -/
def cellJson (cell : Cell) : Json := if cell.toJson.isFinite then cell.toJson else .null

def actorJson (actor : Actor) : Json :=
  .record [("id", .int actor.id), ("ownerId", cellJson actor.ownerId),
    ("name", .str actor.profile.name),
    ("abilities",
      .record (actor.profile.scores.toList.map fun (code, score) => (code, cellJson score))),
    ("profBonus", cellJson actor.profile.bonus)]

def readActorId (text : String) : Checked Int := (Whole.ofText text).inside "actor_id"

/-- A name without its blank ends; it must not be all blank. -/
def cleanName (name : String) : Except Failure String :=
  let name := stripBlank name
  if name.isEmpty then .error (.refused .blankName) else .ok name

def actorAt (store : Store) (id : Int) : Except Failure Actor := do
  match ← (store.findActor (.int id)).mapError Failure.ofStore with
  | some actor => return actor
  | none => .error (.refused .unknownActor)

/-- The actor of an id, for its owner only. -/
def ownActorAt (store : Store) (user : User) (id : Int) : Except Failure Actor := do
  let actor ← actorAt store id
  if actor.isOwnedBy user.id then return actor
  else .error (.refused .notOwner)

def listActors (store : Store) (user : User) : Response :=
  .json 200 (.list ((store.actorsOf user.id).map actorJson))

def showActor (store : Store) (id : String) : Except Failure Response := do
  let id ← granted "path" (readActorId id)
  let actor ← actorAt store id
  return .json 200 (actorJson actor)

/-! ### Changes -/

/-- Enters scores under their codes. -/
def enterScores {α : Type} (scores : Scores α) (entries : List (String × α)) :
    Except Failure (Scores α) :=
  match scores.assign (entries.map fun (code, score) => (.text code, score)) with
  | (entered, none) => .ok entered
  | (_, some label) => .error (.crashed (.unknownAbility label))

def createActor (user : User) (payload : Payload) : Work Failure Response := do
  let profile ← granted "body" (payload.read Profile.ofJson)
  let name ← cleanName profile.name
  let scores ← enterScores (.const .null) (profile.scores.map Cell.toJson).toList
  Work.wait (.addActor {
    ownerId := .int user.id
    name := .str name
    scores
    bonus := profile.bonus.toJson })
  Work.commit.mapError .ofStore
  let actor ← Work.latest.mapError .ofStore
  return .json 201 (actorJson actor)

/-- The id in the path and the patch in the body, or what is wrong with either. -/
def readChange (id : String) (payload : Payload) : Except Failure (Int × Patch) :=
  (((readActorId id).inside "path").both ((payload.read Patch.ofJson).inside "body")).mapError
    Failure.ofIssues

/-- Assigns to an actor what a patch gives, the name first. -/
def assignPatch (actor : Actor) (patch : Patch) : Work Failure Unit := do
  let old := actor.profile
  let name ← (patch.name.elim (.ok old.name) cleanName : Except Failure String)
  Work.assign actor { old with name }
  let scores ← enterScores old.scores patch.dump
  Work.assign actor { old with name, scores }
  Work.assign actor ⟨name, scores, (patch.bonus.map .int).getD old.bonus⟩

def changeActor (user : User) (id : String) (payload : Payload) : Work Failure Response := do
  let (id, patch) ← readChange id payload
  let actor ← Work.read fun store => ownActorAt store user id
  assignPatch actor patch
  Work.commit.mapError .ofStore
  let actor ← (Work.refresh id).mapError .ofStore
  return .json 200 (actorJson actor)

def deleteActor (user : User) (id : String) : Work Failure Response := do
  let id ← granted "path" (readActorId id)
  let actor ← Work.read fun store => ownActorAt store user id
  Work.wait (.dropActor actor.id)
  Work.commit.mapError .ofStore
  return ⟨204, none, .empty⟩

/-!
## Calls for rolls

An expression that cannot be read is refused before anything is looked up.  Then
the sheet is found: the one in the request, or that of a stored actor, or none.
-/

open Dice

/-- Refuses an expression that the engine cannot read. -/
def checkExpression (limits : Limits) (expr : Json) : Except Failure Unit :=
  match parseJson limits expr with
  | .ok _ => .ok ()
  | .error cause => .error (.ofDice (.invalid cause))

def sheetOf (store : Store) (order : RollOrder) : Except Failure (Option Sheet) :=
  match order.sheet, order.actorId with
  | some sheet, _ => .ok (some sheet)
  | none, none => .ok none
  | none, some id => do
    match ← (store.findActor (.int id)).mapError Failure.ofStore with
    | some actor => return some actor.profile.sheet
    | none => .error (.ofDomain (.actorNotFound (.int id)))

def usableSeed : Option OrderedSeed → Except Failure (Option Random.Seed)
  | none => .ok none
  | some (.seed seed) => .ok (some seed)
  | some .broken => .error (.crashed (.unwritable .string))

/-- The order in a payload, once it is clear that it can be rolled. -/
def prepareRoll (store : Store) (limits : Limits) (payload : Payload) : Except Failure Throw := do
  let order ← granted "body" (payload.read RollOrder.ofJson)
  checkExpression limits order.expr
  let sheet ← sheetOf store order
  let seed ← usableSeed order.seed
  return { expr := order.expr, sheet, seed }

/-- Rolls: the response and the engine after it. -/
def roll (store : Store) (engine : Engine) (payload : Payload) :
    Except Failure Response × Engine :=
  match prepareRoll store engine.limits payload with
  | .error failure => (.error failure, engine)
  | .ok throw =>
    let outcome := engine.roll throw
    match outcome.result with
    | .ok result => (.ok (.json 200 result.toJson), outcome.engine)
    | .error fault => (.error (.ofDice fault), outcome.engine)

end Service
end Tabletop
