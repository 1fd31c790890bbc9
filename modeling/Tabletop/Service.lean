import Tabletop.Service.Calls
import Tabletop.Service.Startup
import Tabletop.Web.Route

/-!
# The service

The service holds the store, the sessions of its clients and the source that its
dice are rolled with.  A request is read, then its session is looked at, then it
is carried out; what it leaves behind is one turn.
-/

namespace Tabletop

open Dice Tabletop.Random Web

/-- A client at a site: it keeps a session for each. -/
structure Visitor where
  client : String
  site : String
deriving DecidableEq

structure Service where
  settings : Settings
  store : Store
  /-- The ids under which visitors are signed in. -/
  sessions : OrderedMap Visitor Int
  source : Source

namespace Service

def engine (service : Service) : Engine := ⟨service.source, service.settings.limits⟩

/-- What a request leads to: a response or a crash, and what is left after it. -/
structure Turn where
  reply : Except Crash Response
  store : Store
  session : Session
  source : Source

namespace Turn

/-- Nothing changes but what the client sees. -/
def still (service : Service) (session : Session) (result : Except Failure Response) : Turn where
  reply :=
    match result with
    | .ok response => .ok response
    | .error failure => failure.reply
  store := service.store
  session := session
  source := service.source

/-- The store is what was committed, however the work ended. -/
def storing (service : Service) (session : Session) (work : Store.Work Failure Response) : Turn :=
  let (result, store) := work.on service.store
  { still service session result with store }

end Turn

def takesPayload : Call → Bool
  | .createActor => true
  | .changeActor _ => true
  | .roll => true
  | _ => false

def answerCall (service : Service) (session : Session) (user : User) (payload : Payload)
    (call : Call) : Turn :=
  let store := service.store
  match call with
  | .listActors => .still service session (.ok (listActors store user))
  | .createActor => .storing service session (createActor user payload)
  | .showActor id => .still service session (showActor store id)
  | .changeActor id => .storing service session (changeActor user id payload)
  | .deleteActor id => .storing service session (deleteActor user id)
  | .roll =>
    let (result, engine) := roll store service.engine payload
    { Turn.still service session result with source := engine.source }

/-- Looks for the user of the session and carries out the call. -/
def authorize (service : Service) (session : Session) (payload : Payload) (call : Call) : Turn :=
  let after := session.afterLookup service.store
  match session.user? service.store with
  | some user => answerCall service after user payload call
  | none => .still service after (.error (.refused .notAuthenticated))

def visit (service : Service) (session : Session) (request : Request) (endpoint : Endpoint) :
    Turn :=
  let same := Turn.still service session
  match endpoint with
  | .index => same (.ok (indexPage session))
  | .loginPage => same (loginPage service.settings service.store)
  | .login =>
    match login service.settings service.store request with
    | .ok (response, id) => { same (.ok response) with session := some id }
    | .error failure => same (.error failure)
  | .logout =>
    match logout service.settings with
    | .ok response => { same (.ok response) with session := none }
    | .error failure => same (.error failure)
  | .call call =>
    match if takesPayload call then request.payload else .ok .empty with
    | .ok payload => authorize service session payload call
    | .error refusal => same (.error (.refused refusal))

def answer (service : Service) (session : Session) (request : Request) : Turn :=
  match Route.of request.method request.target with
  | .endpoint endpoint => visit service session request endpoint
  | .manual page => .still service session (.ok (.manual page))
  | .wrongMethod => .still service session (.error (.refused .wrongMethod))
  | .redirect location => .still service session (.ok (.temporary location))
  | .unknown => .still service session (.error (.refused .unknownPage))

/-- The session that a visitor shows.  A client shows the session of a site also below it,
and of several the one of the site that it came to last.  Sessions do not expire here: a client
is taken to come back within the two weeks for which it is to keep one. -/
def session (service : Service) (visitor : Visitor) : Session :=
  let reached := service.sessions.filter fun (other, _) =>
    other.client = visitor.client ∧ Target.isWithin visitor.site other.site
  reached.getLast?.map (·.2)

/-- The session that a request shows. -/
def shown (service : Service) (visitor : Visitor) (request : Request) : Session :=
  if request.foreignCookies then none else service.session visitor

/-- The sessions after a visitor showed one and another was left behind.  The one that is
left behind is that of the site itself. -/
def keep (sessions : OrderedMap Visitor Int) (visitor : Visitor) (before after : Session) :
    OrderedMap Visitor Int :=
  if before = after then sessions
  else
    match after with
    | some id => sessions.insert visitor id
    | none => sessions.erase visitor

/-- A client makes a request.  A crash leaves all sessions as they were. -/
def handle (service : Service) (client : String) (request : Request) :
    Except Crash Response × Service :=
  let visitor : Visitor := ⟨client, request.target.site⟩
  let before := service.shown visitor request
  let turn := service.answer before request
  let sessions :=
    match turn.reply with
    | .ok _ => keep service.sessions visitor before turn.session
    | .error _ => service.sessions
  (turn.reply.map (·.seenBy request.method),
    { service with store := turn.store, sessions, source := turn.source })

/-! ## Runs -/

/-- What can happen to the service: a request, or a change of the store from inside.  Between
the others, its clock may come to show another time. -/
inductive Event where
  | request (client : String) (request : Request)
  | addUser (name id : Json)
  | removeUser (id : Json)
  | addActor (new : NewActor)
  | pass (now : Time)

/-- The service after an event.  A change that the store refuses does not take place. -/
def step (service : Service) : Event → Service
  | .request client request => (service.handle client request).2
  | .addUser name id =>
    match service.store.addUser name id with
    | .ok (_, store) => { service with store }
    | .error _ => service
  | .removeUser id =>
    match service.store.removeUser id with
    | .ok store => { service with store }
    | .error _ => service
  | .addActor new =>
    match service.store.addActor new with
    | .ok (_, store) => { service with store }
    | .error _ => service
  | .pass now => { service with store := { service.store with now } }

def run (service : Service) (events : List Event) : Service := events.foldl step service

end Service
end Tabletop
