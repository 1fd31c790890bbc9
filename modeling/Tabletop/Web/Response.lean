import Tabletop.Dice.Engine
import Tabletop.Store
import Tabletop.Validation
import Tabletop.Web.Form
import Tabletop.Web.Route

/-!
# Responses

A request that cannot be granted is refused for a reason, and the reason decides
the response.  A failure that no reason covers is a crash: it has no response.

A response repeats what was wrong with the request.  If that cannot be written,
for a number that is not finite, a string that is no text or lists that lie too deep
in each other, there is none.
-/

namespace Tabletop

/-!
## Errors with an answer of their own

Some errors are part of the rules of the service: they carry a message, a code
and perhaps details, and a client sees all three under a status of their own.
-/

inductive ErrorKind where
  | general
  | invalidRoll
  | notFound
deriving DecidableEq

structure DomainError where
  kind : ErrorKind
  message : Text.Loose
  details : Option Json

namespace ErrorKind

def code : ErrorKind → String
  | general => "DOMAIN_ERROR"
  | invalidRoll => "INVALID_ROLL"
  | notFound => "NOT_FOUND"

def status : ErrorKind → Nat
  | general => 400
  | invalidRoll => 400
  | notFound => 404

end ErrorKind

namespace DomainError

/-- What the client sees; details that are not given are left out. -/
def toJson (error : DomainError) : Json :=
  let details :=
    match error.details with
    | some details => [("details", details)]
    | none => []
  .record ([("error", .ofLoose error.message), ("code", .str error.kind.code)] ++ details)

def ofInvalidRoll (cause : Dice.InvalidRoll) : DomainError where
  kind := .invalidRoll
  message := cause.message
  details := cause.details

/-- How an id is shown in a message. -/
def idText : Json → String
  | .null => "None"
  | .bool b => if b then "True" else "False"
  | .int n => Text.Decimal.text n
  | .float x => x.text
  | .str text => text
  | _ => ""

/-- No actor has the id that was asked for. -/
def actorNotFound (id : Json) : DomainError where
  kind := .notFound
  message := .text ("Actor " ++ idText id ++ " not found")
  details := some (.record [("actorId", id)])

end DomainError

namespace Web

/-! ## What is answered -/

open Text Validation

inductive Content where
  | empty
  | json (value : Json)
  | issues (issues : List Issue)
  | page (text : String)
  /-- What the framework writes about the routes. -/
  | manual (page : Manual)

structure Response where
  status : Nat
  location : Option String := none
  content : Content := .empty

namespace Response

def json (status : Nat) (value : Json) : Response where
  status := status
  content := .json value

def detail (status : Nat) (text : String) : Response :=
  json status (.record [("detail", .str text)])

def page (text : String) : Response where
  status := 200
  content := .page text

def manual (page : Manual) : Response where
  status := 200
  content := .manual page

/-- Sends the client elsewhere; what it finds there it is to get. -/
def seeOther (location : String) : Response where
  status := 303
  location := some location

/-- Sends the client elsewhere with the same request. -/
def temporary (location : String) : Response where
  status := 307
  location := some location

/-- The response as it reaches a client: nothing follows on a request for the head alone. -/
def seenBy (method : String) (response : Response) : Response :=
  if method = "HEAD" then { response with content := .empty } else response

end Response

inductive Refusal where
  | unreadable
  | notAuthenticated
  | notOwner
  | unknownPage
  | wrongMethod
  | unknownUser
  | unknownActor
  | blankName
  | badForm (fault : FormFault)
  | invalid (issues : List Issue)
  | domain (error : DomainError)

def Refusal.response : Refusal → Response
  | unreadable => .detail 400 "There was an error parsing the body"
  | notAuthenticated => .detail 401 "Not authenticated"
  | notOwner => .detail 403 "You do not own this actor"
  | unknownPage => .detail 404 "Not Found"
  | wrongMethod => .detail 405 "Method Not Allowed"
  | unknownUser => .detail 404 "User not found"
  | unknownActor => .detail 404 "Actor not found"
  | blankName => .detail 422 "Actor name cannot be blank"
  | badForm fault => .detail 400 fault.message
  | invalid issues => ⟨422, none, .issues issues⟩
  | domain error => .json error.kind.status error.toJson

/-- Why a value cannot be repeated in a response. -/
inductive Unwritable where
  | bytes
  | number
  | depth
  | string
deriving DecidableEq

inductive Crash where
  | store (error : StoreError)
  | unknownAbility (label : Label)
  | dice (fault : Dice.Fault)
  | unwritable (cause : Unwritable)

/-- Why a request does not succeed. -/
inductive Failure where
  | refused (reason : Refusal)
  | crashed (crash : Crash)

/-- The most lists and records, one inside the other, that a response can repeat. -/
def maxRepeated : Nat := 955

mutual

/-- What first prevents a value from being written, if at most `room` lists and
records may still be opened. -/
def obstacle? (room : Nat) : Json → Option Unwritable
  | .float x => if x.isFinite then none else some .number
  | .list items =>
    match room with
    | 0 => some .depth
    | room + 1 => itemObstacle? room items
  | .object fields =>
    match room with
    | 0 => some .depth
    | room + 1 => fieldObstacle? room fields
  | _ => none

def itemObstacle? (room : Nat) : List Json → Option Unwritable
  | [] => none
  | item :: rest => (obstacle? room item).or (itemObstacle? room rest)

def fieldObstacle? (room : Nat) : List (Loose × Json) → Option Unwritable
  | [] => none
  | (_, value) :: rest => (obstacle? room value).or (fieldObstacle? room rest)

end

mutual

/-- Whether all strings in a value are texts. -/
def isText : Json → Bool
  | .broken _ => false
  | .list items => itemsAreText items
  | .object fields => fieldsAreText fields
  | _ => true

def itemsAreText : List Json → Bool
  | [] => true
  | item :: rest => isText item && itemsAreText rest

def fieldsAreText : List (Loose × Json) → Bool
  | [] => true
  | (.text _, value) :: rest => isText value && fieldsAreText rest
  | (.broken _, _) :: _ => false

end

mutual

/-- A value without the fields that are never repeated: those with names of the
kind that the store keeps for its own records. -/
def withoutPrivate : Json → Json
  | .list items => .list (itemsWithoutPrivate items)
  | .object fields => .object (fieldsWithoutPrivate fields)
  | scalar => scalar

def itemsWithoutPrivate : List Json → List Json
  | [] => []
  | item :: rest => withoutPrivate item :: itemsWithoutPrivate rest

def fieldsWithoutPrivate : List (Loose × Json) → List (Loose × Json)
  | [] => []
  | (name, value) :: rest =>
    if name.beginsWith "_sa" then fieldsWithoutPrivate rest
    else (name, withoutPrivate value) :: fieldsWithoutPrivate rest

end

/-- The values that a response repeats, unless there are bytes among them that are
no text. -/
def repeated? (given : List Given) : Option (List Json) :=
  given.mapM fun
    | .value value => some (withoutPrivate value)
    | .bytes bytes => (Utf8.decode? bytes).map fun cs => .str (String.ofList cs)

/-- What prevents a response that repeats some values: bytes are looked at first,
then all numbers and lists in order, then all strings. -/
def unwritable? (given : List Given) : Option Unwritable :=
  match repeated? given with
  | none => some .bytes
  | some values =>
    match values.findSome? (obstacle? maxRepeated) with
    | some cause => some cause
    | none => if values.all isText then none else some .string

namespace Failure

/-- Issues are listed for the client, each with what was handed in. -/
def ofIssues (issues : List Issue) : Failure :=
  match unwritable? (issues.map (·.given)) with
  | some cause => .crashed (.unwritable cause)
  | none => .refused (.invalid issues)

/-- The client is not told what the store refuses. -/
def ofStore (error : StoreError) : Failure := .crashed (.store error)

/-- The client is told of an error that the service has rules for, if it can be written. -/
def ofDomain (error : DomainError) : Failure :=
  if isText error.toJson then .refused (.domain error) else .crashed (.unwritable .string)

/-- An invalid roll is the fault of the client. -/
def ofDice : Dice.Fault → Failure
  | .invalid cause => ofDomain (.ofInvalidRoll cause)
  | fault => .crashed (.dice fault)

def reply : Failure → Except Crash Response
  | refused reason => .ok reason.response
  | crashed crash => .error crash

end Failure

end Web
end Tabletop
