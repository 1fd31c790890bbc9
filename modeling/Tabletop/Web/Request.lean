import Tabletop.Web.Response

/-!
# Requests

A request names a method and a target and may carry a body.  The body is read
by its media type: as a form, as JSON, or not at all.
-/

namespace Tabletop
namespace Web

open Text Validation

structure Request where
  method : String
  target : Target
  mediaType : String := ""
  body : List UInt8 := []
  /-- A request with cookies that were written by hand does not show its session. -/
  foreignCookies : Bool := false

/-- The body of a request that should be JSON. -/
inductive Payload where
  | empty
  | json (value : Json)
  | bytes (bytes : List UInt8)

/-- What stands in front of the parameters of a media type, without blank ends. -/
def essence (mediaType : String) : List Char :=
  trim isBlank (mediaType.toList.takeWhile (· != ';'))

def isJsonType (mediaType : String) : Bool :=
  let name := (essence mediaType).map Char.toLower
  match name.span (· != '/') with
  | (kind, _ :: format) =>
    kind == "application".toList && !format.contains '/' &&
      (format == "json".toList || "+json".toList.isSuffixOf format)
  | _ => false

namespace Request

/-- Reads the body as JSON.  Text that is no JSON is an issue of the body, but
bytes that are no text, numbers too long to be read and a nesting too deep to be
read make it unreadable. -/
def payload (request : Request) : Except Refusal Payload :=
  if request.body.isEmpty then .ok .empty
  else if !isJsonType request.mediaType then .ok (.bytes request.body)
  else
    match Encoding.decode? request.body with
    | none => .error .unreadable
    | some codes =>
      match Json.readCodes codes with
      | .ok value => .ok (.json value)
      | .error .malformed => .error (.invalid [⟨["body"], .readable, .value (.record [])⟩])
      | .error _ => .error .unreadable

/-- Reads the body as a form; a body of another type has no fields. -/
def form (request : Request) : Except Refusal Form :=
  let mediaType := HeaderValue.ofChars request.mediaType.toList
  if mediaType.word = "application/x-www-form-urlencoded" then
    (Form.decode request.body).mapError .badForm
  else if mediaType.word = "multipart/form-data" then
    (Multipart.decode mediaType request.body).mapError .badForm
  else .ok []

end Request

def Payload.read {α : Type} (read : Json → Checked α) : Payload → Checked α
  | empty => .fault .missing .null
  | json value => read value
  | bytes raw => .error [⟨[], .record, .bytes raw⟩]

/-!
## Clients

A client turns what it is asked to send into a request, unless the reference has no
target, a header holds other characters than those of ASCII, or the host has a name
that none can have.  Of the response it reads where it leads and, if it is JSON, all
numbers in it.
-/

/-- What a client is asked to send. -/
structure Draft where
  /-- In capitals or not. -/
  method : String
  reference : String
  mediaType : String := ""
  body : List UInt8 := []
  cookies : Option String := none

/-- Why a client sends nothing. -/
inductive Unsent where
  | target
  | header
  | host (fault : LabelFault)
deriving DecidableEq

def isAscii (text : String) : Bool := text.toList.all (·.toNat < 0x80)

/-- The request to a service at a given host.  The host of the target is a header too. -/
def Draft.request (host : String) (draft : Draft) : Except Unsent Request := do
  let some target := Target.resolve? host draft.reference | .error .target
  if !([target.host, draft.mediaType, draft.cookies.getD ""].all isAscii) then .error .header
  (Host.checkName target.host.toList).mapError .host
  return {
    method := upper draft.method
    target
    mediaType := draft.mediaType
    body := draft.body
    foreignCookies := draft.cookies.isSome }

/-- Why a client cannot read a response. -/
inductive Unread where
  | location
  | number (digits : Nat)
deriving DecidableEq

/-- The digits of a number that is too long to be read. -/
def overlong? : Json → Option Nat
  | .int n =>
    let digits := (Decimal.digits n.natAbs).length
    if Json.maxDigits < digits then some digits else none
  | _ => none

/-- What prevents a response from being read. -/
def Response.unread? (response : Response) : Option Unread :=
  if Target.maxLength < (response.location.getD "").length then some .location
  else
    match response.content with
    | .json value => (value.search? overlong?).map .number
    | _ => none

end Web
end Tabletop
