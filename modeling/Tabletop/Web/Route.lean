import Tabletop.Json.Reader
import Tabletop.Web.Host

/-!
# Routes

The path of a target names a place, and a method does something there.  A path
that names none, but would with a slash less or more at its end, is redirected.
-/

namespace Tabletop
namespace Web

open Text

/-!
## Targets

A client names what it asks for by a reference.  Only a reference with a scheme and a
host says where it leads; of any other the path and the query are taken, at the
origin of the service.  The steps of a path that lead up, or nowhere, are taken
before it is sent.
-/

/-- What a request asks for.  The path and the query are escaped. -/
structure Target where
  /-- The address under which the client knows the service. -/
  origin : String
  host : String
  /-- The host for which the client keeps sessions. -/
  site : String
  path : List Char
  query : List Char

namespace Target

/-- The most characters of a reference, and of each of its parts. -/
def maxLength : Nat := 65536

/-! ### Parts of a reference -/

structure Parts where
  scheme : List Char
  authority : List Char
  path : List Char
  query : Option (List Char)

def isSchemeChar (c : Char) : Bool := c.isAlphanum || c == '+' || c == '.' || c == '-'

/-- The scheme in front of a colon, which may be empty, and what follows. -/
def cutScheme (cs : List Char) : List Char × List Char :=
  match cs.span isSchemeChar with
  | (scheme, ':' :: rest) =>
    if (scheme.head?.map Char.isAlpha).getD true then (scheme, rest) else ([], cs)
  | _ => ([], cs)

def isPathEnd (c : Char) : Bool := c == '?' || c == '#'

def isAuthorityEnd (c : Char) : Bool := c == '/' || isPathEnd c

/-- The authority behind two slashes, and what follows. -/
def cutAuthority : List Char → List Char × List Char
  | '/' :: '/' :: cs => cs.span (!isAuthorityEnd ·)
  | cs => ([], cs)

/-- A path and the query behind a question mark. -/
def cutQuery (cs : List Char) : List Char × Option (List Char) :=
  match cs.span (!isPathEnd ·) with
  | (path, '?' :: rest) => (path, some (rest.takeWhile (· != '#')))
  | (path, _) => (path, none)

def Parts.ofChars (cs : List Char) : Parts :=
  let (scheme, cs) := cutScheme cs
  let (authority, cs) := cutAuthority cs
  let (path, query) := cutQuery cs
  ⟨scheme, authority, path, query⟩

/-! ### Authorities -/

structure Authority where
  user : List Char
  host : List Char
  /-- The number of the service at the host, if it is not the one that the scheme has anyway. -/
  number : Option Int

/-- What stands behind the last of some characters, and what stands in front of it. -/
def cutLast (mark : Char) (cs : List Char) : List Char × List Char :=
  let behind := (cs.reverse.takeWhile (· != mark)).reverse
  (behind, cs.take (cs.length - behind.length - 1))

/-- A host and what follows it.  A host in brackets may hold colons. -/
def cutHost (cs : List Char) : List Char × List Char :=
  if cs.head? == some '[' && cs.contains ']' then
    let behind := (cutLast ']' cs).1
    (cs.take (cs.length - behind.length), behind)
  else cs.span (· != ':')

/-- The number of a service, with space around it, a sign, and underscores between digits,
which may be of any scripts.  It has no more digits than can be read anywhere. -/
def serviceNumber? (cs : List Char) : Option Int :=
  let cs := trim isBlank (cs.map Digit.plain)
  let (negative, digits) : Bool × List Char :=
    match cs with
    | '-' :: digits => (true, digits)
    | '+' :: digits => (false, digits)
    | digits => (false, digits)
  let groups := digits.splitOn '_'
  if groups.all (fun group => !group.isEmpty && group.all Char.isDigit) &&
      (digits.filter (· != '_')).length ≤ Json.maxDigits then
    let n : Int := Decimal.value (digits.filter (· != '_'))
    some (if negative then -n else n)
  else none

/-- The number of the service that a scheme stands for. -/
def standardNumber? (scheme : List Char) : Option Int :=
  [("ftp", 21), ("http", 80), ("https", 443), ("ws", 80), ("wss", 443)].lookup
    (String.ofList scheme)

/-- Reads an authority: none if its host or its number is none. -/
def Authority.read? (scheme cs : List Char) : Option Authority := do
  let (host, user) := cutLast '@' cs
  let (host, rest) := cutHost host
  let text := if rest.head? == some ':' then rest.drop 1 else rest
  let host ← Host.read? host
  if text.isEmpty then return ⟨user, host, none⟩
  let number ← serviceNumber? text
  return ⟨user, host, if standardNumber? scheme = some number then none else some number⟩

def Authority.isEmpty (authority : Authority) : Bool :=
  authority.user.isEmpty && authority.host.isEmpty && authority.number.isNone

def Authority.place (authority : Authority) : List Char :=
  authority.host ++
    match authority.number with
    | some number => ':' :: Decimal.signed number
    | none => []

/-! ### Paths -/

/-- The steps of a path without those that lead nowhere, and without those that lead up
and the ones that they take back.  What has been taken is kept last one first. -/
def takeSteps (reversed : List (List Char)) : List (List Char) → List (List Char)
  | [] => reversed.reverse
  | step :: rest =>
    if step = ['.'] then takeSteps reversed rest
    else if step = ['.', '.'] then
      takeSteps (if reversed = [[]] then reversed else reversed.drop 1) rest
    else takeSteps (step :: reversed) rest

/-- A path without steps that lead up or nowhere. -/
def straighten (path : List Char) : List Char :=
  ['/'].intercalate (takeSteps [] (path.splitOn '/'))

def isGraphic (c : Char) : Bool := 0x20 < c.toNat && c.toNat < 0x7F

def isQueryChar (c : Char) : Bool := isGraphic c && !"\"#<>".toList.contains c

def isPathChar (c : Char) : Bool := isQueryChar c && !"?\x60\x7b\x7d".toList.contains c

/-! ### Resolution -/

/-- The site of an authority: what the client wrote, without the number of the service.
One without a point is a local one.  A negative number is no number of a service to
those that keep sessions. -/
def siteOf (authority : Authority) : String :=
  let user := if authority.user.isEmpty then [] else authority.user.map Char.toLower ++ ['@']
  let number := ((authority.number.filter (· < 0)).map fun n => ':' :: Decimal.signed n).getD []
  let written := user ++ authority.host ++ number
  String.ofList written ++ if written.contains '.' then "" else ".local"

/-- Whether a session that is kept at one site is shown at another: there, and at those below
it. -/
def isWithin (site above : String) : Bool :=
  ('.' :: above.toList).isSuffixOf ('.' :: site.toList)

/-- The path of a target: there is always one step. -/
def pathOr (path : List Char) : List Char := if path.isEmpty then ['/'] else path

/-- The target of a path and a query below a host.  The path begins with one slash. -/
def below? (scheme host : String) (path : List Char) (query : Option (List Char)) :
    Option Target :=
  let written := pathOr path ++ (query.map ('?' :: ·)).getD []
  let (path, query) := ('/' :: written.dropWhile (· == '/')).span (· != '?')
  if maxLength < path.length ∨ maxLength < query.length - 1 then none
  else
    some {
      origin := scheme ++ "://" ++ host
      host
      site := siteOf ⟨[], host.toList, none⟩
      path := pathOr (straighten path)
      query := query.drop 1 }

/-- The target that a reference has for a client of a given host. -/
def resolve? (host reference : String) : Option Target := do
  let cs := reference.toList
  if maxLength < cs.length || cs.any (fun c => c.toNat < 0x20 || c.toNat == 0x7F) then none
  let parts := Parts.ofChars cs
  let authority ← Authority.read? parts.scheme parts.authority
  let isRooted := parts.path.isEmpty || parts.path.head? == some '/'
  let isPlain := parts.scheme.isEmpty && authority.isEmpty
  if !authority.isEmpty && !isRooted then none
  if isPlain && (['/', '/'].isPrefixOf parts.path || parts.path.head? == some ':') then none
  let path := Percent.complete isPathChar
    (if isPlain then parts.path else straighten parts.path)
  let query := parts.query.map (Percent.complete isQueryChar)
  if parts.scheme.isEmpty || authority.host.isEmpty then below? "http" host path query
  else
    return {
      origin := String.ofList (parts.scheme.map Char.toLower ++ "://".toList ++ authority.place)
      host := String.ofList authority.host
      site := siteOf authority
      path := pathOr path
      query := query.getD [] }

end Target

/-! ## Places and methods -/

/-- What a signed-in client can ask for.  Ids are as they are written. -/
inductive Call where
  | listActors
  | createActor
  | showActor (id : String)
  | changeActor (id : String)
  | deleteActor (id : String)
  | roll
deriving DecidableEq

inductive Endpoint where
  | index
  | loginPage
  | login
  | logout
  | call (call : Call)
deriving DecidableEq

/-- The pages that describe the service to those who write its clients.  They are made from the
list of its routes alone. -/
inductive Manual where
  | schema
  | docs
  | docsRedirect
  | redoc
deriving DecidableEq

inductive Place where
  | manual (page : Manual)
  | index
  | login
  | logout
  | actors
  | actor (id : String)
  | roll
deriving DecidableEq

/-- Whether a path is a given one; a line break may follow it. -/
def isPath (path : List Char) (fixed : String) : Bool :=
  path == fixed.toList || path == fixed.toList ++ ['\n']

/-- The last step of a path below the actors. -/
def actorStep? (path : List Char) : Option String :=
  let above := "/api/actors/".toList
  let step := path.drop above.length
  if above.isPrefixOf path && !step.isEmpty && !step.contains '/' then some (String.ofList step)
  else none

namespace Place

def ofPath? (path : List Char) : Option Place :=
  if isPath path "/openapi.json" then some (.manual .schema)
  else if isPath path "/docs" then some (.manual .docs)
  else if isPath path "/docs/oauth2-redirect" then some (.manual .docsRedirect)
  else if isPath path "/redoc" then some (.manual .redoc)
  else if isPath path "/" then some .index
  else if isPath path "/dev/login" then some .login
  else if isPath path "/dev/logout" then some .logout
  else if isPath path "/api/actors" then some .actors
  else if isPath path "/api/dice/roll" then some .roll
  else (actorStep? path).map .actor

def endpoint? (place : Place) (method : String) : Option Endpoint :=
  match place, method with
  | .index, "GET" => some .index
  | .login, "GET" => some .loginPage
  | .login, "POST" => some .login
  | .logout, "POST" => some .logout
  | .actors, "GET" => some (.call .listActors)
  | .actors, "POST" => some (.call .createActor)
  | .actor id, "GET" => some (.call (.showActor id))
  | .actor id, "PATCH" => some (.call (.changeActor id))
  | .actor id, "DELETE" => some (.call (.deleteActor id))
  | .roll, "POST" => some (.call .roll)
  | _, _ => none

/-- A manual may also be asked for its head alone, as no endpoint may. -/
def manual? (place : Place) (method : String) : Option Manual :=
  match place, method with
  | .manual page, "GET" => some page
  | .manual page, "HEAD" => some page
  | _, _ => none

end Place

inductive Route where
  | endpoint (endpoint : Endpoint)
  | manual (page : Manual)
  | wrongMethod
  | redirect (location : String)
  | unknown
deriving DecidableEq

/-- The path of a target, with its escapes read as UTF-8. -/
def Target.readablePath (target : Target) : List Char :=
  Utf8.decodeLossy (Percent.decode (Utf8.encode (String.ofList target.path)))

/-- A path with the slash at its end that it lacks, or without those that it has. -/
def toggleSlash (path : List Char) : List Char :=
  if path.getLast? == some '/' then (path.reverse.dropWhile (· == '/')).reverse
  else path ++ ['/']

/-- The characters that a location may hold without escapes. -/
def isLocationChar (c : Char) : Bool :=
  Percent.isUnreserved c || ":/%#?=@[]!$&'()*+,;".toList.contains c

/-- A text with escapes for all but the characters of a class. -/
def escapeBut (keep : Char → Bool) (cs : List Char) : List Char :=
  Percent.encode keep (Utf8.encode (String.ofList cs))

/-- Where another path is found for a target.  A mark in the path that would end it is
escaped. -/
def Target.locate (target : Target) (path : List Char) : String :=
  let query := if target.query.isEmpty then [] else '?' :: target.query
  String.ofList <|
    escapeBut isLocationChar target.origin.toList ++
      escapeBut (fun c => isLocationChar c && !Target.isPathEnd c) path ++
      escapeBut isLocationChar query

/-- Finds out what a method and a target ask for. -/
def Route.of (method : String) (target : Target) : Route :=
  let path := target.readablePath
  match Place.ofPath? path with
  | some place =>
    match place.endpoint? method with
    | some asked => .endpoint asked
    | none => (place.manual? method).elim .wrongMethod .manual
  | none =>
    if path != ['/'] && (Place.ofPath? (toggleSlash path)).isSome then
      .redirect (target.locate (toggleSlash path))
    else .unknown

end Web
end Tabletop
