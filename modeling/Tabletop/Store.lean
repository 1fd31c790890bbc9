import Tabletop.Sheet

/-!
# The store of users and actors

Users and actors are rows under whole numbers of 64 bits, and each table is kept
in the order of these ids.  A new row takes the id after the largest.  An actor
belongs to a user and goes when the user goes.  Whatever is written, every score
in the store lies between 1 and 30, and the row of an actor takes note of the time.
Values are handed in as they come, and each is brought to the form of its column.
-/

namespace Tabletop

open Text

/-!
## Cells

A column of the store is for whole numbers or for texts, and what is put into it is
brought to that form as far as nothing is lost.  A text that writes no number, and a
number with a fraction, stay what they are also among whole numbers.
-/

inductive Cell where
  | int (value : Int)
  | real (value : Binary64)
  | text (value : String)
deriving DecidableEq

namespace Cell

def int? : Cell → Option Int
  | int n => some n
  | _ => none

/-- Whether a cell is equal to a whole number. -/
def isWhole : Cell → Int → Bool
  | int m, n => m == n
  | real x, n => x.whole? == some n
  | text _, _ => false

def toJson : Cell → Json
  | int n => .int n
  | real x => .float x
  | text s => .str s

/-- The largest whole number of 64 bits. -/
def maxInt : Int := 9223372036854775807

/-- Whether a whole number has 64 bits. -/
def holds (n : Int) : Bool := -maxInt - 1 ≤ n && n ≤ maxInt

/-! ### Columns of whole numbers -/

/-- A number as it is kept: whole if it is, and not as large as 64 bits allow. -/
def ofReal (x : Binary64) : Cell :=
  match x.whole? with
  | some n => if n.natAbs ≤ maxInt.toNat then int n else real x
  | none => real x

/-- The characters that may surround a number. -/
def isSpace (c : Char) : Bool := c == ' ' || (0x09 ≤ c.toNat && c.toNat ≤ 0x0D)

/-- The sign in front of a text, if it is a minus sign, and what follows the sign. -/
def splitSign : List Char → Bool × List Char
  | '-' :: cs => (true, cs)
  | '+' :: cs => (false, cs)
  | cs => (false, cs)

/-- The exponent that a text consists of. -/
def exponent? : List Char → Option Int
  | [] => some 0
  | e :: cs =>
    let (negative, digits) := splitSign cs
    if (e = 'e' ∨ e = 'E') ∧ !digits.isEmpty ∧ digits.all Char.isDigit then
      let n : Int := Decimal.value digits
      some (if negative then -n else n)
    else none

/-- The number that a text writes. -/
def ofNumeral? (cs : List Char) : Option Cell := do
  let (negative, cs) := splitSign (trim isSpace cs)
  let (whole, rest) := cs.span Char.isDigit
  let (places, rest) : List Char × List Char :=
    match rest with
    | '.' :: behind => behind.span Char.isDigit
    | _ => ([], rest)
  if whole.isEmpty && places.isEmpty then none
  let exponent ← exponent? rest
  let magnitude : Int := Decimal.value whole
  let n := if negative then -magnitude else magnitude
  if whole.length = cs.length ∧ holds n then return int n
  return ofReal (.ofDecimal negative (Decimal.value (whole ++ places)) (exponent - places.length))

/-- A cell in a column of whole numbers. -/
def asNumber : Cell → Cell
  | int n => int n
  | real x => ofReal x
  | text s => (ofNumeral? s.toList).getD (text s)

/-! ### Columns of texts -/

/-- The first fifteen digits of a positive number, and the exponent of the last of them. -/
def significant (m : Nat) (e : Int) : Nat × Int :=
  let num := m * Binary64.twoTo e.toNat
  let den := Binary64.twoTo (-e).toNat
  let unit := Binary64.leadingExponent num den - 14
  let num := num * Binary64.tenTo (-unit).toNat
  let den := den * Binary64.tenTo unit.toNat
  let digits := (2 * num + den) / (2 * den)
  if digits = Binary64.tenTo 15 then (Binary64.tenTo 14, unit + 1) else (digits, unit)

/-- A positive number: positional from `10 ^ -4` up to `10 ^ 15`, else with an exponent. -/
def layout (digits : Nat) (unit : Int) : List Char :=
  let cs := ((Decimal.digits digits).reverse.dropWhile (· == '0')).reverse
  let top := unit + 14
  let orZero (cs : List Char) := if cs.isEmpty then ['0'] else cs
  if -4 ≤ top ∧ top < 15 then
    if top < 0 then "0.".toList ++ List.replicate (-top - 1).toNat '0' ++ cs
    else
      let before := top.toNat + 1
      cs.take before ++ List.replicate (before - cs.length) '0' ++ '.' :: orZero (cs.drop before)
  else
    cs.take 1 ++ '.' :: orZero (cs.drop 1) ++
      'e' :: (if top < 0 then '-' else '+') :: Decimal.twoDigits top.natAbs

/-- The text of a number, with fifteen digits at most. -/
def realText : Binary64 → String
  | .finite negative m e =>
    if m = 0 then "0.0"
    else
      let (digits, unit) := significant m e
      String.ofList ((if negative then ['-'] else []) ++ layout digits unit)
  | .infinite negative => if negative then "-Inf" else "Inf"
  | .nan => "NaN"

/-- A cell in a column of texts. -/
def asText : Cell → String
  | int n => Decimal.text n
  | real x => realText x
  | text s => s

end Cell

/-!
## Users and actors

An actor is a character or a creature that belongs to a user.  Its profile is
what the user decides about it.  Its row also says when it was added and when it
was last written, which nobody is shown.
-/

structure User where
  id : Int
  name : String
deriving DecidableEq

/-- What a player decides about an actor. -/
structure Profile where
  name : String
  scores : Scores Cell
  bonus : Cell
deriving DecidableEq

/-- A reading of the store's clock, in seconds. -/
abbrev Time := Nat

structure Actor where
  id : Int
  ownerId : Cell
  profile : Profile
  created : Time
  /-- When the row was last written. -/
  updated : Time
deriving DecidableEq

namespace Actor

/-- Whether an actor belongs to the user of an id. -/
def isOwnedBy (actor : Actor) (userId : Int) : Bool := actor.ownerId.isWhole userId

/-- The actor with another profile.  It is not written again if the profile is the same. -/
def revised (actor : Actor) (now : Time) (profile : Profile) : Actor :=
  if profile = actor.profile then actor else { actor with profile, updated := now }

variable (actor : Actor) (now : Time) (profile : Profile)

@[simp] theorem revised_id : (actor.revised now profile).id = actor.id := by
  unfold revised
  split <;> rfl

@[simp] theorem revised_ownerId : (actor.revised now profile).ownerId = actor.ownerId := by
  unfold revised
  split <;> rfl

@[simp] theorem revised_profile : (actor.revised now profile).profile = profile := by
  unfold revised
  split
  next hsame => exact hsame.symm
  next => rfl

end Actor

def Profile.sheet (profile : Profile) : Sheet :=
  ⟨profile.scores.toList.map fun (code, score) => (code, score.toJson), profile.bonus.toJson⟩

/-- What is written down for a new actor.  Scores and a bonus that are null have
standard values; an owner and a name there must be.  Its id is always chosen by the store. -/
structure NewActor where
  ownerId : Json
  name : Json
  scores : Scores Json := .const .null
  bonus : Json := .null

namespace NewActor

def standardScore : Int := 10

def standardBonus : Int := 2

/-- A value, or a standard number in place of null. -/
def orStandard (standard : Int) : Json → Json
  | .null => .int standard
  | value => value

/-- The new actor with its standard values. -/
def complete (new : NewActor) : NewActor :=
  { new with
    scores := new.scores.map (orStandard standardScore)
    bonus := orStandard standardBonus new.bonus }

/-- The sheet of a new actor, with all values as they were handed in. -/
def sheet (new : NewActor) : Sheet := ⟨new.complete.scores.toList, new.complete.bonus⟩

end NewActor

/-! ## Tables -/

/-- Why the store refuses a value or a row. -/
inductive StoreError where
  | tooLarge (value : Int)
  | unsuitable
  | idMismatch
  | nullOwner
  | nullActorName
  | nullScore (ability : Ability)
  | nullBonus
  | nullUserName
  | scoreRange (ability : Ability)
  | userIdTaken (id : Int)
  | noRow
deriving DecidableEq

structure Store where
  users : List User := []
  actors : List Actor := []
  /-- What the clock shows, which may be set to anything. -/
  now : Time := 0

namespace Store

/-! ## Values -/

def minScore : Int := 1

def maxScore : Int := 30

/-- The cell of a value, or nothing for null. -/
def bind : Json → Except StoreError (Option Cell)
  | .null => .ok none
  | .bool b => .ok (some (.int (if b then 1 else 0)))
  | .int n => if Cell.holds n then .ok (some (.int n)) else .error (.tooLarge n)
  | .float x => .ok (if x = .nan then none else some (.real x))
  | .str text => .ok (some (.text text))
  | _ => .error .unsuitable

/-- Whether a cell lies between the least and the largest score.  A text does not. -/
def allowsScore : Cell → Bool
  | .int n => minScore ≤ n && n ≤ maxScore
  | .real x =>
    match x.floor? with
    | some n => minScore ≤ n && (n < maxScore || x.whole? == some maxScore)
    | none => false
  | .text _ => false

/-- Finds the first score that may not be stored. -/
def checkScores (scores : Scores Cell) : Except StoreError Unit :=
  match Ability.all.find? fun ability => !allowsScore (scores.get ability) with
  | some ability => .error (.scoreRange ability)
  | none => .ok ()

/-! ## Ids -/

def maxId : Int := Cell.maxInt

/-- The id that a value names.  A value that is no whole number names none. -/
def key? (value : Json) : Except StoreError (Option Int) := do
  return (← bind value).bind fun cell => cell.asNumber.int?

/-- The least positive number that is no id yet. -/
def firstFree (ids : List Int) : Int :=
  let candidates := List.map (fun (n : Nat) => (n : Int) + 1) (List.range (ids.length + 1))
  (candidates.find? fun id => !ids.contains id).getD 1

/-- The id of a new row: the one after the largest.  If there is none after it, any free id may be
given; it is assumed to be the least. -/
def nextId (ids : List Int) : Int :=
  match ids.max? with
  | none => 1
  | some id => if id < maxId then id + 1 else firstFree ids

/-- Puts a row in front of the first row with a larger id. -/
def insertById {α : Type} (id : α → Int) (row : α) : List α → List α
  | [] => [row]
  | other :: rest =>
    if id row < id other then row :: other :: rest
    else other :: insertById id row rest

@[simp] theorem mem_insertById {α : Type} (id : α → Int) (row : α) (rows : List α) (x : α) :
    x ∈ insertById id row rows ↔ x = row ∨ x ∈ rows := by
  induction rows with
  | nil => simp [insertById]
  | cons other rest ih =>
    unfold insertById
    split
    · simp
    · rw [List.mem_cons, ih, List.mem_cons]
      exact or_left_comm

/-! ## Users -/

def userIds (store : Store) : List Int := store.users.map User.id

def user? (store : Store) (id : Int) : Option User := store.users.find? (·.id == id)

/-- Looks for the user that a value names. -/
def findUser (store : Store) (id : Json) : Except StoreError (Option User) := do
  return (← key? id).bind store.user?

def usersNamed (store : Store) (name : String) : List User :=
  store.users.filter (·.name == name)

/-- The store with a user under an id that is free. -/
def insertUser (store : Store) (user : User) : Store :=
  { store with users := insertById User.id user store.users }

/-- The id that is given for a new row, if one is. -/
def givenId? (id : Option Cell) : Except StoreError (Option Int) :=
  match id with
  | none => .ok none
  | some cell =>
    match cell.asNumber with
    | .int n => .ok (some n)
    | _ => .error .idMismatch

/-- Adds a user under a given id, or else under the next one. -/
def addUser (store : Store) (name id : Json) : Except StoreError (User × Store) := do
  let id ← bind id
  let name ← bind name
  let id ← givenId? id
  let some name := name | .error .nullUserName
  let user : User := ⟨id.getD (nextId store.userIds), name.asText⟩
  if store.userIds.contains user.id then .error (.userIdTaken user.id)
  else return (user, store.insertUser user)

/-- The store without a user and without the actors of that user. -/
def dropUser (store : Store) (id : Int) : Store :=
  { store with
    users := store.users.filter (·.id != id)
    actors := store.actors.filter (!·.isOwnedBy id) }

/-- Removes the user that a value names, if there is one. -/
def removeUser (store : Store) (id : Json) : Except StoreError Store := do
  match ← store.findUser id with
  | some user => return store.dropUser user.id
  | none => return store

/-! ## Actors -/

def actorIds (store : Store) : List Int := store.actors.map Actor.id

def actor? (store : Store) (id : Int) : Option Actor := store.actors.find? (·.id == id)

/-- Looks for the actor that a value names. -/
def findActor (store : Store) (id : Json) : Except StoreError (Option Actor) := do
  return (← key? id).bind store.actor?

/-- The actors of a user, oldest first. -/
def actorsOf (store : Store) (ownerId : Int) : List Actor :=
  store.actors.filter (·.isOwnedBy ownerId)

/-- Adds an actor under the next id.  Its owner need not be a user.  All values are looked
at before one of them is missed. -/
def addActor (store : Store) (new : NewActor) : Except StoreError (Actor × Store) := do
  let new := new.complete
  let owner ← bind new.ownerId
  let name ← bind new.name
  let scores ← new.scores.traverse fun _ => bind
  let bonus ← bind new.bonus
  let some owner := owner | .error .nullOwner
  let some name := name | .error .nullActorName
  let scores ← scores.traverse fun ability => (·.elim (.error (.nullScore ability)) .ok)
  let some bonus := bonus | .error .nullBonus
  let scores := scores.map Cell.asNumber
  checkScores scores
  let profile : Profile := ⟨name.asText, scores, bonus.asNumber⟩
  let actor : Actor := ⟨nextId store.actorIds, owner.asNumber, profile, store.now, store.now⟩
  return (actor, { store with actors := insertById Actor.id actor store.actors })

/-- The store with another profile in the row of an id. -/
def setProfile (store : Store) (id : Int) (profile : Profile) : Store :=
  { store with actors := store.actors.map fun actor =>
      if actor.id = id then actor.revised store.now profile else actor }

/-- The store with another profile for an actor.  Scores that stay as they are are not looked at
again. -/
def updateActor (store : Store) (actor : Actor) (profile : Profile) : Except StoreError Store := do
  if profile ≠ actor.profile then checkScores profile.scores
  return store.setProfile actor.id profile

def dropActor (store : Store) (id : Int) : Store :=
  { store with actors := store.actors.filter (·.id != id) }

end Store

end Tabletop
