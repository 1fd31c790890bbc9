import Tabletop.Store.Transaction
import Tabletop.Validation

/-!
# Settings and startup

What a service is set up with, and the users that are added when it starts.
-/

namespace Tabletop

open Validation

/-!
## Settings

The service is set up by variables of its environment.  The name of a variable
is the name of a setting in letters of any case; other variables do not matter,
and a setting without variable keeps its standard value.
-/

structure Settings where
  databaseUrl : String := "sqlite+aiosqlite:///./shrine.db"
  environment : String := "local"
  debug : Bool := true
  sessionSecret : String := "dev-secret-change-me"
  logLevel : String := "INFO"
  maxCount : Int := 100
  maxSides : Int := 1000
  maxTotal : Int := 1000

namespace Settings

/-- Production has no login of its own and no users that are set up at startup. -/
def isProduction (settings : Settings) : Bool := settings.environment == "production"

def limits (settings : Settings) : Dice.Limits where
  maxCount := settings.maxCount
  maxSides := settings.maxSides
  maxTotal := settings.maxTotal

/-- The variables under names in lower case; of two that become one name the
later counts. -/
def byName (environment : List (String × String)) : OrderedMap String String :=
  OrderedMap.ofList ((OrderedMap.ofList environment).map fun (name, value) =>
    (Text.lower name, value))

def truthOf (text : String) : Checked Bool :=
  let word := text.map Char.toLower
  if ["1", "true", "t", "yes", "y", "on"].contains word then .ok true
  else if ["0", "false", "f", "no", "n", "off"].contains word then .ok false
  else .fault .boolText (.str text)

/-- The value of a setting: that of its variable, else the standard one. -/
def setting {α : Type} (values : OrderedMap String String) (name : String)
    (read : String → Checked α) (standard : α) : Checked α :=
  match values.get? name with
  | some text => (read text).inside name
  | none => .ok standard

def ofEnvironment (environment : List (String × String)) : Checked Settings :=
  let values := byName environment
  let standard : Settings := {}
  let text (name value : String) : Checked String := setting values name .ok value
  let whole (name : String) (value : Int) : Checked Int :=
    setting values name Whole.ofText value
  ((text "database_url" standard.databaseUrl).both <|
    (text "environment" standard.environment).both <|
    (setting values "debug" truthOf standard.debug).both <|
    (text "session_secret_key" standard.sessionSecret).both <|
    (text "log_level" standard.logLevel).both <|
    (whole "dice_max_count" standard.maxCount).both <|
    (whole "dice_max_sides" standard.maxSides).both <|
    (whole "dice_max_total_dice" standard.maxTotal)).map
      fun (databaseUrl, environment, debug, sessionSecret, logLevel, maxCount, maxSides,
          maxTotal) =>
        { databaseUrl, environment, debug, sessionSecret, logLevel, maxCount, maxSides, maxTotal }

end Settings

namespace Service

/-!
## Startup

Outside of production three users are there from the beginning.  Startup adds
those that are missing, or nothing at all if one of the names is not unique.  It
looks for the names one by one in a single transaction, so that users may already
be written when a later name turns out not to be unique.  What is not committed
then is lost.
-/

open Store

inductive StartFailure where
  /-- More than one user has a name that one user should have. -/
  | ambiguous (name : String)
  | refused (error : StoreError)
deriving DecidableEq

/-- Adds a user of a name if there is none. -/
def ensureUser (name : String) : Work StartFailure Unit := do
  Work.flush.mapError .refused
  match ← Work.read fun store => .ok (store.usersNamed name) with
  | [] => Work.wait (.addUser name)
  | [_] => return
  | _ => throw (.ambiguous name)

/-- Adds the users that are missing. -/
def ensureUsers (names : List String) : Work StartFailure Unit := do
  names.forM ensureUser
  Work.commit.mapError .refused

def firstUsers : List String := ["Alice", "Bob", "Charlie"]

/-- Starts on a store; what is left of the store is what was committed. -/
def start (settings : Settings) (store : Store) : Except StartFailure Unit × Store :=
  if settings.isProduction then (.ok (), store) else (ensureUsers firstUsers).on store

end Service
end Tabletop
