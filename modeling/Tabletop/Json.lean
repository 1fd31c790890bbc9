import Tabletop.Text.Loose
import Tabletop.Text.Number

/-!
# JSON values

Whole numbers and floating point numbers are different values: `16` is the
first and `16.0` the second.  The fields of a record keep the order in which
they were first written.  A string that is no text is a value of its own, and
fields may have such names.
-/

namespace Tabletop

open Text

inductive Json where
  | null
  | bool (value : Bool)
  | int (value : Int)
  | float (value : Binary64)
  | str (value : String)
  /-- A string that is no text. -/
  | broken (string : Broken)
  | list (items : List Json)
  | object (fields : List (Loose × Json))

namespace Json

instance : Inhabited Json := ⟨null⟩

/-- The record of fields whose names are texts. -/
def record (fields : List (String × Json)) : Json :=
  object (fields.map fun (name, value) => (.text name, value))

def fields? : Json → Option (List (Loose × Json))
  | object fields => some fields
  | _ => none

/-- The whole number that a value is.  Booleans and floating point numbers are none. -/
def int? : Json → Option Int
  | int n => some n
  | _ => none

def get? (json : Json) (name : String) : Option Json :=
  json.fields?.bind (·.lookup (.text name))

def ofLoose : Loose → Json
  | .text value => str value
  | .broken string => broken string

def ofInt? : Option Int → Json
  | some n => int n
  | none => null

mutual

/-- The first thing that a function finds in a value, which is searched in the order
in which it is written. -/
def search? {α : Type} (find : Json → Option α) : Json → Option α
  | list items => searchItems? find items
  | object fields => searchFields? find fields
  | scalar => find scalar

def searchItems? {α : Type} (find : Json → Option α) : List Json → Option α
  | [] => none
  | item :: rest => (search? find item).or (searchItems? find rest)

def searchFields? {α : Type} (find : Json → Option α) : List (Loose × Json) → Option α
  | [] => none
  | (_, value) :: rest => (search? find value).or (searchFields? find rest)

end

/-- Whether every number in a value is finite. -/
def isFinite (json : Json) : Bool :=
  Option.isNone <| json.search? fun
    | float x => if x.isFinite then none else some ()
    | _ => none

/-!
## Writing JSON

Values are written without space between the tokens.  In strings the quote, the
backslash and the control characters are escaped and nothing else.  A string that
is no text is written as it is shown.
-/

def hexChar (n : Nat) : Char :=
  if n < 10 then Char.ofNat ('0'.toNat + n) else Char.ofNat ('a'.toNat + n - 10)

def escape (c : Char) : List Char :=
  if c = '"' then ['\\', '"']
  else if c = '\\' then ['\\', '\\']
  else if c.toNat < 0x20 then
    ['\\', 'u', '0', '0', hexChar (c.toNat / 16), hexChar (c.toNat % 16)]
  else [c]

def quote (text : String) : String :=
  String.ofList ('"' :: text.toList.flatMap escape ++ ['"'])

mutual

def write : Json → String
  | null => "null"
  | bool b => if b then "true" else "false"
  | int n => Decimal.text n
  | float x => x.jsonText
  | str s => quote s
  | broken string => quote (Loose.broken string).shown
  | list items => "[" ++ writeItems items ++ "]"
  | object fields => "\x7b" ++ writeFields fields ++ "\x7d"

def writeItems : List Json → String
  | [] => ""
  | [item] => write item
  | item :: rest => write item ++ "," ++ writeItems rest

def writeFields : List (Loose × Json) → String
  | [] => ""
  | [(name, value)] => quote name.shown ++ ":" ++ write value
  | (name, value) :: rest => quote name.shown ++ ":" ++ write value ++ "," ++ writeFields rest

end

end Json
end Tabletop
