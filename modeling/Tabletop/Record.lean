import Tabletop.Text.Number
import Tabletop.Json
import Tabletop.OrderedMap
import Tabletop.Text.Case

/-!
# Records under any labels

The rows of a mapping may be labelled by texts and by other scalars.  Labels
that are equal as numbers are one label: `1`, `1.0` and `true` name one row.
-/

namespace Tabletop

open Text

inductive Label where
  | text (value : String)
  | null
  | bool (value : Bool)
  | int (value : Int)
  | float (value : Binary64)
deriving DecidableEq

namespace Label

/-- The whole number that a label is equal to. -/
def whole? : Label → Option Int
  | bool b => some (if b then 1 else 0)
  | int n => some n
  | float x => x.whole?
  | _ => none

/-- Whether two labels name the same row.  What is not a number equals nothing. -/
def same (a b : Label) : Bool :=
  match a.whole?, b.whole? with
  | some m, some n => m == n
  | some _, none => false
  | none, some _ => false
  | none, none =>
    match a, b with
    | float x, float y => x.normalize == y.normalize && x != .nan
    | a, b => a == b

def name : Label → String
  | text s => s
  | null => "null"
  | bool b => if b then "true" else "false"
  | int n => Decimal.text n
  | float x => x.jsonText

/-- The text of a label in capitals. -/
def code : Label → String
  | null => "NONE"
  | float x => upper x.text
  | label => upper label.name

end Label

/-- A plain value, or a mapping whose rows keep their order. -/
inductive Record where
  | plain (value : Json)
  | mapping (rows : List (Label × Record))

namespace Record

instance : Inhabited Record := ⟨plain .null⟩

/-- The mapping that rows make when they are entered one after the other. -/
def ofRows (rows : List (Label × Record)) : Record :=
  .mapping (OrderedMap.ofListBy Label.same rows)

def rows? : Record → Option (List (Label × Record))
  | mapping rows => some rows
  | plain (.object fields) =>
    some (fields.map fun (name, value) => (.text name.shown, plain value))
  | plain _ => none

/-- Whether a value counts as nothing: null, false, zero, or empty. -/
def isVoid : Record → Bool
  | mapping rows => rows.isEmpty
  | plain .null => true
  | plain (.bool b) => !b
  | plain (.int n) => n == 0
  | plain (.float x) => x.isZero
  | plain (.str s) => s.isEmpty
  | plain (.broken _) => false
  | plain (.list items) => items.isEmpty
  | plain (.object fields) => fields.isEmpty

mutual

def toJson : Record → Json
  | plain value => value
  | mapping rows => .record (fieldsOf rows)

def fieldsOf : List (Label × Record) → List (String × Json)
  | [] => []
  | (label, record) :: rest => (label.name, toJson record) :: fieldsOf rest

end

def find? (rows : List (Label × Record)) (name : String) : Option Record :=
  (rows.find? fun (label, _) => label.same (.text name)).map (·.2)

end Record
end Tabletop
