import Mathlib
import Tabletop.Web.Page

/-!
# Reading markup

A page is read character by character, as a browser does it: an opening angle bracket
begins a tag wherever it stands in a text, and the tag ends with the first closing one
that is not between quotes.  What was read before has no influence on what follows but
by the place where the reader is, so a page is read piece by piece.

An escaped text contains no character that begins or ends anything in the markup around
it, and it is written back to what it stands for.
-/

namespace Tabletop
namespace Web
namespace Markup

/-- A tag, with the names and values of its attributes.  The name of an end tag has a slash in
front. -/
structure Tag where
  name : List Char := []
  attributes : List (List Char × List Char) := []
deriving DecidableEq

/-- A tag with the text in front of it. -/
structure Piece where
  text : List Char
  tag : Tag
deriving DecidableEq

/-- Where a reader is: in a text or, in a tag, in its name, between attributes, in the name of an
attribute, behind the name, or in the value, between quotes or without any. -/
inductive Place where
  | text
  | name
  | gap
  | label
  | equals
  | quoted (quote : Char)
  | bare
deriving DecidableEq

/-- What separates the attributes of a tag. -/
def isGap (c : Char) : Bool := [' ', '\t', '\n', '\r', '\x0c'].contains c

namespace Tag

def extendName (tag : Tag) (c : Char) : Tag := ⟨tag.name ++ [c], tag.attributes⟩

def beginLabel (tag : Tag) (c : Char) : Tag := ⟨tag.name, tag.attributes ++ [([c], [])]⟩

def extendLabel (tag : Tag) (c : Char) : Tag :=
  ⟨tag.name, tag.attributes.modifyLast fun (label, value) => (label ++ [c], value)⟩

def extendValue (tag : Tag) (c : Char) : Tag :=
  ⟨tag.name, tag.attributes.modifyLast fun (label, value) => (label, value ++ [c])⟩

/-- The value of an attribute.  Of two with one name the first counts. -/
def value? (tag : Tag) (label : String) : Option (List Char) := tag.attributes.lookup label.toList

/-- A character inside a tag that does not end it and is not between quotes. -/
def read (tag : Tag) : Place → Char → Place × Tag
  | .name, c => if isGap c then (.gap, tag) else (.name, tag.extendName c)
  | .label, c =>
    if isGap c then (.gap, tag)
    else if c = '=' then (.equals, tag)
    else (.label, tag.extendLabel c)
  | .equals, c =>
    if isGap c then (.equals, tag)
    else if c = '"' ∨ c = '\'' then (.quoted c, tag)
    else (.bare, tag.extendValue c)
  | .bare, c => if isGap c then (.gap, tag) else (.bare, tag.extendValue c)
  | _, c => if isGap c then (.gap, tag) else (.label, tag.beginLabel c)

end Tag

/-- What has been read of a page: whole pieces, and the text and the tag that are being read. -/
structure Reading where
  place : Place := .text
  text : List Char := []
  tag : Tag := {}
  pieces : List Piece := []
deriving DecidableEq

namespace Reading

def read : Reading → Char → Reading
  | ⟨.text, text, tag, pieces⟩, c =>
    if c = '<' then ⟨.name, text, tag, pieces⟩ else ⟨.text, text ++ [c], tag, pieces⟩
  | ⟨.quoted quote, text, tag, pieces⟩, c =>
    if c = quote then ⟨.gap, text, tag, pieces⟩
    else ⟨.quoted quote, text, tag.extendValue c, pieces⟩
  | ⟨place, text, tag, pieces⟩, c =>
    if c = '>' then ⟨.text, [], {}, pieces ++ [⟨text, tag⟩]⟩
    else
      match tag.read place c with
      | (place, tag) => ⟨place, text, tag, pieces⟩

def readAll (reading : Reading) (cs : List Char) : Reading := cs.foldl read reading

variable {cs text name label value : List Char} {tag : Tag} {pieces : List Piece} {quote : Char}
  {attributes : List (List Char × List Char)}

theorem readAll_cons (reading : Reading) (c : Char) (cs : List Char) :
    reading.readAll (c :: cs) = (reading.read c).readAll cs := rfl

theorem readAll_append (reading : Reading) (left right : List Char) :
    reading.readAll (left ++ right) = (reading.readAll left).readAll right :=
  List.foldl_append

theorem readAll_text (hplain : '<' ∉ cs) :
    readAll ⟨.text, text, tag, pieces⟩ cs = ⟨.text, text ++ cs, tag, pieces⟩ := by
  induction cs generalizing text with
  | nil => simp [readAll]
  | cons c cs ih =>
      have hc := List.ne_of_not_mem_cons hplain
      have hrest := List.not_mem_of_not_mem_cons hplain
      have hstep : read ⟨.text, text, tag, pieces⟩ c = ⟨.text, text ++ [c], tag, pieces⟩ :=
        if_neg (Ne.symm hc)
      rw [readAll_cons, hstep, ih hrest, List.append_assoc, List.singleton_append]

theorem readAll_quoted (hplain : quote ∉ cs) :
    readAll ⟨.quoted quote, text, ⟨name, attributes ++ [(label, value)]⟩, pieces⟩ cs =
      ⟨.quoted quote, text, ⟨name, attributes ++ [(label, value ++ cs)]⟩, pieces⟩ := by
  induction cs generalizing value with
  | nil => simp [readAll]
  | cons c cs ih =>
      have hc := List.ne_of_not_mem_cons hplain
      have hrest := List.not_mem_of_not_mem_cons hplain
      have hstep :
          read ⟨.quoted quote, text, ⟨name, attributes ++ [(label, value)]⟩, pieces⟩ c =
            ⟨.quoted quote, text, ⟨name, attributes ++ [(label, value ++ [c])]⟩, pieces⟩ := by
        simp [read, Ne.symm hc, Tag.extendValue, List.modifyLast_concat]
      rw [readAll_cons, hstep, ih hrest, List.append_assoc, List.singleton_append]

/-- A reading with other pieces in front of its own. -/
def after (earlier : List Piece) (reading : Reading) : Reading :=
  ⟨reading.place, reading.text, reading.tag, earlier ++ reading.pieces⟩

theorem read_after (earlier : List Piece) (reading : Reading) (c : Char) :
    (reading.after earlier).read c = (reading.read c).after earlier := by
  obtain ⟨place, text, tag, pieces⟩ := reading
  cases place with
  | text | quoted =>
      simp only [after, read]
      split <;> rfl
  | name | gap | label | equals | bare =>
      simp only [after, read]
      split
      · simp
      · rfl

/-- What was read before stays. -/
theorem readAll_after (earlier : List Piece) (reading : Reading) (cs : List Char) :
    (reading.after earlier).readAll cs = (reading.readAll cs).after earlier := by
  induction cs generalizing reading with
  | nil => rfl
  | cons c cs ih => rw [readAll_cons, read_after, ih, readAll_cons]

end Reading

/-- What a page is read as. -/
def readPage (page : String) : Reading := Reading.readAll {} page.toList

/-! ## Escaped texts -/

/-- A text with what its references stand for.  These are the ones that escaped texts contain. -/
def unescape : List Char → List Char
  | '&' :: 'a' :: 'm' :: 'p' :: ';' :: cs => '&' :: unescape cs
  | '&' :: 'l' :: 't' :: ';' :: cs => '<' :: unescape cs
  | '&' :: 'g' :: 't' :: ';' :: cs => '>' :: unescape cs
  | '&' :: '#' :: '3' :: '4' :: ';' :: cs => '"' :: unescape cs
  | '&' :: '#' :: '3' :: '9' :: ';' :: cs => '\'' :: unescape cs
  | c :: cs => c :: unescape cs
  | [] => []

theorem unescape_escapeChar (c : Char) (cs : List Char) :
    unescape (Page.escapeChar c ++ cs) = c :: unescape cs := by
  unfold Page.escapeChar
  split_ifs with hamp hless hgreater hdouble hsingle
  case neg => simp [unescape, hamp]
  all_goals
    subst c
    rfl

theorem unescape_escape (cs : List Char) : unescape (cs.flatMap Page.escapeChar) = cs := by
  induction cs with
  | nil => rfl
  | cons c cs ih => rw [List.flatMap_cons, unescape_escapeChar, ih]

/-- An escaped text has no angle brackets and no quotes. -/
theorem not_mem_escape {mark : Char} (hmark : mark ∈ ['<', '>', '"', '\'']) (cs : List Char) :
    mark ∉ cs.flatMap Page.escapeChar := by
  rw [List.mem_flatMap]
  rintro ⟨c, -, hc⟩
  unfold Page.escapeChar at hc
  split_ifs at hc with hamp hless hgreater hdouble hsingle
  case neg =>
    obtain rfl := List.mem_singleton.mp hc
    simp [hless, hgreater, hdouble, hsingle] at hmark
  all_goals
    rw [String.toList_ofList] at hc
    fin_cases hmark <;> simp at hc

end Markup
end Web
end Tabletop
