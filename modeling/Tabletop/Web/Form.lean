import Tabletop.Text.Charset

/-!
# Forms

A form is a list of fields: names with texts or with files.  It can be sent as
one text, written `name=value` with `&` between the fields; a plus sign stands
for a space there and other bytes are escaped.
-/

namespace Tabletop
namespace Web

open Text

/-!
## Header values with parameters

The value of a header is a word that parameters may follow, each written
`name=value` behind a semicolon.  A value may stand in quotes, and then it may
hold semicolons, and quotes behind a backslash.  The case of the word and of the
names in front of an equals sign does not matter.  In the word an equals sign is a
character like any other.
-/

structure HeaderValue where
  word : String
  parameters : List (String × List Char)

namespace HeaderValue

/-- The text before the first semicolon outside of quotes, and the texts behind
each.  `last` is the character in front. -/
def split (quoted : Bool) (last : Char) : List Char → List Char × List (List Char)
  | [] => ([], [])
  | c :: cs =>
    if c = ';' ∧ !quoted then
      let (head, tail) := split false c cs
      ([], head :: tail)
    else
      let turns := c = '"' ∧ last ≠ '\\'
      let (head, tail) := split (if turns then !quoted else quoted) c cs
      (c :: head, tail)

/-- Drops one of two backslashes that stand side by side. -/
def mergeBackslashes : List Char → List Char
  | a :: b :: cs =>
    if a = '\\' ∧ b = '\\' then '\\' :: mergeBackslashes cs else a :: mergeBackslashes (b :: cs)
  | cs => cs

/-- Drops the backslashes in front of quotes. -/
def dropQuoteMarks : List Char → List Char
  | a :: b :: cs =>
    if a = '\\' ∧ b = '"' then '"' :: dropQuoteMarks cs else a :: dropQuoteMarks (b :: cs)
  | cs => cs

/-- What a text in quotes says; any other says itself. -/
def unquote (cs : List Char) : List Char :=
  match cs with
  | '"' :: rest =>
    if rest.getLast? = some '"' then dropQuoteMarks (mergeBackslashes rest.dropLast) else cs
  | _ => cs

def lowered (cs : List Char) : String := String.ofList ((trim isBlank cs).map Char.toLower)

/-- A name and its value.  A name without an equals sign has the empty value, and
its case does matter. -/
def parameter (cs : List Char) : String × List Char :=
  match cs.dropWhile (· != '=') with
  | _ :: value => (lowered (cs.takeWhile (· != '=')), unquote (trim isBlank value))
  | [] => (String.ofList (trim isBlank cs), [])

/-- Reads a word and parameters. -/
def ofChars (cs : List Char) : HeaderValue :=
  let (head, tail) := split false ';' cs
  ⟨lowered head, tail.map parameter⟩

/-- The value of a parameter; of several the last counts. -/
def get? (value : HeaderValue) (name : String) : Option (List Char) :=
  value.parameters.reverse.lookup name

/-- The name of a file, without the path on a drive or a share in front of it. -/
def fileName? (value : HeaderValue) : Option (List Char) :=
  (value.get? "filename").map fun name =>
    if (name.drop 1).take 2 = [':', '\\'] ∨ name.take 2 = ['\\', '\\'] then
      (name.splitOn '\\').getLastD []
    else name

end HeaderValue

/-! ## Fields -/

/-- What a field of a form holds.  Of the content of a file it only matters whether
there is any. -/
inductive FormValue where
  | text (value : Loose)
  | file (name : Loose) (isEmpty : Bool)
deriving DecidableEq

/-- Why a form cannot be read. -/
inductive FormFault where
  | noBoundary
  | malformed
  | nameless
  | undecodable
  | tooManyFields
  | tooManyFiles
  | tooLong
deriving DecidableEq

def FormFault.message : FormFault → String
  | noBoundary => "Missing boundary in multipart."
  | malformed => "Invalid multipart data."
  | nameless => "The Content-Disposition header field \"name\" must be provided."
  | undecodable => "There was an error parsing the body"
  | tooManyFields => "Too many fields. Maximum number of fields is 1000."
  | tooManyFiles => "Too many files. Maximum number of files is 1000."
  | tooLong => "Part exceeded maximum size of 1024KB."

abbrev Form := List (Loose × FormValue)

namespace Form

/-- The most fields with texts, and the most with files. -/
def maxFields : Nat := 1000

/-- The value of a field; of several the last counts. -/
def value? (form : Form) (name : String) : Option FormValue :=
  form.reverse.lookup (.text name)

def ampersand : UInt8 := 0x26

def equals : UInt8 := 0x3D

/-- Reads a name or a value.  Escapes are read as UTF-8, and a byte above ASCII
that is not escaped is the character of that number. -/
def decodeComponent (bytes : List UInt8) : List Char :=
  let bytes := bytes.map fun b => if b = 0x2B then 0x20 else b
  (bytes.splitBy fun a b => decide (a < 0x80) == decide (b < 0x80)).flatMap fun run =>
    if run.all (· < 0x80) then Utf8.decodeLossy (Percent.decode run)
    else run.map fun b => Char.ofNat b.toNat

/-- A field: the name in front of the first equals sign and the value behind it,
which is empty if there is no such sign. -/
def decodeField (piece : List UInt8) : Loose × FormValue :=
  let decode (bytes : List UInt8) : Loose := .text (String.ofList (decodeComponent bytes))
  (decode (piece.takeWhile (· != equals)),
    .text (decode ((piece.dropWhile (· != equals)).drop 1)))

/-- The fields of a form, in order.  Nothing between two ampersands is no field. -/
def decode (bytes : List UInt8) : Except FormFault Form :=
  let fields := ((bytes.splitOn ampersand).filter (!·.isEmpty)).map decodeField
  if maxFields < fields.length then .error .tooManyFields else .ok fields

def encodeComponent (text : String) : List Char :=
  (Percent.encode (fun c => Percent.isUnreserved c || c == ' ') (Utf8.encode text)).map
    fun c => if c = ' ' then '+' else c

def encode (fields : List (String × String)) : String :=
  "&".intercalate (fields.map fun (name, value) =>
    String.ofList (encodeComponent name) ++ "=" ++ String.ofList (encodeComponent value))

end Form

/-!
## Forms in parts

A form can also be sent part by part.  A delimiter stands in front of every part
and two hyphens follow the last one.  A part has lines with headers, an empty
line and its content, which ends where the next delimiter begins.

What breaks off is no error: the parts before it are the form.  Names and contents
are written in the charset that the media type names.
-/

namespace Multipart

def cr : UInt8 := 0x0D

def lf : UInt8 := 0x0A

def hyphen : UInt8 := 0x2D

/-- The bytes as characters of the same numbers. -/
def charsOf (bytes : List UInt8) : List Char := bytes.map fun b => Char.ofNat b.toNat

/-! ### Headers -/

/-- A header, its name in small letters. -/
structure Header where
  name : String
  value : List Char

/-- The bytes that the name of a header may hold. -/
def isNameByte (b : UInt8) : Bool :=
  let c := Char.ofNat b.toNat
  c.isAlphanum || "!#$%&'*+-.^_\x60|~".toList.contains c

/-- The most headers of a part. -/
def maxHeaders : Nat := 8

/-- The most bytes of a header, without the end of its line. -/
def maxHeaderLength : Nat := 4224

/-- Where the reading of headers stands.  What has been read is kept last one first. -/
inductive HeaderMode where
  | lineStart
  | name (reversed : List UInt8)
  | valueStart (name : String)
  | value (name : String) (reversed : List UInt8)
  | lineEnd
  | lastLineEnd

/-- What is found in front of a content: the headers and what follows them. -/
inductive Head where
  | cut
  | malformed
  | complete (headers : List Header) (rest : List UInt8)

/-- Reads headers up to the empty line.  The header that is being read may have `room`
more bytes. -/
def readHead (headers : List Header) (mode : HeaderMode) (room : Nat) : List UInt8 → Head
  | [] => .cut
  | b :: bytes =>
    match mode with
    | .lineStart =>
      if b = cr then readHead headers .lastLineEnd 0 bytes
      else if isNameByte b ∧ headers.length < maxHeaders then
        readHead headers (.name [b]) (maxHeaderLength - 1) bytes
      else .malformed
    | .lineEnd => if b = lf then readHead headers .lineStart 0 bytes else .malformed
    | .lastLineEnd => if b = lf then .complete headers.reverse bytes else .malformed
    | .name reversed =>
      if room = 0 then .malformed
      else if b = 0x3A then
        let name := String.ofList ((charsOf reversed.reverse).map Char.toLower)
        readHead headers (.valueStart name) (room - 1) bytes
      else if isNameByte b then readHead headers (.name (b :: reversed)) (room - 1) bytes
      else .malformed
    | .valueStart name =>
      if b = cr then readHead (⟨name, []⟩ :: headers) .lineEnd 0 bytes
      else if room = 0 then .malformed
      else if b = 0x20 then readHead headers (.valueStart name) (room - 1) bytes
      else readHead headers (.value name [b]) (room - 1) bytes
    | .value name reversed =>
      if b = cr then readHead (⟨name, charsOf reversed.reverse⟩ :: headers) .lineEnd 0 bytes
      else if room = 0 then .malformed
      else readHead headers (.value name (b :: reversed)) (room - 1) bytes

/-! ### Contents -/

/-- What a delimiter announces. -/
inductive Follow where
  | part
  | nothing
deriving DecidableEq

/-- What follows a delimiter: the end of its line, or two hyphens. -/
def follow? : List UInt8 → Option (Follow × List UInt8)
  | a :: b :: rest =>
    if a = cr ∧ b = lf then some (.part, rest)
    else if a = hyphen ∧ b = hyphen then some (.nothing, rest)
    else none
  | _ => none

/-- What a delimiter at the front announces. -/
def delimited? (delimiter bytes : List UInt8) : Option (Follow × List UInt8) :=
  if delimiter.isPrefixOf bytes then follow? (bytes.drop delimiter.length) else none

/-- Whether the bytes break off in a delimiter that they begin with. -/
def breaksOff (delimiter bytes : List UInt8) : Bool :=
  bytes.isPrefixOf delimiter ||
    (delimiter.isPrefixOf bytes && [[cr], [hyphen]].contains (bytes.drop delimiter.length))

/-- The bytes in front of the first delimiter, and what it announces.  What has been
read is kept last one first. -/
def readContent (delimiter reversed : List UInt8) :
    List UInt8 → List UInt8 × Option (Follow × List UInt8)
  | [] => (reversed.reverse, none)
  | b :: bytes =>
    match delimited? delimiter (b :: bytes) with
    | some found => (reversed.reverse, some found)
    | none =>
      if breaksOff delimiter (b :: bytes) then (reversed.reverse, none)
      else readContent delimiter (b :: reversed) bytes

/-! ### Parts -/

/-- A part.  If the body breaks off in it, its content is what there is. -/
structure Part where
  headers : List Header
  content : List UInt8
  isWhole : Bool

theorem length_of_readHead {headers found : List Header} {mode : HeaderMode} {room : Nat}
    {bytes rest : List UInt8} (h : readHead headers mode room bytes = .complete found rest) :
    rest.length < bytes.length := by
  induction bytes generalizing headers mode room with
  | nil => simp [readHead] at h
  | cons b bytes ih =>
    simp only [readHead] at h
    (repeat' split at h) <;> first
      | exact Nat.lt_succ_of_lt (ih h)
      | (simp only [Head.complete.injEq] at h; simp [h.2])
      | simp at h

theorem length_of_follow? {bytes rest : List UInt8} {found : Follow}
    (h : follow? bytes = some (found, rest)) : rest.length ≤ bytes.length := by
  unfold follow? at h
  (repeat' split at h) <;> simp at h
  all_goals
    obtain ⟨-, rfl⟩ := h
    simp only [List.length_cons]
    omega

theorem length_of_readContent {delimiter reversed bytes content rest : List UInt8} {found : Follow}
    (h : readContent delimiter reversed bytes = (content, some (found, rest))) :
    rest.length ≤ bytes.length := by
  induction bytes generalizing reversed with
  | nil => simp [readContent] at h
  | cons b bytes ih =>
    simp only [readContent] at h
    split at h
    · rename_i found' hd
      simp only [Prod.mk.injEq, Option.some.injEq] at h
      obtain ⟨-, rfl⟩ := h
      unfold delimited? at hd
      split at hd
      · have := length_of_follow? hd
        simp only [List.length_drop] at this
        omega
      · simp at hd
    · split at h
      · simp at h
      · exact Nat.le_succ_of_le (ih h)

/-- The parts behind a delimiter, and whether nothing is wrong with their headers. -/
def readParts (delimiter bytes : List UInt8) : List Part × Bool :=
  match hh : readHead [] .lineStart 0 bytes with
  | .cut => ([], true)
  | .malformed => ([], false)
  | .complete headers rest =>
    match hc : readContent delimiter [] rest with
    | (content, none) => ([⟨headers, content, false⟩], true)
    | (content, some (.nothing, _)) => ([⟨headers, content, true⟩], true)
    | (content, some (.part, rest')) =>
      have : rest'.length < bytes.length :=
        Nat.lt_of_le_of_lt (length_of_readContent hc) (length_of_readHead hh)
      let (parts, sound) := readParts delimiter rest'
      (⟨headers, content, true⟩ :: parts, sound)
termination_by bytes.length

/-- The most bytes of a boundary. -/
def maxBoundaryLength : Nat := 256

/-- What follows the preamble of a body.  Only a body that begins with the end of a
line has one, and it goes up to the first hyphen. -/
def dropPreamble : List UInt8 → List UInt8
  | b :: bytes => if b = cr ∨ b = lf then bytes.dropWhile (· != hyphen) else b :: bytes
  | [] => []

/-- The parts of a body, and whether nothing is wrong with it. -/
def partsOf (boundary body : List UInt8) : List Part × Bool :=
  let mark := hyphen :: hyphen :: boundary
  let delimiter := cr :: lf :: mark
  let body := dropPreamble body
  if maxBoundaryLength < boundary.length then ([], false)
  else if mark.isPrefixOf body then
    let rest := body.drop mark.length
    match follow? rest with
    | some (.part, rest) => readParts delimiter rest
    | some (.nothing, _) => ([], true)
    | none => ([], [[], [cr], [hyphen]].contains rest)
  else ([], body.isPrefixOf mark)

/-! ### Fields -/

/-- The most bytes of a text. -/
def maxTextLength : Nat := 1048576

/-- Reads a text in a charset; there are charsets that fail on some bytes. -/
def decodeText (charset : String) (bytes : List UInt8) : Except FormFault Loose :=
  (Charset.decodeNamed charset bytes).mapError fun _ => .undecodable

def bytesOf (cs : List Char) : List UInt8 := cs.map fun c => UInt8.ofNat c.toNat

/-- How a part is to be understood, from the last of its headers that says so. -/
def Part.disposition (part : Part) : HeaderValue :=
  match (part.headers.filter (·.name == "content-disposition")).getLast? with
  | some header => .ofChars header.value
  | none => .ofChars []

/-- How many fields are texts, and how many are files. -/
structure FieldCount where
  texts : Nat := 0
  files : Nat := 0

/-- The field that a part is, if it is whole, behind so many others.  Also a part that
broke off counts. -/
def Part.field? (charset : String) (count : FieldCount) (part : Part) :
    Except FormFault (Option (Loose × FormValue) × FieldCount) := do
  let disposition := part.disposition
  let some name := disposition.get? "name" | .error .nameless
  let name ← decodeText charset (bytesOf name)
  match disposition.fileName? with
  | some file =>
    if count.files = Form.maxFields then .error .tooManyFiles
    else
      let file ← decodeText charset (bytesOf file)
      let field := if part.isWhole then some (name, .file file part.content.isEmpty) else none
      return (field, { count with files := count.files + 1 })
  | none =>
    if count.texts = Form.maxFields then .error .tooManyFields
    else if maxTextLength < part.content.length then .error .tooLong
    else
      let count := { count with texts := count.texts + 1 }
      if part.isWhole then
        return (some (name, .text (← decodeText charset part.content)), count)
      else return (none, count)

/-- The fields of parts. -/
def fieldsOf (charset : String) (count : FieldCount) : List Part → Except FormFault Form
  | [] => .ok []
  | part :: rest => do
    let (field, count) ← part.field? charset count
    return field.toList ++ (← fieldsOf charset count rest)

/-- Reads a form whose media type says what the delimiters look like.  A charset that cannot
be looked up comes before all other faults, and a fault in a part before one further on. -/
def decode (mediaType : HeaderValue) (body : List UInt8) : Except FormFault Form := do
  let charset := ((mediaType.get? "charset").map String.ofList).getD "utf-8"
  if !Charset.isName charset then .error .undecodable
  let some boundary := mediaType.get? "boundary" | .error .noBoundary
  let (parts, sound) := partsOf (bytesOf boundary) body
  let fields ← fieldsOf charset {} parts
  if sound then return fields else .error .malformed

end Multipart
end Web
end Tabletop
