import Tabletop.Text.CharacterName
import Tabletop.Text.Loose

/-!
# Texts with escapes

In this charset a byte is the character of its own number, and a backslash
begins an escape.  The plain form knows only escapes with four or eight
hexadecimal digits; the full form has those of string literals.
-/

namespace Tabletop
namespace Text
namespace Escapes

def hexDigit? (n : Nat) : Option Nat :=
  if 0x30 ≤ n ∧ n ≤ 0x39 then some (n - 0x30)
  else if 0x41 ≤ n ∧ n ≤ 0x46 then some (n - 0x37)
  else if 0x61 ≤ n ∧ n ≤ 0x66 then some (n - 0x57)
  else none

def octalDigit? (n : Nat) : Option Nat :=
  if 0x30 ≤ n ∧ n ≤ 0x37 then some (n - 0x30) else none

/-- What an escape of one letter stands for. -/
def letters : List (Char × Nat) :=
  [('\\', 0x5C), ('\'', 0x27), ('"', 0x22), ('b', 8), ('f', 0xC), ('t', 9), ('n', 0xA),
   ('r', 0xD), ('v', 0xB), ('a', 7)]

/-- The names of the blank characters, of those that a number may hold and of those in the
name of a field.  Other characters are not told apart. -/
def names : List (String × Nat) :=
  [("DIGIT ZERO", 0x30), ("DIGIT ONE", 0x31), ("DIGIT TWO", 0x32), ("DIGIT THREE", 0x33),
   ("DIGIT FOUR", 0x34), ("DIGIT FIVE", 0x35), ("DIGIT SIX", 0x36), ("DIGIT SEVEN", 0x37),
   ("DIGIT EIGHT", 0x38), ("DIGIT NINE", 0x39), ("PLUS SIGN", 0x2B), ("HYPHEN-MINUS", 0x2D),
   ("FULL STOP", 0x2E), ("LOW LINE", 0x5F), ("LATIN SMALL LETTER D", 0x64),
   ("LATIN SMALL LETTER E", 0x65), ("LATIN SMALL LETTER I", 0x69), ("LATIN SMALL LETTER R", 0x72),
   ("LATIN SMALL LETTER S", 0x73), ("LATIN SMALL LETTER U", 0x75),
   ("SPACE", 0x20), ("NO-BREAK SPACE", 0xA0),
   ("OGHAM SPACE MARK", 0x1680), ("EN QUAD", 0x2000), ("EM QUAD", 0x2001), ("EN SPACE", 0x2002),
   ("EM SPACE", 0x2003), ("THREE-PER-EM SPACE", 0x2004), ("FOUR-PER-EM SPACE", 0x2005),
   ("SIX-PER-EM SPACE", 0x2006), ("FIGURE SPACE", 0x2007), ("PUNCTUATION SPACE", 0x2008),
   ("THIN SPACE", 0x2009), ("HAIR SPACE", 0x200A), ("LINE SEPARATOR", 0x2028),
   ("PARAGRAPH SEPARATOR", 0x2029), ("NARROW NO-BREAK SPACE", 0x202F),
   ("MEDIUM MATHEMATICAL SPACE", 0x205F), ("IDEOGRAPHIC SPACE", 0x3000),
   ("CHARACTER TABULATION", 9), ("HORIZONTAL TABULATION", 9), ("TAB", 9), ("HT", 9),
   ("LINE FEED", 0xA), ("NEW LINE", 0xA), ("END OF LINE", 0xA), ("LF", 0xA), ("NL", 0xA),
   ("EOL", 0xA), ("LINE TABULATION", 0xB), ("VERTICAL TABULATION", 0xB), ("VT", 0xB),
   ("FORM FEED", 0xC), ("FF", 0xC), ("CARRIAGE RETURN", 0xD), ("CR", 0xD), ("NEXT LINE", 0x85),
   ("NEL", 0x85), ("NBSP", 0xA0), ("NNBSP", 0x202F), ("MMSP", 0x205F), ("SP", 0x20)]

/-- The code of a named character. -/
def named? (name : List Nat) : Option Nat :=
  let cs := name.map Char.ofNat
  match names.lookup (String.ofList (cs.map Char.toUpper)) with
  | some code => some code
  | none => if CharacterName.isName cs then some 0xFFFD else none

/-- Where the reading stands.  An escape may still expect digits, of which so many
are `left`, or the rest of a name. -/
inductive Mode where
  | plain
  | escape
  | octal (value left : Nat)
  | hex (value left : Nat)
  | nameStart
  | name (reversed : List Nat)

/-- Reads the character behind a backslash: what it writes, and what follows; none
if no such escape is known. -/
def escaped? (full : Bool) (n : Nat) : Option (List Nat × Mode) :=
  if n = 0x75 then some ([], .hex 0 4)
  else if n = 0x55 then some ([], .hex 0 8)
  else if !full then none
  else if n = 0x78 then some ([], .hex 0 2)
  else if n = 0x4E then some ([], .nameStart)
  else if n = 0xA then some ([], .plain)
  else
    match octalDigit? n, letters.lookup (Char.ofNat n) with
    | some digit, _ => some ([], .octal digit 2)
    | none, some code => some ([code], .plain)
    | none, none => none

/-- Reads a character outside of escapes. -/
def start (n : Nat) : List Nat × Mode := if n = 0x5C then ([], .escape) else ([n], .plain)

/-- Reads a character: the codes that are written, last one first, and the new mode;
none if it does not fit. -/
def Mode.read? (full : Bool) (mode : Mode) (n : Nat) : Option (List Nat × Mode) :=
  match mode with
  | .plain => some (start n)
  | .escape => some ((escaped? full n).getD ([n, 0x5C], .plain))
  | .octal value left =>
    match octalDigit? n with
    | some digit =>
      let value := 8 * value + digit
      some (if left = 1 then ([value], .plain) else ([], .octal value (left - 1)))
    | none =>
      let (written, mode) := start n
      some (written ++ [value], mode)
  | .hex value left =>
    (hexDigit? n).bind fun digit =>
      let value := 16 * value + digit
      if left ≠ 1 then some ([], .hex value (left - 1))
      else if value < 0x110000 then some ([value], .plain)
      else none
  | .nameStart => if n = 0x7B then some ([], .name []) else none
  | .name reversed =>
    if n = 0x7D then
      if reversed.isEmpty then none
      else (named? reversed.reverse).map fun code => ([code], .plain)
    else some ([], .name (n :: reversed))

/-- What the end of the bytes writes; none inside of an escape.  The plain form keeps
a backslash at the end. -/
def Mode.finish? (full : Bool) : Mode → Option (List Nat)
  | .plain => some []
  | .octal value _ => some [value]
  | .escape => if full then none else some [0x5C]
  | _ => none

def decode? (full : Bool) (bytes : List UInt8) : Option (List Nat) := do
  let (written, mode) ← bytes.foldlM
    (fun (written, mode) b => do
      let (new, mode) ← Mode.read? full mode b.toNat
      return (new ++ written, mode))
    (([] : List Nat), Mode.plain)
  return written.reverse ++ (← mode.finish? full)

end Escapes
end Text
end Tabletop
