import Tabletop.Text.Encoding

/-!
# Charsets with several bytes for a character

Some bytes lead pairs, or they choose the set of characters or the units that the bytes behind
them are read in.
-/

namespace Tabletop
namespace Text

/-!
## Charsets with pairs of bytes

A byte of ASCII is itself.  Some other bytes stand alone, and some lead a pair
whose second byte has bounds of its own.  Of the characters that pairs write only
the blank ones are told apart: any other is read as the replacement character.
-/

/-- The pairs whose bytes lie between given bounds. -/
structure Region where
  leadLow : Nat
  leadHigh : Nat
  low : Nat
  high : Nat

def Region.contains (region : Region) (a b : Nat) : Bool :=
  region.leadLow ≤ a && a ≤ region.leadHigh && region.low ≤ b && b ≤ region.high

structure Pairs where
  /-- Bytes that stand alone and are not the character of their own number. -/
  singles : List (Nat × Nat) := []
  /-- The first and the last of the bytes that stand alone for the syllables of a
  half-width script. -/
  syllables : Nat × Nat := (1, 0)
  regions : List Region
  blanks : List ((Nat × Nat) × Nat)
  /-- Whether two pairs, each of a leading byte and a digit, may write a character. -/
  hasFours : Bool := false

namespace Pairs

def replacement : Nat := 0xFFFD

/-- The code of a byte that stands alone. -/
def single? (charset : Pairs) (a : Nat) : Option Nat :=
  match charset.singles.lookup a with
  | some code => some code
  | none =>
    if a < 0x80 then some a
    else if charset.syllables.1 ≤ a ∧ a ≤ charset.syllables.2 then some (a + 0xFEC0)
    else none

/-- The code of a pair. -/
def pair? (charset : Pairs) (a b : Nat) : Option Nat :=
  if charset.regions.any (·.contains a b) then
    some ((charset.blanks.lookup (a, b)).getD replacement)
  else none

def isDigit (n : Nat) : Bool := 0x30 ≤ n && n ≤ 0x39

/-- The number of a character of four bytes. -/
def fourIndex (a b c d : Nat) : Nat :=
  ((10 * (a - 0x81) + (b - 0x30)) * 126 + (c - 0x81)) * 10 + (d - 0x30)

/-- The blank characters of four bytes, under their numbers. -/
def fourBlanks : List (Nat × Nat) :=
  [(5, 0x85), (32, 0xA0), (5474, 0x1680), (7906, 0x2000), (7907, 0x2001), (7908, 0x2002),
   (7909, 0x2003), (7910, 0x2004), (7911, 0x2005), (7912, 0x2006), (7913, 0x2007), (7914, 0x2008),
   (7915, 0x2009), (7916, 0x200A), (7935, 0x2028), (7936, 0x2029), (7942, 0x202F), (7985, 0x205F)]

/-- The code of a character of four bytes. -/
def four? (a b c d : Nat) : Option Nat :=
  if isDigit b && isDigit d && 0x81 ≤ c && c ≤ 0xFE &&
      ((0x81 ≤ a && a ≤ 0x84) || (0x90 ≤ a && a ≤ 0xE3)) then
    some ((fourBlanks.lookup (fourIndex a b c d)).getD replacement)
  else none

def decode? (charset : Pairs) : List UInt8 → Option (List Nat)
  | [] => some []
  | a :: rest =>
    match charset.single? a.toNat with
    | some code => (decode? charset rest).map (code :: ·)
    | none =>
      match rest with
      | [] => none
      | b :: rest =>
        match charset.pair? a.toNat b.toNat with
        | some code => (decode? charset rest).map (code :: ·)
        | none =>
          match rest with
          | c :: d :: rest =>
            if charset.hasFours then
              (four? a.toNat b.toNat c.toNat d.toNat).bind fun code =>
                (decode? charset rest).map (code :: ·)
            else none
          | _ => none

/-! ### The charsets -/

/-- The blank character of the rows that several standards share. -/
def firstOfRows : (Nat × Nat) × Nat := ((0xA1, 0xA1), 0x3000)

def rows : List Region := [⟨0xA1, 0xFE, 0xA1, 0xFE⟩]

/-- Rows, and half-width syllables behind a byte of their own. -/
def rowsAndSyllables : List Region := ⟨0x8E, 0x8E, 0xA1, 0xDF⟩ :: rows

def big5 : Pairs where
  regions := [⟨0xA1, 0xF9, 0x40, 0x7E⟩, ⟨0xA1, 0xF9, 0xA1, 0xFE⟩]
  blanks := [((0xA1, 0x40), 0x3000)]

def big5Extended : Pairs where
  regions := [⟨0x87, 0xFE, 0x40, 0x7E⟩, ⟨0x87, 0xFE, 0xA1, 0xFE⟩]
  blanks := [((0xA1, 0x40), 0x3000)]

def eucJapan : Pairs where
  regions := rowsAndSyllables
  blanks := [firstOfRows]

def eucJapan2004 : Pairs where
  regions := rowsAndSyllables
  blanks := [firstOfRows, ((0xA9, 0xA2), 0xA0)]

def eucRows : Pairs where
  regions := rows
  blanks := [firstOfRows]

def gbk : Pairs where
  regions := [⟨0x81, 0xFE, 0x40, 0x7E⟩, ⟨0x81, 0xFE, 0x80, 0xFE⟩]
  blanks := [firstOfRows]

def gb18030 : Pairs := { gbk with hasFours := true }

def unifiedHangul : Pairs where
  regions := [⟨0x81, 0xC6, 0x41, 0x5A⟩, ⟨0x81, 0xC6, 0x61, 0x7A⟩, ⟨0x81, 0xFE, 0x81, 0xFE⟩]
  blanks := [firstOfRows]

/-- Here the bits of a pair name the parts of a syllable, and not all parts go together. -/
def johab : Pairs where
  regions := [⟨0x84, 0x84, 0x41, 0xFE⟩, ⟨0x86, 0x9F, 0x41, 0xFE⟩, ⟨0xA0, 0xA0, 0x81, 0x9D⟩,
    ⟨0xA1, 0xD3, 0x41, 0xFE⟩, ⟨0xD8, 0xF9, 0x31, 0xFE⟩]
  blanks := [((0x84, 0x41), 0x3000), ((0xD9, 0x31), 0x3000)]

/-- The second bytes are of two runs. -/
def shifted (leadLow leadHigh : Nat) : List Region :=
  [⟨leadLow, leadHigh, 0x40, 0x7E⟩, ⟨leadLow, leadHigh, 0x80, 0xFC⟩]

def shiftJis : Pairs where
  syllables := (0xA1, 0xDF)
  regions := shifted 0x81 0x84 ++ shifted 0x88 0x9F ++ shifted 0xE0 0xEA
  blanks := [((0x81, 0x40), 0x3000)]

def shiftJis2004 : Pairs where
  singles := [(0x5C, 0xA5), (0x7E, 0x203E)]
  syllables := (0xA1, 0xDF)
  regions := shifted 0x81 0x9F ++ shifted 0xE0 0xFC
  blanks := [((0x81, 0x40), 0x3000), ((0x85, 0x41), 0xA0)]

def shiftJisExtended : Pairs where
  singles := [(0x80, 0x80), (0xA0, 0xF8F0), (0xFD, 0xF8F1), (0xFE, 0xF8F2), (0xFF, 0xF8F3)]
  syllables := (0xA1, 0xDF)
  regions := shifted 0x81 0x84 ++ shifted 0x87 0x9F ++ shifted 0xE0 0xFC
  blanks := [((0x81, 0x40), 0x3000)]

end Pairs

/-!
## Charsets that switch between sets

All bytes are of ASCII.  Escapes choose the set of characters that the bytes behind
them are looked up in, one or two at a time.  Of the characters in the larger sets only
the blank ones are told apart: any other is read as the replacement character.
-/

namespace Switched

/-- A set of characters to look up bytes in. -/
inductive Glyphs where
  | ascii
  /-- Two characters differ from ASCII. -/
  | roman
  | syllables
  /-- Two bytes make a character: the first and the last place of each run that is filled,
  counted row by row, and the blank characters at their places. -/
  | rows (filled : List (Nat × Nat)) (blanks : List (Nat × Nat))
  /-- The characters of the numbers from 128 on, one at a time. -/
  | latin
  /-- As before, but with Greek letters in the upper part. -/
  | greek

/-- Looks up the bytes at the front: the code of a character and what follows it. -/
def Glyphs.read? (glyphs : Glyphs) : List UInt8 → Option (Nat × List UInt8)
  | [] => none
  | a :: rest =>
    let n := a.toNat
    match glyphs with
    | .ascii => some (n, rest)
    | .roman => some (if n = 0x5C then 0xA5 else if n = 0x7E then 0x203E else n, rest)
    | .syllables => if 0x21 ≤ n ∧ n ≤ 0x5F then some (n + 0xFF40, rest) else none
    | .latin => none
    | .greek => none
    | .rows filled blanks =>
      match rest with
      | [] => none
      | b :: rest =>
        let m := b.toNat
        let place := 94 * (n - 0x21) + (m - 0x21)
        if 0x21 ≤ n ∧ n ≤ 0x7E ∧ 0x21 ≤ m ∧ m ≤ 0x7E ∧
            filled.any fun (first, last) => first ≤ place && place ≤ last then
          some ((blanks.lookup place).getD 0xFFFD, rest)
        else none

/-- The codes without a character between those that the Greek set shares with ASCII and
its control characters, and the end of the set. -/
def greekGaps : List Nat := [0xA4, 0xA5, 0xAA, 0xAE, 0xD2, 0xFF]

/-- The code of the character of a byte in the set for single characters.  Not every set
can be used there. -/
def Glyphs.readSingle (glyphs : Glyphs) (b : UInt8) : Except CharsetFault Nat :=
  let n := b.toNat
  match glyphs with
  | .ascii => if n < 0x80 then .ok n else .error .unfit
  | .latin => if n < 0x80 then .ok (n + 0x80) else .error .unfit
  | .greek =>
    let code := if n < 0x80 then n + 0x80 else n - 0x80
    if greekGaps.contains code then .error .unfit
    else .ok (if code ≤ 0xA0 then code else 0xFFFD)
  | _ => .error .failure

/-! ### Escapes -/

/-- What an escape chooses: the set from there on, the set behind the byte that
shifts out, or the set for single characters. -/
inductive Place where
  | direct
  | shifted
  | single
deriving DecidableEq

/-- A charset knows some sets by the letters at the end of their escapes. -/
structure Charset where
  /-- The sets with one byte for a character. -/
  singles : List (Char × Glyphs) := []
  /-- The sets with two bytes for a character. -/
  doubles : List (Char × Glyphs) := []
  /-- The set that is chosen by an escape behind the mark of a revision. -/
  revised : Option Glyphs := none
  /-- Whether there is a set for single characters. -/
  hasSingle : Bool := false
  /-- Whether two control characters shift out of the first set and back. -/
  shifts : Bool := false

/-- The sets of a reader, and whether it has shifted out.  While it is literal it reads
every byte as the character of its own number. -/
structure State where
  direct : Glyphs := .ascii
  shifted : Glyphs := .ascii
  single : Glyphs := .ascii
  isShifted : Bool := false
  isLiteral : Bool := false

def State.choose (state : State) (place : Place) (glyphs : Glyphs) : State :=
  match place with
  | .direct => { state with direct := glyphs }
  | .shifted => { state with shifted := glyphs }
  | .single => { state with single := glyphs }

/-- What may stand between the escape character and the letter of a set, and where the
set is put then. -/
def Charset.fronts (charset : Charset) (isDouble : Bool) : List (String × Place) :=
  if isDouble then [("$", .direct), ("$(", .direct), ("$)", .shifted)]
  else
    [("(", .direct), (")", .shifted)] ++ if charset.hasSingle then [(".", .single)] else []

/-- All escapes of a charset.  ASCII is known to each. -/
def Charset.escapes (charset : Charset) : List (String × Place × Glyphs) :=
  let under (isDouble : Bool) (letter : Char) (glyphs : Glyphs) :=
    (charset.fronts isDouble).map fun (front, place) => (front.push letter, place, glyphs)
  under false 'B' .ascii ++
    charset.singles.flatMap (fun (letter, glyphs) => under false letter glyphs) ++
    charset.doubles.flatMap (fun (letter, glyphs) => under true letter glyphs)

def escape : UInt8 := 0x1B

def shiftOut : UInt8 := 0x0E

def shiftIn : UInt8 := 0x0F

def lineFeed : UInt8 := 0x0A

/-- Whether a byte begins the escape of a set. -/
def beginsEscape (b : UInt8) : Bool := "()$.&".toUTF8.toList.contains b

/-- Whether a byte ends the escape of a set, or one of another kind. -/
def endsEscape (b : UInt8) : Bool := 0x40 ≤ b && b ≤ 0x5A

/-- What follows the mark of a revision and the escape behind it.  Of the mark only the
length matters, as long as it does not end an escape of its own. -/
def behindRevision? : List UInt8 → Option (List UInt8)
  | a :: b :: rest =>
    let isMark := beginsEscape a && (!endsEscape b || [a, b] == "&@".toUTF8.toList)
    let front := escape :: "$B".toUTF8.toList
    if isMark && front.isPrefixOf rest then some (rest.drop front.length) else none
  | _ => none

/-- The escape behind an escape character, and what follows it. -/
def Charset.escape? (charset : Charset) (bytes : List UInt8) :
    Option ((Place × Glyphs) × List UInt8) :=
  let plain := charset.escapes.findSome? fun (name, chosen) =>
    let front := name.toUTF8.toList
    if front.isPrefixOf bytes then some (chosen, bytes.drop front.length) else none
  plain.orElse fun _ => do
    let glyphs ← charset.revised
    return ((.direct, glyphs), ← behindRevision? bytes)

/-! ### Reading -/

/-- The glyphs that a byte is looked up in. -/
def State.glyphsFor (state : State) (a : UInt8) : Glyphs :=
  if a < 0x20 then .ascii else if state.isShifted then state.shifted else state.direct

/-- Reads bytes with so much fuel as there are bytes.  An escape of another kind is
read literally up to its end. -/
def Charset.decodeFrom (charset : Charset) (state : State) :
    Nat → List UInt8 → Except CharsetFault (List Nat)
  | _, [] => .ok []
  | 0, _ => .error .unfit
  | fuel + 1, a :: rest =>
    let write (code : Nat) (state : State) (rest : List UInt8) : Except CharsetFault (List Nat) :=
      (decodeFrom charset state fuel rest).map (code :: ·)
    if state.isLiteral then write a.toNat { state with isLiteral := !endsEscape a } rest
    else if a = escape then
      match charset.escape? rest, rest with
      | some ((place, glyphs), behind), _ =>
        decodeFrom charset (state.choose place glyphs) fuel behind
      | none, [] => .error .unfit
      | none, b :: behind =>
        if beginsEscape b then .error .unfit
        else if charset.hasSingle && b == 0x4E then
          match behind with
          | [] => .error .unfit
          | c :: behind => (state.single.readSingle c).bind (write · state behind)
        else write a.toNat { state with isLiteral := true } rest
    else if charset.shifts && (a == shiftOut || a == shiftIn) then
      decodeFrom charset { state with isShifted := a == shiftOut } fuel rest
    else if 0x80 ≤ a then .error .unfit
    else
      let state := if a = lineFeed then { state with isShifted := false } else state
      match (state.glyphsFor a).read? (a :: rest) with
      | some (code, rest) => write code state rest
      | none => .error .unfit

def Charset.decode (charset : Charset) (bytes : List UInt8) : Except CharsetFault (List Nat) :=
  charset.decodeFrom {} bytes.length bytes

/-! ### The sets with two bytes for a character -/

/-- The blank character at the first place. -/
def wideSpace : Nat × Nat := (0, 0x3000)

def japaneseRows : Glyphs :=
  .rows
    [(0, 107), (119, 126), (135, 141), (153, 167), (175, 182), (187, 187), (203, 212), (220, 245),
     (252, 277), (282, 364), (376, 461), (470, 493), (502, 525), (564, 596), (612, 644),
     (658, 689), (1410, 4374), (4418, 7807)]
    [wideSpace]

def supplementaryRows : Glyphs :=
  .rows
    [(108, 118), (127, 129), (168, 174), (534, 538), (540, 540), (542, 543), (545, 545),
     (550, 561), (597, 609), (645, 657), (752, 753), (755, 755), (757, 757), (759, 760),
     (762, 764), (766, 767), (784, 799), (846, 869), (871, 932), (940, 966), (968, 974),
     (976, 1026), (1410, 7210)]
    []

def koreanRows : Glyphs :=
  .rows
    [(0, 164), (188, 385), (391, 400), (408, 431), (440, 463), (470, 537), (564, 642), (658, 661),
     (663, 663), (665, 672), (674, 928), (940, 1025), (1034, 1066), (1082, 1114), (1410, 3759),
     (3854, 8741)]
    [wideSpace]

def chineseRows : Glyphs :=
  .rows
    [(0, 93), (110, 159), (162, 171), (174, 185), (188, 364), (376, 461), (470, 493), (502, 525),
     (564, 596), (612, 644), (658, 683), (694, 730), (755, 830), (1410, 5164), (5170, 8177)]
    [wideSpace]

/-- The blank characters of the extended rows. -/
def extendedBlanks : List (Nat × Nat) := [wideSpace, (753, 0xA0)]

def extendedRows2000 : Glyphs :=
  .rows
    [(0, 372), (376, 719), (728, 749), (752, 1116), (1126, 1182), (1190, 1206), (1210, 1210),
     (1215, 1216), (1220, 1221), (1223, 1408), (1410, 4374), (4376, 4416), (4418, 7807),
     (7809, 8830)]
    extendedBlanks

def extendedRows2004 : Glyphs :=
  .rows
    [(0, 372), (376, 719), (728, 749), (752, 1116), (1126, 1182), (1190, 1206), (1210, 1210),
     (1215, 1216), (1220, 8835)]
    extendedBlanks

def secondPlane : Glyphs :=
  .rows [(0, 93), (188, 469), (658, 751), (1034, 1409), (7238, 8827)] []

/-! ### The charsets -/

def japan : Charset where
  singles := [('J', .roman)]
  doubles := [('B', japaneseRows), ('@', japaneseRows)]
  revised := some japaneseRows

def japan1 : Charset :=
  { japan with doubles := ('D', supplementaryRows) :: japan.doubles }

def japan2 : Charset :=
  { japan1 with
    singles := ('A', .latin) :: ('F', .greek) :: japan1.singles
    doubles := ('C', koreanRows) :: ('A', chineseRows) :: japan1.doubles
    hasSingle := true }

def japan3 : Charset where
  doubles := [('B', japaneseRows), ('O', extendedRows2000), ('P', secondPlane)]
  revised := some japaneseRows

def japan2004 : Charset where
  doubles := [('B', japaneseRows), ('Q', extendedRows2004), ('P', secondPlane)]
  revised := some japaneseRows

def japanExtended : Charset :=
  { japan1 with singles := ('I', .syllables) :: japan1.singles }

def korea : Charset where
  doubles := [('C', koreanRows)]
  shifts := true

/-! ### Tildes -/

/-- Reads bytes of the charset where a tilde and a brace switch to rows and back. -/
def decodeTildes : Bool → Nat → List UInt8 → Option (List Nat)
  | _, _, [] => some []
  | _, 0, _ => none
  | inRows, fuel + 1, a :: rest =>
    if a = 0x7E then
      match inRows, rest with
      | false, b :: rest =>
        if b = 0x7E then (decodeTildes false fuel rest).map (0x7E :: ·)
        else if b = 0x7B then decodeTildes true fuel rest
        else if b = lineFeed then decodeTildes false fuel rest
        else none
      | true, b :: rest => if b = 0x7D then decodeTildes false fuel rest else none
      | _, [] => none
    else if 0x80 ≤ a then none
    else
      ((if inRows then chineseRows else .ascii).read? (a :: rest)).bind fun (code, rest) =>
        (decodeTildes inRows fuel rest).map (code :: ·)

def decodeTildes? (bytes : List UInt8) : Option (List Nat) :=
  decodeTildes false bytes.length bytes

end Switched

/-!
## UTF-7

A plus sign opens a run of units of sixteen bits, written in base 64; a hyphen, or
any byte that is no digit there, closes it.  Outside of runs every byte of ASCII
is itself, and a plus sign is written with a hyphen behind it.
-/

namespace Utf7

def digit? (n : Nat) : Option Nat :=
  if 0x41 ≤ n ∧ n ≤ 0x5A then some (n - 0x41)
  else if 0x61 ≤ n ∧ n ≤ 0x7A then some (n - 0x47)
  else if 0x30 ≤ n ∧ n ≤ 0x39 then some (n + 4)
  else if n = 0x2B then some 62
  else if n = 0x2F then some 63
  else none

/-- Outside of runs, right behind a plus sign, or inside a run: with the bits that
are no unit yet and half of a pair that waits for the other half. -/
inductive Mode where
  | direct
  | opened
  | run (bits count : Nat) (high : Option Nat)

/-- A unit is written: it may complete a pair. -/
def emit (high : Option Nat) (unit : Nat) : List Nat × Option Nat :=
  match high with
  | some first =>
    if isLowSurrogate unit then ([joinSurrogates first unit], none)
    else if isHighSurrogate unit then ([first], some unit)
    else ([unit, first], none)
  | none => if isHighSurrogate unit then ([], some unit) else ([unit], none)

/-- A run goes on with a digit. -/
def push (bits count : Nat) (high : Option Nat) (digit : Nat) : List Nat × Mode :=
  let bits := 64 * bits + digit
  let count := count + 6
  if count < 16 then ([], .run bits count high)
  else
    let place := Nat.pow 2 (count - 16)
    let (written, high) := emit high (bits / place)
    (written, .run (bits % place) (count - 16) high)

/-- Reads a byte outside of runs. -/
def start? (n : Nat) : Option (List Nat × Mode) :=
  if n = 0x2B then some ([], .opened)
  else if n < 0x80 then some ([n], .direct)
  else none

/-- Whether the bits left over at the end of a run are padding. -/
def isPadding (bits count : Nat) : Bool := count < 6 && bits == 0

/-- Reads a byte: the codes that are written, last one first, and the new mode; none
if it does not fit. -/
def Mode.read? (mode : Mode) (n : Nat) : Option (List Nat × Mode) :=
  match mode with
  | .direct => start? n
  | .opened =>
    if n = 0x2D then some ([0x2B], .direct)
    else (digit? n).map (push 0 0 none)
  | .run bits count high =>
    match digit? n with
    | some digit => some (push bits count high digit)
    | none =>
      if !isPadding bits count then none
      else
        let kept := high.toList
        if n = 0x2D then some (kept, .direct)
        else (start? n).map fun (written, mode) => (written ++ kept, mode)

def Mode.canEnd : Mode → Bool
  | .direct => true
  | .opened => true
  | .run bits count high => isPadding bits count && high.isNone

def decode? (bytes : List UInt8) : Option (List Nat) := do
  let (written, mode) ← bytes.foldlM
    (fun (written, mode) b => do
      let (new, mode) ← Mode.read? mode b.toNat
      return (new ++ written, mode))
    (([] : List Nat), Mode.direct)
  if mode.canEnd then some written.reverse else none

end Utf7
end Text
end Tabletop
