import Tabletop.Text.CharacterName.Table

/-!
# Names of characters

Every character of a script has a name, and some have others beside it.  The names of
ideographs and of syllables follow a rule, and all others are listed.
-/

namespace Tabletop
namespace Text
namespace CharacterName

/-! ## Listed names -/

/-- The names that are written behind one whose letters are reversed.  `dropped` letters of
it go before the next is read. -/
def readNames (reversed : List Char) (dropped : Option Nat) : List Char → List (List Char)
  | [] => [reversed.reverse]
  | c :: cs =>
    if c.isLower then
      let found := if dropped.isNone then [reversed.reverse] else []
      found ++ readNames reversed (some (26 * dropped.getD 0 + (c.toNat - 'a'.toNat))) cs
    else readNames (c :: reversed.drop (dropped.getD 0)) none cs

/-- The names of a group, sorted. -/
def namesOf (first others : String) : List (List Char) :=
  readNames first.toList.reverse none others.toList

/-- Whether a name is listed; letters count as capitals.  It can only be in the last of the
groups that begin with it or before it. -/
def isListed (name : List Char) : Bool :=
  let name := name.map Char.toUpper
  let reached := groups.takeWhile fun (first, _) => first ≤ String.ofList name
  reached.getLast?.any fun (first, others) => (namesOf first others).contains name

/-! ## Names by rule -/

/-- The value of a number in hexadecimal digits, letters in capitals. -/
def hexValue? (cs : List Char) : Option Nat :=
  cs.foldlM (fun value c =>
    if '0' ≤ c ∧ c ≤ '9' then some (16 * value + (c.toNat - 0x30))
    else if 'A' ≤ c ∧ c ≤ 'F' then some (16 * value + (c.toNat - 0x37))
    else none) 0

/-- The first and the last ideographs of each block. -/
def ideographs : List (Nat × Nat) :=
  [(0x3400, 0x4DBF), (0x4E00, 0x9FFF), (0x20000, 0x2A6DF), (0x2A700, 0x2B738), (0x2B740, 0x2B81D),
   (0x2B820, 0x2CEA1), (0x2CEB0, 0x2EBE0), (0x30000, 0x3134A)]

/-- Whether a text is the code of an ideograph, in four digits or five. -/
def isIdeograph (cs : List Char) : Bool :=
  (cs.length == 4 || cs.length == 5) &&
    (hexValue? cs).any fun n => ideographs.any fun (first, last) => first ≤ n && n ≤ last

/-- How the sounds in front of the vowel of a syllable are written. -/
def leads : List String :=
  ["G", "GG", "N", "D", "DD", "R", "M", "B", "BB", "S", "SS", "", "J", "JJ", "C", "K", "T", "P",
   "H"]

def vowels : List String :=
  ["A", "AE", "YA", "YAE", "EO", "E", "YEO", "YE", "O", "WA", "WAE", "OE", "YO", "U", "WEO",
   "WE", "WI", "YU", "EU", "YI", "I"]

/-- How the sounds behind the vowel of a syllable are written. -/
def finals : List String :=
  ["", "G", "GG", "GS", "N", "NJ", "NH", "D", "L", "LG", "LM", "LB", "LS", "LT", "LP", "LH", "M",
   "B", "BS", "S", "SS", "NG", "J", "C", "K", "T", "P", "H"]

def isVowelLetter (c : Char) : Bool := "AEIOUWY".toList.contains c

/-- Whether a text writes a syllable. -/
def isSyllable (cs : List Char) : Bool :=
  let lead := cs.takeWhile (!isVowelLetter ·)
  let rest := cs.drop lead.length
  let vowel := rest.takeWhile isVowelLetter
  leads.contains (String.ofList lead) && vowels.contains (String.ofList vowel) &&
    finals.contains (String.ofList (rest.drop vowel.length))

/-- The beginnings of names that follow a rule, each with the rule for the rest. -/
def rules : List (String × (List Char → Bool)) :=
  [("CJK UNIFIED IDEOGRAPH-", isIdeograph), ("HANGUL SYLLABLE ", isSyllable)]

/-- Whether a text is the name of a character.  Case matters only in names by rule. -/
def isName (name : List Char) : Bool :=
  match rules.find? fun (front, _) => front.toList.isPrefixOf name with
  | some (front, rule) => rule (name.drop front.length)
  | none => isListed name

end CharacterName
end Text
end Tabletop
