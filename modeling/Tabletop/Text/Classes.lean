/-!
# Classes of characters

Which characters are digits or marks, of which script a character is, which way it runs, and
which letters join.
-/

namespace Tabletop
namespace Text

/-!
## Runs of codes

A class of characters is written as the runs of its codes.  In a run every code
belongs to the class, or every second one, as capitals and small letters alternate.
-/

/-- The codes `first`, `first + step`, … up to `last`. -/
structure Run where
  first : Nat
  last : Nat
  step : Nat

def Run.contains (run : Run) (n : Nat) : Bool :=
  run.first ≤ n && n ≤ run.last && (n - run.first) % run.step == 0

/-- Whether a code is in one of some runs. -/
def inRuns (runs : List Run) (n : Nat) : Bool := runs.any (·.contains n)

/-- A run of letters whose counterparts in the other case lie `shift` further on. -/
structure CaseRun where
  run : Run
  shift : Int

/-- The code of the counterpart of a letter. -/
def counterpart? (runs : List CaseRun) (n : Nat) : Option Nat :=
  (runs.find? (·.run.contains n)).map fun found => ((n : Int) + found.shift).toNat

/-!
## Decimal digits

Many scripts have digits of their own.  Ten codes in a row are the digits from zero to
nine.
-/

namespace Digit

/-- The digits of value zero. -/
def zeros : List Nat := [
  0x0030, 0x0660, 0x06F0, 0x07C0, 0x0966, 0x09E6, 0x0A66, 0x0AE6, 0x0B66, 0x0BE6, 0x0C66, 0x0CE6,
  0x0D66, 0x0DE6, 0x0E50, 0x0ED0, 0x0F20, 0x1040, 0x1090, 0x17E0, 0x1810, 0x1946, 0x19D0, 0x1A80,
  0x1A90, 0x1B50, 0x1BB0, 0x1C40, 0x1C50, 0xA620, 0xA8D0, 0xA900, 0xA9D0, 0xA9F0, 0xAA50, 0xABF0,
  0xFF10, 0x104A0, 0x10D30, 0x11066, 0x110F0, 0x11136, 0x111D0, 0x112F0, 0x11450, 0x114D0,
  0x11650, 0x116C0, 0x11730, 0x118E0, 0x11950, 0x11C50, 0x11D50, 0x11DA0, 0x16A60, 0x16AC0,
  0x16B50, 0x1D7CE, 0x1D7D8, 0x1D7E2, 0x1D7EC, 0x1D7F6, 0x1E140, 0x1E2F0, 0x1E950, 0x1FBF0]

/-- The value of a digit of any script. -/
def value? (c : Char) : Option Nat :=
  (zeros.find? fun start => start ≤ c.toNat && c.toNat < start + 10).map (c.toNat - ·)

/-- A digit of any script as one of ASCII; any other character stays. -/
def plain (c : Char) : Char :=
  ((value? c).map fun value => Char.ofNat ('0'.toNat + value)).getD c

end Digit

/-!
## Marks

A mark belongs to the character in front of it.
-/

namespace Mark

/-- The marks that take no space of their own. -/
def nonspacing : List Run := [
  ⟨0x0300, 0x036F, 1⟩, ⟨0x0483, 0x0489, 1⟩, ⟨0x0591, 0x05BD, 1⟩, ⟨0x05BF, 0x05BF, 1⟩,
  ⟨0x05C1, 0x05C2, 1⟩, ⟨0x05C4, 0x05C5, 1⟩, ⟨0x05C7, 0x05C7, 1⟩, ⟨0x0610, 0x061A, 1⟩,
  ⟨0x064B, 0x065F, 1⟩, ⟨0x0670, 0x0670, 1⟩, ⟨0x06D6, 0x06DC, 1⟩, ⟨0x06DF, 0x06E4, 1⟩,
  ⟨0x06E7, 0x06E8, 1⟩, ⟨0x06EA, 0x06ED, 1⟩, ⟨0x0711, 0x0711, 1⟩, ⟨0x0730, 0x074A, 1⟩,
  ⟨0x07A6, 0x07B0, 1⟩, ⟨0x07EB, 0x07F3, 1⟩, ⟨0x07FD, 0x07FD, 1⟩, ⟨0x0816, 0x0819, 1⟩,
  ⟨0x081B, 0x0823, 1⟩, ⟨0x0825, 0x0827, 1⟩, ⟨0x0829, 0x082D, 1⟩, ⟨0x0859, 0x085B, 1⟩,
  ⟨0x0898, 0x089F, 1⟩, ⟨0x08CA, 0x08E1, 1⟩, ⟨0x08E3, 0x0902, 1⟩, ⟨0x093A, 0x093C, 2⟩,
  ⟨0x0941, 0x0948, 1⟩, ⟨0x094D, 0x094D, 1⟩, ⟨0x0951, 0x0957, 1⟩, ⟨0x0962, 0x0963, 1⟩,
  ⟨0x0981, 0x0981, 1⟩, ⟨0x09BC, 0x09BC, 1⟩, ⟨0x09C1, 0x09C4, 1⟩, ⟨0x09CD, 0x09CD, 1⟩,
  ⟨0x09E2, 0x09E3, 1⟩, ⟨0x09FE, 0x09FE, 1⟩, ⟨0x0A01, 0x0A02, 1⟩, ⟨0x0A3C, 0x0A3C, 1⟩,
  ⟨0x0A41, 0x0A42, 1⟩, ⟨0x0A47, 0x0A48, 1⟩, ⟨0x0A4B, 0x0A4D, 1⟩, ⟨0x0A51, 0x0A51, 1⟩,
  ⟨0x0A70, 0x0A71, 1⟩, ⟨0x0A75, 0x0A75, 1⟩, ⟨0x0A81, 0x0A82, 1⟩, ⟨0x0ABC, 0x0ABC, 1⟩,
  ⟨0x0AC1, 0x0AC5, 1⟩, ⟨0x0AC7, 0x0AC8, 1⟩, ⟨0x0ACD, 0x0ACD, 1⟩, ⟨0x0AE2, 0x0AE3, 1⟩,
  ⟨0x0AFA, 0x0AFF, 1⟩, ⟨0x0B01, 0x0B01, 1⟩, ⟨0x0B3C, 0x0B3C, 1⟩, ⟨0x0B3F, 0x0B3F, 1⟩,
  ⟨0x0B41, 0x0B44, 1⟩, ⟨0x0B4D, 0x0B4D, 1⟩, ⟨0x0B55, 0x0B56, 1⟩, ⟨0x0B62, 0x0B63, 1⟩,
  ⟨0x0B82, 0x0B82, 1⟩, ⟨0x0BC0, 0x0BC0, 1⟩, ⟨0x0BCD, 0x0BCD, 1⟩, ⟨0x0C00, 0x0C00, 1⟩,
  ⟨0x0C04, 0x0C04, 1⟩, ⟨0x0C3C, 0x0C3C, 1⟩, ⟨0x0C3E, 0x0C40, 1⟩, ⟨0x0C46, 0x0C48, 1⟩,
  ⟨0x0C4A, 0x0C4D, 1⟩, ⟨0x0C55, 0x0C56, 1⟩, ⟨0x0C62, 0x0C63, 1⟩, ⟨0x0C81, 0x0C81, 1⟩,
  ⟨0x0CBC, 0x0CBC, 1⟩, ⟨0x0CBF, 0x0CBF, 1⟩, ⟨0x0CC6, 0x0CC6, 1⟩, ⟨0x0CCC, 0x0CCD, 1⟩,
  ⟨0x0CE2, 0x0CE3, 1⟩, ⟨0x0D00, 0x0D01, 1⟩, ⟨0x0D3B, 0x0D3C, 1⟩, ⟨0x0D41, 0x0D44, 1⟩,
  ⟨0x0D4D, 0x0D4D, 1⟩, ⟨0x0D62, 0x0D63, 1⟩, ⟨0x0D81, 0x0D81, 1⟩, ⟨0x0DCA, 0x0DCA, 1⟩,
  ⟨0x0DD2, 0x0DD4, 1⟩, ⟨0x0DD6, 0x0DD6, 1⟩, ⟨0x0E31, 0x0E31, 1⟩, ⟨0x0E34, 0x0E3A, 1⟩,
  ⟨0x0E47, 0x0E4E, 1⟩, ⟨0x0EB1, 0x0EB1, 1⟩, ⟨0x0EB4, 0x0EBC, 1⟩, ⟨0x0EC8, 0x0ECD, 1⟩,
  ⟨0x0F18, 0x0F19, 1⟩, ⟨0x0F35, 0x0F39, 2⟩, ⟨0x0F71, 0x0F7E, 1⟩, ⟨0x0F80, 0x0F84, 1⟩,
  ⟨0x0F86, 0x0F87, 1⟩, ⟨0x0F8D, 0x0F97, 1⟩, ⟨0x0F99, 0x0FBC, 1⟩, ⟨0x0FC6, 0x0FC6, 1⟩,
  ⟨0x102D, 0x1030, 1⟩, ⟨0x1032, 0x1037, 1⟩, ⟨0x1039, 0x103A, 1⟩, ⟨0x103D, 0x103E, 1⟩,
  ⟨0x1058, 0x1059, 1⟩, ⟨0x105E, 0x1060, 1⟩, ⟨0x1071, 0x1074, 1⟩, ⟨0x1082, 0x1082, 1⟩,
  ⟨0x1085, 0x1086, 1⟩, ⟨0x108D, 0x108D, 1⟩, ⟨0x109D, 0x109D, 1⟩, ⟨0x135D, 0x135F, 1⟩,
  ⟨0x1712, 0x1714, 1⟩, ⟨0x1732, 0x1733, 1⟩, ⟨0x1752, 0x1753, 1⟩, ⟨0x1772, 0x1773, 1⟩,
  ⟨0x17B4, 0x17B5, 1⟩, ⟨0x17B7, 0x17BD, 1⟩, ⟨0x17C6, 0x17C6, 1⟩, ⟨0x17C9, 0x17D3, 1⟩,
  ⟨0x17DD, 0x17DD, 1⟩, ⟨0x180B, 0x180D, 1⟩, ⟨0x180F, 0x180F, 1⟩, ⟨0x1885, 0x1886, 1⟩,
  ⟨0x18A9, 0x18A9, 1⟩, ⟨0x1920, 0x1922, 1⟩, ⟨0x1927, 0x1928, 1⟩, ⟨0x1932, 0x1932, 1⟩,
  ⟨0x1939, 0x193B, 1⟩, ⟨0x1A17, 0x1A18, 1⟩, ⟨0x1A1B, 0x1A1B, 1⟩, ⟨0x1A56, 0x1A56, 1⟩,
  ⟨0x1A58, 0x1A5E, 1⟩, ⟨0x1A60, 0x1A62, 2⟩, ⟨0x1A65, 0x1A6C, 1⟩, ⟨0x1A73, 0x1A7C, 1⟩,
  ⟨0x1A7F, 0x1A7F, 1⟩, ⟨0x1AB0, 0x1ACE, 1⟩, ⟨0x1B00, 0x1B03, 1⟩, ⟨0x1B34, 0x1B34, 1⟩,
  ⟨0x1B36, 0x1B3A, 1⟩, ⟨0x1B3C, 0x1B3C, 1⟩, ⟨0x1B42, 0x1B42, 1⟩, ⟨0x1B6B, 0x1B73, 1⟩,
  ⟨0x1B80, 0x1B81, 1⟩, ⟨0x1BA2, 0x1BA5, 1⟩, ⟨0x1BA8, 0x1BA9, 1⟩, ⟨0x1BAB, 0x1BAD, 1⟩,
  ⟨0x1BE6, 0x1BE6, 1⟩, ⟨0x1BE8, 0x1BE9, 1⟩, ⟨0x1BED, 0x1BED, 1⟩, ⟨0x1BEF, 0x1BF1, 1⟩,
  ⟨0x1C2C, 0x1C33, 1⟩, ⟨0x1C36, 0x1C37, 1⟩, ⟨0x1CD0, 0x1CD2, 1⟩, ⟨0x1CD4, 0x1CE0, 1⟩,
  ⟨0x1CE2, 0x1CE8, 1⟩, ⟨0x1CED, 0x1CED, 1⟩, ⟨0x1CF4, 0x1CF4, 1⟩, ⟨0x1CF8, 0x1CF9, 1⟩,
  ⟨0x1DC0, 0x1DFF, 1⟩, ⟨0x20D0, 0x20F0, 1⟩, ⟨0x2CEF, 0x2CF1, 1⟩, ⟨0x2D7F, 0x2D7F, 1⟩,
  ⟨0x2DE0, 0x2DFF, 1⟩, ⟨0x302A, 0x302D, 1⟩, ⟨0x3099, 0x309A, 1⟩, ⟨0xA66F, 0xA672, 1⟩,
  ⟨0xA674, 0xA67D, 1⟩, ⟨0xA69E, 0xA69F, 1⟩, ⟨0xA6F0, 0xA6F1, 1⟩, ⟨0xA802, 0xA802, 1⟩,
  ⟨0xA806, 0xA806, 1⟩, ⟨0xA80B, 0xA80B, 1⟩, ⟨0xA825, 0xA826, 1⟩, ⟨0xA82C, 0xA82C, 1⟩,
  ⟨0xA8C4, 0xA8C5, 1⟩, ⟨0xA8E0, 0xA8F1, 1⟩, ⟨0xA8FF, 0xA8FF, 1⟩, ⟨0xA926, 0xA92D, 1⟩,
  ⟨0xA947, 0xA951, 1⟩, ⟨0xA980, 0xA982, 1⟩, ⟨0xA9B3, 0xA9B3, 1⟩, ⟨0xA9B6, 0xA9B9, 1⟩,
  ⟨0xA9BC, 0xA9BD, 1⟩, ⟨0xA9E5, 0xA9E5, 1⟩, ⟨0xAA29, 0xAA2E, 1⟩, ⟨0xAA31, 0xAA32, 1⟩,
  ⟨0xAA35, 0xAA36, 1⟩, ⟨0xAA43, 0xAA43, 1⟩, ⟨0xAA4C, 0xAA4C, 1⟩, ⟨0xAA7C, 0xAA7C, 1⟩,
  ⟨0xAAB0, 0xAAB0, 1⟩, ⟨0xAAB2, 0xAAB4, 1⟩, ⟨0xAAB7, 0xAAB8, 1⟩, ⟨0xAABE, 0xAABF, 1⟩,
  ⟨0xAAC1, 0xAAC1, 1⟩, ⟨0xAAEC, 0xAAED, 1⟩, ⟨0xAAF6, 0xAAF6, 1⟩, ⟨0xABE5, 0xABE5, 1⟩,
  ⟨0xABE8, 0xABE8, 1⟩, ⟨0xABED, 0xABED, 1⟩, ⟨0xFB1E, 0xFB1E, 1⟩, ⟨0xFE00, 0xFE0F, 1⟩,
  ⟨0xFE20, 0xFE2F, 1⟩, ⟨0x101FD, 0x101FD, 1⟩, ⟨0x102E0, 0x102E0, 1⟩, ⟨0x10376, 0x1037A, 1⟩,
  ⟨0x10A01, 0x10A03, 1⟩, ⟨0x10A05, 0x10A06, 1⟩, ⟨0x10A0C, 0x10A0F, 1⟩, ⟨0x10A38, 0x10A3A, 1⟩,
  ⟨0x10A3F, 0x10A3F, 1⟩, ⟨0x10AE5, 0x10AE6, 1⟩, ⟨0x10D24, 0x10D27, 1⟩, ⟨0x10EAB, 0x10EAC, 1⟩,
  ⟨0x10F46, 0x10F50, 1⟩, ⟨0x10F82, 0x10F85, 1⟩, ⟨0x11001, 0x11001, 1⟩, ⟨0x11038, 0x11046, 1⟩,
  ⟨0x11070, 0x11070, 1⟩, ⟨0x11073, 0x11074, 1⟩, ⟨0x1107F, 0x11081, 1⟩, ⟨0x110B3, 0x110B6, 1⟩,
  ⟨0x110B9, 0x110BA, 1⟩, ⟨0x110C2, 0x110C2, 1⟩, ⟨0x11100, 0x11102, 1⟩, ⟨0x11127, 0x1112B, 1⟩,
  ⟨0x1112D, 0x11134, 1⟩, ⟨0x11173, 0x11173, 1⟩, ⟨0x11180, 0x11181, 1⟩, ⟨0x111B6, 0x111BE, 1⟩,
  ⟨0x111C9, 0x111CC, 1⟩, ⟨0x111CF, 0x111CF, 1⟩, ⟨0x1122F, 0x11231, 1⟩, ⟨0x11234, 0x11234, 1⟩,
  ⟨0x11236, 0x11237, 1⟩, ⟨0x1123E, 0x1123E, 1⟩, ⟨0x112DF, 0x112DF, 1⟩, ⟨0x112E3, 0x112EA, 1⟩,
  ⟨0x11300, 0x11301, 1⟩, ⟨0x1133B, 0x1133C, 1⟩, ⟨0x11340, 0x11340, 1⟩, ⟨0x11366, 0x1136C, 1⟩,
  ⟨0x11370, 0x11374, 1⟩, ⟨0x11438, 0x1143F, 1⟩, ⟨0x11442, 0x11444, 1⟩, ⟨0x11446, 0x11446, 1⟩,
  ⟨0x1145E, 0x1145E, 1⟩, ⟨0x114B3, 0x114B8, 1⟩, ⟨0x114BA, 0x114BA, 1⟩, ⟨0x114BF, 0x114C0, 1⟩,
  ⟨0x114C2, 0x114C3, 1⟩, ⟨0x115B2, 0x115B5, 1⟩, ⟨0x115BC, 0x115BD, 1⟩, ⟨0x115BF, 0x115C0, 1⟩,
  ⟨0x115DC, 0x115DD, 1⟩, ⟨0x11633, 0x1163A, 1⟩, ⟨0x1163D, 0x1163D, 1⟩, ⟨0x1163F, 0x11640, 1⟩,
  ⟨0x116AB, 0x116AD, 2⟩, ⟨0x116B0, 0x116B5, 1⟩, ⟨0x116B7, 0x116B7, 1⟩, ⟨0x1171D, 0x1171F, 1⟩,
  ⟨0x11722, 0x11725, 1⟩, ⟨0x11727, 0x1172B, 1⟩, ⟨0x1182F, 0x11837, 1⟩, ⟨0x11839, 0x1183A, 1⟩,
  ⟨0x1193B, 0x1193C, 1⟩, ⟨0x1193E, 0x1193E, 1⟩, ⟨0x11943, 0x11943, 1⟩, ⟨0x119D4, 0x119D7, 1⟩,
  ⟨0x119DA, 0x119DB, 1⟩, ⟨0x119E0, 0x119E0, 1⟩, ⟨0x11A01, 0x11A0A, 1⟩, ⟨0x11A33, 0x11A38, 1⟩,
  ⟨0x11A3B, 0x11A3E, 1⟩, ⟨0x11A47, 0x11A47, 1⟩, ⟨0x11A51, 0x11A56, 1⟩, ⟨0x11A59, 0x11A5B, 1⟩,
  ⟨0x11A8A, 0x11A96, 1⟩, ⟨0x11A98, 0x11A99, 1⟩, ⟨0x11C30, 0x11C36, 1⟩, ⟨0x11C38, 0x11C3D, 1⟩,
  ⟨0x11C3F, 0x11C3F, 1⟩, ⟨0x11C92, 0x11CA7, 1⟩, ⟨0x11CAA, 0x11CB0, 1⟩, ⟨0x11CB2, 0x11CB3, 1⟩,
  ⟨0x11CB5, 0x11CB6, 1⟩, ⟨0x11D31, 0x11D36, 1⟩, ⟨0x11D3A, 0x11D3A, 1⟩, ⟨0x11D3C, 0x11D3D, 1⟩,
  ⟨0x11D3F, 0x11D45, 1⟩, ⟨0x11D47, 0x11D47, 1⟩, ⟨0x11D90, 0x11D91, 1⟩, ⟨0x11D95, 0x11D97, 2⟩,
  ⟨0x11EF3, 0x11EF4, 1⟩, ⟨0x16AF0, 0x16AF4, 1⟩, ⟨0x16B30, 0x16B36, 1⟩, ⟨0x16F4F, 0x16F4F, 1⟩,
  ⟨0x16F8F, 0x16F92, 1⟩, ⟨0x16FE4, 0x16FE4, 1⟩, ⟨0x1BC9D, 0x1BC9E, 1⟩, ⟨0x1CF00, 0x1CF2D, 1⟩,
  ⟨0x1CF30, 0x1CF46, 1⟩, ⟨0x1D167, 0x1D169, 1⟩, ⟨0x1D17B, 0x1D182, 1⟩, ⟨0x1D185, 0x1D18B, 1⟩,
  ⟨0x1D1AA, 0x1D1AD, 1⟩, ⟨0x1D242, 0x1D244, 1⟩, ⟨0x1DA00, 0x1DA36, 1⟩, ⟨0x1DA3B, 0x1DA6C, 1⟩,
  ⟨0x1DA75, 0x1DA75, 1⟩, ⟨0x1DA84, 0x1DA84, 1⟩, ⟨0x1DA9B, 0x1DA9F, 1⟩, ⟨0x1DAA1, 0x1DAAF, 1⟩,
  ⟨0x1E000, 0x1E006, 1⟩, ⟨0x1E008, 0x1E018, 1⟩, ⟨0x1E01B, 0x1E021, 1⟩, ⟨0x1E023, 0x1E024, 1⟩,
  ⟨0x1E026, 0x1E02A, 1⟩, ⟨0x1E130, 0x1E136, 1⟩, ⟨0x1E2AE, 0x1E2AE, 1⟩, ⟨0x1E2EC, 0x1E2EF, 1⟩,
  ⟨0x1E8D0, 0x1E8D6, 1⟩, ⟨0x1E944, 0x1E94A, 1⟩, ⟨0xE0100, 0xE01EF, 1⟩]

def spacing : List Run := [
  ⟨0x0903, 0x0903, 1⟩, ⟨0x093B, 0x093B, 1⟩, ⟨0x093E, 0x0940, 1⟩, ⟨0x0949, 0x094C, 1⟩,
  ⟨0x094E, 0x094F, 1⟩, ⟨0x0982, 0x0983, 1⟩, ⟨0x09BE, 0x09C0, 1⟩, ⟨0x09C7, 0x09C8, 1⟩,
  ⟨0x09CB, 0x09CC, 1⟩, ⟨0x09D7, 0x09D7, 1⟩, ⟨0x0A03, 0x0A03, 1⟩, ⟨0x0A3E, 0x0A40, 1⟩,
  ⟨0x0A83, 0x0A83, 1⟩, ⟨0x0ABE, 0x0AC0, 1⟩, ⟨0x0AC9, 0x0AC9, 1⟩, ⟨0x0ACB, 0x0ACC, 1⟩,
  ⟨0x0B02, 0x0B03, 1⟩, ⟨0x0B3E, 0x0B40, 2⟩, ⟨0x0B47, 0x0B48, 1⟩, ⟨0x0B4B, 0x0B4C, 1⟩,
  ⟨0x0B57, 0x0B57, 1⟩, ⟨0x0BBE, 0x0BBF, 1⟩, ⟨0x0BC1, 0x0BC2, 1⟩, ⟨0x0BC6, 0x0BC8, 1⟩,
  ⟨0x0BCA, 0x0BCC, 1⟩, ⟨0x0BD7, 0x0BD7, 1⟩, ⟨0x0C01, 0x0C03, 1⟩, ⟨0x0C41, 0x0C44, 1⟩,
  ⟨0x0C82, 0x0C83, 1⟩, ⟨0x0CBE, 0x0CBE, 1⟩, ⟨0x0CC0, 0x0CC4, 1⟩, ⟨0x0CC7, 0x0CC8, 1⟩,
  ⟨0x0CCA, 0x0CCB, 1⟩, ⟨0x0CD5, 0x0CD6, 1⟩, ⟨0x0D02, 0x0D03, 1⟩, ⟨0x0D3E, 0x0D40, 1⟩,
  ⟨0x0D46, 0x0D48, 1⟩, ⟨0x0D4A, 0x0D4C, 1⟩, ⟨0x0D57, 0x0D57, 1⟩, ⟨0x0D82, 0x0D83, 1⟩,
  ⟨0x0DCF, 0x0DD1, 1⟩, ⟨0x0DD8, 0x0DDF, 1⟩, ⟨0x0DF2, 0x0DF3, 1⟩, ⟨0x0F3E, 0x0F3F, 1⟩,
  ⟨0x0F7F, 0x0F7F, 1⟩, ⟨0x102B, 0x102C, 1⟩, ⟨0x1031, 0x1031, 1⟩, ⟨0x1038, 0x1038, 1⟩,
  ⟨0x103B, 0x103C, 1⟩, ⟨0x1056, 0x1057, 1⟩, ⟨0x1062, 0x1064, 1⟩, ⟨0x1067, 0x106D, 1⟩,
  ⟨0x1083, 0x1084, 1⟩, ⟨0x1087, 0x108C, 1⟩, ⟨0x108F, 0x108F, 1⟩, ⟨0x109A, 0x109C, 1⟩,
  ⟨0x1715, 0x1715, 1⟩, ⟨0x1734, 0x1734, 1⟩, ⟨0x17B6, 0x17B6, 1⟩, ⟨0x17BE, 0x17C5, 1⟩,
  ⟨0x17C7, 0x17C8, 1⟩, ⟨0x1923, 0x1926, 1⟩, ⟨0x1929, 0x192B, 1⟩, ⟨0x1930, 0x1931, 1⟩,
  ⟨0x1933, 0x1938, 1⟩, ⟨0x1A19, 0x1A1A, 1⟩, ⟨0x1A55, 0x1A57, 2⟩, ⟨0x1A61, 0x1A61, 1⟩,
  ⟨0x1A63, 0x1A64, 1⟩, ⟨0x1A6D, 0x1A72, 1⟩, ⟨0x1B04, 0x1B04, 1⟩, ⟨0x1B35, 0x1B35, 1⟩,
  ⟨0x1B3B, 0x1B3B, 1⟩, ⟨0x1B3D, 0x1B41, 1⟩, ⟨0x1B43, 0x1B44, 1⟩, ⟨0x1B82, 0x1B82, 1⟩,
  ⟨0x1BA1, 0x1BA1, 1⟩, ⟨0x1BA6, 0x1BA7, 1⟩, ⟨0x1BAA, 0x1BAA, 1⟩, ⟨0x1BE7, 0x1BE7, 1⟩,
  ⟨0x1BEA, 0x1BEC, 1⟩, ⟨0x1BEE, 0x1BEE, 1⟩, ⟨0x1BF2, 0x1BF3, 1⟩, ⟨0x1C24, 0x1C2B, 1⟩,
  ⟨0x1C34, 0x1C35, 1⟩, ⟨0x1CE1, 0x1CE1, 1⟩, ⟨0x1CF7, 0x1CF7, 1⟩, ⟨0x302E, 0x302F, 1⟩,
  ⟨0xA823, 0xA824, 1⟩, ⟨0xA827, 0xA827, 1⟩, ⟨0xA880, 0xA881, 1⟩, ⟨0xA8B4, 0xA8C3, 1⟩,
  ⟨0xA952, 0xA953, 1⟩, ⟨0xA983, 0xA983, 1⟩, ⟨0xA9B4, 0xA9B5, 1⟩, ⟨0xA9BA, 0xA9BB, 1⟩,
  ⟨0xA9BE, 0xA9C0, 1⟩, ⟨0xAA2F, 0xAA30, 1⟩, ⟨0xAA33, 0xAA34, 1⟩, ⟨0xAA4D, 0xAA4D, 1⟩,
  ⟨0xAA7B, 0xAA7D, 2⟩, ⟨0xAAEB, 0xAAEB, 1⟩, ⟨0xAAEE, 0xAAEF, 1⟩, ⟨0xAAF5, 0xAAF5, 1⟩,
  ⟨0xABE3, 0xABE4, 1⟩, ⟨0xABE6, 0xABE7, 1⟩, ⟨0xABE9, 0xABEA, 1⟩, ⟨0xABEC, 0xABEC, 1⟩,
  ⟨0x11000, 0x11002, 2⟩, ⟨0x11082, 0x11082, 1⟩, ⟨0x110B0, 0x110B2, 1⟩, ⟨0x110B7, 0x110B8, 1⟩,
  ⟨0x1112C, 0x1112C, 1⟩, ⟨0x11145, 0x11146, 1⟩, ⟨0x11182, 0x11182, 1⟩, ⟨0x111B3, 0x111B5, 1⟩,
  ⟨0x111BF, 0x111C0, 1⟩, ⟨0x111CE, 0x111CE, 1⟩, ⟨0x1122C, 0x1122E, 1⟩, ⟨0x11232, 0x11233, 1⟩,
  ⟨0x11235, 0x11235, 1⟩, ⟨0x112E0, 0x112E2, 1⟩, ⟨0x11302, 0x11303, 1⟩, ⟨0x1133E, 0x1133F, 1⟩,
  ⟨0x11341, 0x11344, 1⟩, ⟨0x11347, 0x11348, 1⟩, ⟨0x1134B, 0x1134D, 1⟩, ⟨0x11357, 0x11357, 1⟩,
  ⟨0x11362, 0x11363, 1⟩, ⟨0x11435, 0x11437, 1⟩, ⟨0x11440, 0x11441, 1⟩, ⟨0x11445, 0x11445, 1⟩,
  ⟨0x114B0, 0x114B2, 1⟩, ⟨0x114B9, 0x114B9, 1⟩, ⟨0x114BB, 0x114BE, 1⟩, ⟨0x114C1, 0x114C1, 1⟩,
  ⟨0x115AF, 0x115B1, 1⟩, ⟨0x115B8, 0x115BB, 1⟩, ⟨0x115BE, 0x115BE, 1⟩, ⟨0x11630, 0x11632, 1⟩,
  ⟨0x1163B, 0x1163C, 1⟩, ⟨0x1163E, 0x1163E, 1⟩, ⟨0x116AC, 0x116AC, 1⟩, ⟨0x116AE, 0x116AF, 1⟩,
  ⟨0x116B6, 0x116B6, 1⟩, ⟨0x11720, 0x11721, 1⟩, ⟨0x11726, 0x11726, 1⟩, ⟨0x1182C, 0x1182E, 1⟩,
  ⟨0x11838, 0x11838, 1⟩, ⟨0x11930, 0x11935, 1⟩, ⟨0x11937, 0x11938, 1⟩, ⟨0x1193D, 0x1193D, 1⟩,
  ⟨0x11940, 0x11942, 2⟩, ⟨0x119D1, 0x119D3, 1⟩, ⟨0x119DC, 0x119DF, 1⟩, ⟨0x119E4, 0x119E4, 1⟩,
  ⟨0x11A39, 0x11A39, 1⟩, ⟨0x11A57, 0x11A58, 1⟩, ⟨0x11A97, 0x11A97, 1⟩, ⟨0x11C2F, 0x11C2F, 1⟩,
  ⟨0x11C3E, 0x11C3E, 1⟩, ⟨0x11CA9, 0x11CA9, 1⟩, ⟨0x11CB1, 0x11CB1, 1⟩, ⟨0x11CB4, 0x11CB4, 1⟩,
  ⟨0x11D8A, 0x11D8E, 1⟩, ⟨0x11D93, 0x11D94, 1⟩, ⟨0x11D96, 0x11D96, 1⟩, ⟨0x11EF5, 0x11EF6, 1⟩,
  ⟨0x16F51, 0x16F87, 1⟩, ⟨0x16FF0, 0x16FF1, 1⟩, ⟨0x1D165, 0x1D166, 1⟩, ⟨0x1D16D, 0x1D172, 1⟩]

def isNonspacing (n : Nat) : Bool := inRuns nonspacing n

def isMark (n : Nat) : Bool := isNonspacing n || inRuns spacing n

end Mark

/-!
## Scripts

The characters of a few scripts.
-/

namespace Script

def greek : List Run := [
  ⟨0x0370, 0x0373, 1⟩, ⟨0x0375, 0x0377, 1⟩, ⟨0x037A, 0x037D, 1⟩, ⟨0x037F, 0x037F, 1⟩,
  ⟨0x0384, 0x0384, 1⟩, ⟨0x0386, 0x0386, 1⟩, ⟨0x0388, 0x038A, 1⟩, ⟨0x038C, 0x038C, 1⟩,
  ⟨0x038E, 0x03A1, 1⟩, ⟨0x03A3, 0x03E1, 1⟩, ⟨0x03F0, 0x03FF, 1⟩, ⟨0x1D26, 0x1D2A, 1⟩,
  ⟨0x1D5D, 0x1D61, 1⟩, ⟨0x1D66, 0x1D6A, 1⟩, ⟨0x1DBF, 0x1DBF, 1⟩, ⟨0x1F00, 0x1F15, 1⟩,
  ⟨0x1F18, 0x1F1D, 1⟩, ⟨0x1F20, 0x1F45, 1⟩, ⟨0x1F48, 0x1F4D, 1⟩, ⟨0x1F50, 0x1F57, 1⟩,
  ⟨0x1F59, 0x1F59, 1⟩, ⟨0x1F5B, 0x1F5B, 1⟩, ⟨0x1F5D, 0x1F5D, 1⟩, ⟨0x1F5F, 0x1F7D, 1⟩,
  ⟨0x1F80, 0x1FB4, 1⟩, ⟨0x1FB6, 0x1FC4, 1⟩, ⟨0x1FC6, 0x1FD3, 1⟩, ⟨0x1FD6, 0x1FDB, 1⟩,
  ⟨0x1FDD, 0x1FEF, 1⟩, ⟨0x1FF2, 0x1FF4, 1⟩, ⟨0x1FF6, 0x1FFE, 1⟩, ⟨0x2126, 0x2126, 1⟩,
  ⟨0xAB65, 0xAB65, 1⟩, ⟨0x10140, 0x1018E, 1⟩, ⟨0x101A0, 0x101A0, 1⟩, ⟨0x1D200, 0x1D245, 1⟩]

def hebrew : List Run := [
  ⟨0x0591, 0x05C7, 1⟩, ⟨0x05D0, 0x05EA, 1⟩, ⟨0x05EF, 0x05F4, 1⟩, ⟨0xFB1D, 0xFB36, 1⟩,
  ⟨0xFB38, 0xFB3C, 1⟩, ⟨0xFB3E, 0xFB3E, 1⟩, ⟨0xFB40, 0xFB41, 1⟩, ⟨0xFB43, 0xFB44, 1⟩,
  ⟨0xFB46, 0xFB4F, 1⟩]

def hiragana : List Run := [
  ⟨0x3041, 0x3096, 1⟩, ⟨0x309D, 0x309F, 1⟩, ⟨0x1B001, 0x1B11F, 1⟩, ⟨0x1B132, 0x1B132, 1⟩,
  ⟨0x1B150, 0x1B152, 1⟩, ⟨0x1F200, 0x1F200, 1⟩]

def katakana : List Run := [
  ⟨0x30A1, 0x30FA, 1⟩, ⟨0x30FD, 0x30FF, 1⟩, ⟨0x31F0, 0x31FF, 1⟩, ⟨0x32D0, 0x32FE, 1⟩,
  ⟨0x3300, 0x3357, 1⟩, ⟨0xFF66, 0xFF6F, 1⟩, ⟨0xFF71, 0xFF9D, 1⟩, ⟨0x1AFF0, 0x1AFF3, 1⟩,
  ⟨0x1AFF5, 0x1AFFB, 1⟩, ⟨0x1AFFD, 0x1AFFE, 1⟩, ⟨0x1B000, 0x1B000, 1⟩, ⟨0x1B120, 0x1B122, 1⟩,
  ⟨0x1B155, 0x1B155, 1⟩, ⟨0x1B164, 0x1B167, 1⟩]

def han : List Run := [
  ⟨0x2E80, 0x2E99, 1⟩, ⟨0x2E9B, 0x2EF3, 1⟩, ⟨0x2F00, 0x2FD5, 1⟩, ⟨0x3005, 0x3005, 1⟩,
  ⟨0x3007, 0x3007, 1⟩, ⟨0x3021, 0x3029, 1⟩, ⟨0x3038, 0x303B, 1⟩, ⟨0x3400, 0x4DBF, 1⟩,
  ⟨0x4E00, 0x9FFF, 1⟩, ⟨0xF900, 0xFA6D, 1⟩, ⟨0xFA70, 0xFAD9, 1⟩, ⟨0x16FE2, 0x16FE3, 1⟩,
  ⟨0x16FF0, 0x16FF6, 1⟩, ⟨0x20000, 0x2A6DF, 1⟩, ⟨0x2A700, 0x2B81D, 1⟩, ⟨0x2B820, 0x2CEAD, 1⟩,
  ⟨0x2CEB0, 0x2EBE0, 1⟩, ⟨0x2EBF0, 0x2EE5D, 1⟩, ⟨0x2F800, 0x2FA1D, 1⟩, ⟨0x30000, 0x3134A, 1⟩,
  ⟨0x31350, 0x33479, 1⟩]

end Script

/-!
## Directions of characters

Scripts run to the right or to the left, and numbers, marks and punctuation follow
what stands around them.  The classes are those of the letters, marks and digits, of
the hyphen and of the joiners.
-/

inductive Direction where
  | right
  | left
  | number
  | arabicNumber
  | neutral
  | mark
  /-- Nothing is known of the character yet. -/
  | unknown
deriving DecidableEq

namespace Direction

def leftward : List Run := [
  ⟨0x05D0, 0x05F4, 1⟩, ⟨0x0620, 0x064A, 1⟩, ⟨0x066E, 0x066F, 1⟩, ⟨0x0671, 0x06D5, 1⟩,
  ⟨0x06E5, 0x06E6, 1⟩, ⟨0x06EE, 0x06EF, 1⟩, ⟨0x06FA, 0x0710, 1⟩, ⟨0x0712, 0x072F, 1⟩,
  ⟨0x074D, 0x07A5, 1⟩, ⟨0x07B1, 0x07EA, 1⟩, ⟨0x07F4, 0x07F5, 1⟩, ⟨0x0800, 0x0815, 1⟩,
  ⟨0x081A, 0x081A, 1⟩, ⟨0x0824, 0x0824, 1⟩, ⟨0x0828, 0x0828, 1⟩, ⟨0x0840, 0x0858, 1⟩,
  ⟨0x0860, 0x088E, 1⟩, ⟨0x08A0, 0x08C9, 1⟩, ⟨0xFE73, 0xFE73, 1⟩, ⟨0x10800, 0x10939, 1⟩,
  ⟨0x10980, 0x10A00, 1⟩, ⟨0x10A10, 0x10A35, 1⟩, ⟨0x10A60, 0x10AE4, 1⟩, ⟨0x10B00, 0x10D23, 1⟩,
  ⟨0x10E80, 0x10EA9, 1⟩, ⟨0x10EB0, 0x10EB1, 1⟩, ⟨0x10F00, 0x10F45, 1⟩, ⟨0x10F70, 0x10F81, 1⟩,
  ⟨0x10FB0, 0x10FF6, 1⟩, ⟨0x1E800, 0x1E8C4, 1⟩, ⟨0x1E922, 0x1E943, 1⟩, ⟨0x1E94B, 0x1E959, 1⟩]

def neutrals : List Run := [
  ⟨0x002D, 0x002D, 1⟩, ⟨0x00B7, 0x00B7, 1⟩, ⟨0x02B9, 0x02BA, 1⟩, ⟨0x02C6, 0x02CF, 1⟩,
  ⟨0x02EC, 0x02EC, 1⟩, ⟨0x0375, 0x0375, 1⟩, ⟨0x200C, 0x200D, 1⟩, ⟨0x2E2F, 0x2E2F, 1⟩,
  ⟨0x30FB, 0x30FB, 1⟩, ⟨0xA67F, 0xA67F, 1⟩, ⟨0xA717, 0xA71F, 1⟩, ⟨0xA788, 0xA788, 1⟩]

def unknowns : List Run := [
  ⟨0x088F, 0x0897, 1⟩, ⟨0x0C5C, 0x0C5C, 1⟩, ⟨0x0CDC, 0x0CDC, 1⟩, ⟨0x0CF3, 0x0CF3, 1⟩,
  ⟨0x0ECE, 0x0ECE, 1⟩, ⟨0x1ACF, 0x1AEB, 1⟩, ⟨0x1C8A, 0x1C8A, 1⟩, ⟨0xA7CD, 0xA7CF, 1⟩,
  ⟨0xA7DB, 0xA7DB, 1⟩, ⟨0x105C0, 0x105F3, 1⟩, ⟨0x10940, 0x10959, 1⟩, ⟨0x10D40, 0x10D85, 1⟩,
  ⟨0x10EC2, 0x10EFF, 1⟩, ⟨0x1123F, 0x11241, 1⟩, ⟨0x11380, 0x113E2, 1⟩, ⟨0x116D0, 0x116E3, 1⟩,
  ⟨0x11B60, 0x11BF9, 1⟩, ⟨0x11DB0, 0x11DE9, 1⟩, ⟨0x11F00, 0x11F5A, 1⟩, ⟨0x1342F, 0x143FA, 1⟩,
  ⟨0x16100, 0x16139, 1⟩, ⟨0x16D40, 0x16D79, 1⟩, ⟨0x16EBB, 0x16ED3, 1⟩, ⟨0x16FF2, 0x16FF3, 1⟩,
  ⟨0x187F8, 0x187FF, 1⟩, ⟨0x18CFF, 0x18CFF, 1⟩, ⟨0x18D09, 0x18DF2, 1⟩, ⟨0x1B132, 0x1B132, 1⟩,
  ⟨0x1B155, 0x1B155, 1⟩, ⟨0x1DF25, 0x1DF2A, 1⟩, ⟨0x1E08F, 0x1E08F, 1⟩, ⟨0x1E4D0, 0x1E6FF, 1⟩,
  ⟨0x2B739, 0x2B73F, 1⟩, ⟨0x2CEA2, 0x2CEAD, 1⟩, ⟨0x2EBF0, 0x2EE5D, 1⟩, ⟨0x31350, 0x33479, 1⟩]

/-- The nonspacing marks that run to the right like letters. -/
def letterlike : List Nat := [0x0CBF, 0x0CC6, 0x11A07, 0x11A08, 0x11C3F]

def of (n : Nat) : Direction :=
  if inRuns [⟨0x0030, 0x0039, 1⟩, ⟨0x06F0, 0x06F9, 1⟩] n then number
  else if inRuns [⟨0x0660, 0x0669, 1⟩, ⟨0x10D30, 0x10D39, 1⟩] n then arabicNumber
  else if inRuns leftward n then left
  else if inRuns neutrals n then neutral
  else if Mark.isNonspacing n && !letterlike.contains n then mark
  else if inRuns unknowns n then unknown
  else right

end Direction

/-!
## Joining letters

In some scripts a letter joins those beside it, on one side or on both.  Marks and
format characters do not part letters.
-/

namespace Joining

/-- The letters that join on both sides. -/
def dual : List Run := [
  ⟨0x0620, 0x0620, 1⟩, ⟨0x0626, 0x0626, 1⟩, ⟨0x0628, 0x0628, 1⟩, ⟨0x062A, 0x062E, 1⟩,
  ⟨0x0633, 0x063F, 1⟩, ⟨0x0641, 0x0647, 1⟩, ⟨0x0649, 0x064A, 1⟩, ⟨0x066E, 0x066F, 1⟩,
  ⟨0x0678, 0x0687, 1⟩, ⟨0x069A, 0x06BF, 1⟩, ⟨0x06C1, 0x06C2, 1⟩, ⟨0x06CC, 0x06CC, 1⟩,
  ⟨0x06CE, 0x06CE, 1⟩, ⟨0x06D0, 0x06D1, 1⟩, ⟨0x06FA, 0x06FC, 1⟩, ⟨0x06FF, 0x06FF, 1⟩,
  ⟨0x0712, 0x0714, 1⟩, ⟨0x071A, 0x071D, 1⟩, ⟨0x071F, 0x0727, 1⟩, ⟨0x0729, 0x0729, 1⟩,
  ⟨0x072B, 0x072B, 1⟩, ⟨0x072D, 0x072E, 1⟩, ⟨0x074E, 0x0758, 1⟩, ⟨0x075C, 0x076A, 1⟩,
  ⟨0x076D, 0x0770, 1⟩, ⟨0x0772, 0x0772, 1⟩, ⟨0x0775, 0x0777, 1⟩, ⟨0x077A, 0x077F, 1⟩,
  ⟨0x07CA, 0x07EA, 1⟩, ⟨0x0841, 0x0845, 1⟩, ⟨0x0848, 0x0848, 1⟩, ⟨0x084A, 0x0853, 1⟩,
  ⟨0x0855, 0x0855, 1⟩, ⟨0x0860, 0x0860, 1⟩, ⟨0x0862, 0x0865, 1⟩, ⟨0x0868, 0x0868, 1⟩,
  ⟨0x0886, 0x0886, 1⟩, ⟨0x0889, 0x088D, 1⟩, ⟨0x08A0, 0x08A9, 1⟩, ⟨0x08AF, 0x08B0, 1⟩,
  ⟨0x08B3, 0x08B8, 1⟩, ⟨0x08BA, 0x08C8, 1⟩, ⟨0x1807, 0x1807, 1⟩, ⟨0x1820, 0x1878, 1⟩,
  ⟨0x1887, 0x18A8, 1⟩, ⟨0x18AA, 0x18AA, 1⟩, ⟨0xA840, 0xA871, 1⟩, ⟨0x10AC0, 0x10AC4, 1⟩,
  ⟨0x10AD3, 0x10AD6, 1⟩, ⟨0x10AD8, 0x10ADC, 1⟩, ⟨0x10ADE, 0x10AE0, 1⟩, ⟨0x10AEB, 0x10AEE, 1⟩,
  ⟨0x10B80, 0x10B80, 1⟩, ⟨0x10B82, 0x10B82, 1⟩, ⟨0x10B86, 0x10B88, 1⟩, ⟨0x10B8A, 0x10B8B, 1⟩,
  ⟨0x10B8D, 0x10B8D, 1⟩, ⟨0x10B90, 0x10B90, 1⟩, ⟨0x10BAD, 0x10BAE, 1⟩, ⟨0x10D01, 0x10D21, 1⟩,
  ⟨0x10D23, 0x10D23, 1⟩, ⟨0x10F30, 0x10F32, 1⟩, ⟨0x10F34, 0x10F44, 1⟩, ⟨0x10F51, 0x10F53, 1⟩,
  ⟨0x10F70, 0x10F73, 1⟩, ⟨0x10F76, 0x10F81, 1⟩, ⟨0x10FB0, 0x10FB0, 1⟩, ⟨0x10FB2, 0x10FB3, 1⟩,
  ⟨0x10FB8, 0x10FB8, 1⟩, ⟨0x10FBB, 0x10FBC, 1⟩, ⟨0x10FBE, 0x10FBF, 1⟩, ⟨0x10FC1, 0x10FC1, 1⟩,
  ⟨0x10FC4, 0x10FC4, 1⟩, ⟨0x10FCA, 0x10FCA, 1⟩, ⟨0x1E900, 0x1E943, 1⟩]

/-- The letters that join the one behind them only. -/
def toLeft : List Run := [
  ⟨0xA872, 0xA872, 1⟩, ⟨0x10ACD, 0x10ACD, 1⟩, ⟨0x10AD7, 0x10AD7, 1⟩, ⟨0x10D00, 0x10D00, 1⟩,
  ⟨0x10FCB, 0x10FCB, 1⟩]

/-- The letters that join the one in front of them only. -/
def toRight : List Run := [
  ⟨0x0622, 0x0625, 1⟩, ⟨0x0627, 0x0627, 1⟩, ⟨0x0629, 0x0629, 1⟩, ⟨0x062F, 0x0632, 1⟩,
  ⟨0x0648, 0x0648, 1⟩, ⟨0x0671, 0x0673, 1⟩, ⟨0x0675, 0x0677, 1⟩, ⟨0x0688, 0x0699, 1⟩,
  ⟨0x06C0, 0x06C0, 1⟩, ⟨0x06C3, 0x06CB, 1⟩, ⟨0x06CD, 0x06CD, 1⟩, ⟨0x06CF, 0x06CF, 1⟩,
  ⟨0x06D2, 0x06D3, 1⟩, ⟨0x06D5, 0x06D5, 1⟩, ⟨0x06EE, 0x06EF, 1⟩, ⟨0x0710, 0x0710, 1⟩,
  ⟨0x0715, 0x0719, 1⟩, ⟨0x071E, 0x071E, 1⟩, ⟨0x0728, 0x0728, 1⟩, ⟨0x072A, 0x072A, 1⟩,
  ⟨0x072C, 0x072C, 1⟩, ⟨0x072F, 0x072F, 1⟩, ⟨0x074D, 0x074D, 1⟩, ⟨0x0759, 0x075B, 1⟩,
  ⟨0x076B, 0x076C, 1⟩, ⟨0x0771, 0x0771, 1⟩, ⟨0x0773, 0x0774, 1⟩, ⟨0x0778, 0x0779, 1⟩,
  ⟨0x0840, 0x0840, 1⟩, ⟨0x0846, 0x0847, 1⟩, ⟨0x0849, 0x0849, 1⟩, ⟨0x0854, 0x0854, 1⟩,
  ⟨0x0856, 0x0858, 1⟩, ⟨0x0867, 0x0867, 1⟩, ⟨0x0869, 0x086A, 1⟩, ⟨0x0870, 0x0882, 1⟩,
  ⟨0x088E, 0x088E, 1⟩, ⟨0x08AA, 0x08AC, 1⟩, ⟨0x08AE, 0x08AE, 1⟩, ⟨0x08B1, 0x08B2, 1⟩,
  ⟨0x08B9, 0x08B9, 1⟩, ⟨0x10AC5, 0x10AC5, 1⟩, ⟨0x10AC7, 0x10AC7, 1⟩, ⟨0x10AC9, 0x10ACA, 1⟩,
  ⟨0x10ACE, 0x10AD2, 1⟩, ⟨0x10ADD, 0x10ADD, 1⟩, ⟨0x10AE1, 0x10AE1, 1⟩, ⟨0x10AE4, 0x10AE4, 1⟩,
  ⟨0x10AEF, 0x10AEF, 1⟩, ⟨0x10B81, 0x10B81, 1⟩, ⟨0x10B83, 0x10B85, 1⟩, ⟨0x10B89, 0x10B89, 1⟩,
  ⟨0x10B8C, 0x10B8C, 1⟩, ⟨0x10B8E, 0x10B8F, 1⟩, ⟨0x10B91, 0x10B91, 1⟩, ⟨0x10BA9, 0x10BAC, 1⟩,
  ⟨0x10D22, 0x10D22, 1⟩, ⟨0x10F33, 0x10F33, 1⟩, ⟨0x10F54, 0x10F54, 1⟩, ⟨0x10F74, 0x10F75, 1⟩,
  ⟨0x10FB4, 0x10FB6, 1⟩, ⟨0x10FB9, 0x10FBA, 1⟩, ⟨0x10FBD, 0x10FBD, 1⟩, ⟨0x10FC2, 0x10FC3, 1⟩,
  ⟨0x10FC9, 0x10FC9, 1⟩]

/-- The characters, besides the nonspacing marks, that do not part letters. -/
def transparents : List Run := [
  ⟨0x00AD, 0x00AD, 1⟩, ⟨0x061C, 0x061C, 1⟩, ⟨0x070F, 0x070F, 1⟩, ⟨0x0ECE, 0x0ECE, 1⟩,
  ⟨0x200B, 0x200B, 1⟩, ⟨0x200E, 0x200F, 1⟩, ⟨0x202A, 0x202E, 1⟩, ⟨0x2060, 0x2064, 1⟩,
  ⟨0x206A, 0x206F, 1⟩, ⟨0xFEFF, 0xFEFF, 1⟩, ⟨0xFFF9, 0xFFFB, 1⟩, ⟨0x10EFD, 0x10EFF, 1⟩,
  ⟨0x11241, 0x11241, 1⟩, ⟨0x11F00, 0x11F01, 1⟩, ⟨0x11F36, 0x11F3A, 1⟩, ⟨0x11F40, 0x11F40, 1⟩,
  ⟨0x11F42, 0x11F42, 1⟩, ⟨0x13430, 0x13440, 1⟩, ⟨0x13447, 0x13455, 1⟩, ⟨0x1BCA0, 0x1BCA3, 1⟩,
  ⟨0x1D173, 0x1D17A, 1⟩, ⟨0x1E08F, 0x1E08F, 1⟩, ⟨0x1E4EC, 0x1E4EF, 1⟩, ⟨0x1E94B, 0x1E94B, 1⟩,
  ⟨0xE0001, 0xE0001, 1⟩, ⟨0xE0020, 0xE007F, 1⟩]

def isTransparent (n : Nat) : Bool := Mark.isNonspacing n || inRuns transparents n

/-- Whether a letter joins the one behind it. -/
def joinsNext (n : Nat) : Bool := inRuns toLeft n || inRuns dual n

/-- Whether a letter joins the one in front of it. -/
def joinsPrevious (n : Nat) : Bool := inRuns toRight n || inRuns dual n

end Joining
end Text
end Tabletop
