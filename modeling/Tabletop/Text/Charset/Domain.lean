import Tabletop.Text.Composed
import Tabletop.Text.Encoding
import Tabletop.Text.Punycode

/-!
# The charset of domain names

A domain name consists of labels with points between them.  Behind a mark a label
says in Punycode which text it stands for.  The text must be a prepared one:
preparing it for the label changes small things only, and the label written for it
is the one that was read.
-/

namespace Tabletop
namespace Text

/-!
## Characters of prepared labels

What the preparation of a label changes or refuses, and which way the characters run
that it leaves alone.
-/

namespace Domain

/-- The characters above ASCII that are changed or refused. -/
def unprepared : List Run := [
  ⟨0x0080, 0x00A0, 1⟩, ⟨0x00A8, 0x00AA, 2⟩, ⟨0x00AD, 0x00AF, 2⟩, ⟨0x00B2, 0x00B5, 1⟩,
  ⟨0x00B8, 0x00BA, 1⟩, ⟨0x00BC, 0x00BE, 1⟩, ⟨0x00C0, 0x00D6, 1⟩, ⟨0x00D8, 0x00DF, 1⟩,
  ⟨0x0100, 0x0130, 2⟩, ⟨0x0132, 0x0134, 1⟩, ⟨0x0136, 0x0136, 1⟩, ⟨0x0139, 0x013D, 2⟩,
  ⟨0x013F, 0x0141, 1⟩, ⟨0x0143, 0x0147, 2⟩, ⟨0x0149, 0x014A, 1⟩, ⟨0x014C, 0x0176, 2⟩,
  ⟨0x0178, 0x0179, 1⟩, ⟨0x017B, 0x017F, 2⟩, ⟨0x0181, 0x0182, 1⟩, ⟨0x0184, 0x0184, 1⟩,
  ⟨0x0186, 0x0187, 1⟩, ⟨0x0189, 0x018B, 1⟩, ⟨0x018E, 0x0191, 1⟩, ⟨0x0193, 0x0194, 1⟩,
  ⟨0x0196, 0x0198, 1⟩, ⟨0x019C, 0x019D, 1⟩, ⟨0x019F, 0x01A0, 1⟩, ⟨0x01A2, 0x01A4, 2⟩,
  ⟨0x01A6, 0x01A7, 1⟩, ⟨0x01A9, 0x01A9, 1⟩, ⟨0x01AC, 0x01AC, 1⟩, ⟨0x01AE, 0x01AF, 1⟩,
  ⟨0x01B1, 0x01B3, 1⟩, ⟨0x01B5, 0x01B5, 1⟩, ⟨0x01B7, 0x01B8, 1⟩, ⟨0x01BC, 0x01BC, 1⟩,
  ⟨0x01C4, 0x01CD, 1⟩, ⟨0x01CF, 0x01DB, 2⟩, ⟨0x01DE, 0x01EE, 2⟩, ⟨0x01F1, 0x01F4, 1⟩,
  ⟨0x01F6, 0x01F8, 1⟩, ⟨0x01FA, 0x0232, 2⟩, ⟨0x023A, 0x023B, 1⟩, ⟨0x023D, 0x023E, 1⟩,
  ⟨0x0241, 0x0241, 1⟩, ⟨0x0243, 0x0246, 1⟩, ⟨0x0248, 0x024E, 2⟩, ⟨0x02B0, 0x02B8, 1⟩,
  ⟨0x02D8, 0x02DD, 1⟩, ⟨0x02E0, 0x02E4, 1⟩, ⟨0x0340, 0x0341, 1⟩, ⟨0x0343, 0x0345, 1⟩,
  ⟨0x034F, 0x034F, 1⟩, ⟨0x0370, 0x0376, 2⟩, ⟨0x037A, 0x037A, 1⟩, ⟨0x037E, 0x037F, 1⟩,
  ⟨0x0384, 0x038A, 1⟩, ⟨0x038C, 0x038C, 1⟩, ⟨0x038E, 0x038F, 1⟩, ⟨0x0391, 0x03A1, 1⟩,
  ⟨0x03A3, 0x03AB, 1⟩, ⟨0x03C2, 0x03C2, 1⟩, ⟨0x03CF, 0x03D6, 1⟩, ⟨0x03D8, 0x03EE, 2⟩,
  ⟨0x03F0, 0x03F2, 1⟩, ⟨0x03F4, 0x03F5, 1⟩, ⟨0x03F7, 0x03F7, 1⟩, ⟨0x03F9, 0x03FA, 1⟩,
  ⟨0x03FD, 0x042F, 1⟩, ⟨0x0460, 0x0480, 2⟩, ⟨0x048A, 0x04BE, 2⟩, ⟨0x04C0, 0x04C1, 1⟩,
  ⟨0x04C3, 0x04CD, 2⟩, ⟨0x04D0, 0x052E, 2⟩, ⟨0x0531, 0x0556, 1⟩, ⟨0x0587, 0x0587, 1⟩,
  ⟨0x0675, 0x0678, 1⟩, ⟨0x06DD, 0x06DD, 1⟩, ⟨0x070F, 0x070F, 1⟩, ⟨0x0958, 0x095F, 1⟩,
  ⟨0x09DC, 0x09DD, 1⟩, ⟨0x09DF, 0x09DF, 1⟩, ⟨0x0A33, 0x0A33, 1⟩, ⟨0x0A36, 0x0A36, 1⟩,
  ⟨0x0A59, 0x0A5B, 1⟩, ⟨0x0A5E, 0x0A5E, 1⟩, ⟨0x0B5C, 0x0B5D, 1⟩, ⟨0x0E33, 0x0E33, 1⟩,
  ⟨0x0EB3, 0x0EB3, 1⟩, ⟨0x0EDC, 0x0EDD, 1⟩, ⟨0x0F0C, 0x0F0C, 1⟩, ⟨0x0F43, 0x0F43, 1⟩,
  ⟨0x0F4D, 0x0F4D, 1⟩, ⟨0x0F52, 0x0F52, 1⟩, ⟨0x0F57, 0x0F57, 1⟩, ⟨0x0F5C, 0x0F5C, 1⟩,
  ⟨0x0F69, 0x0F69, 1⟩, ⟨0x0F73, 0x0F73, 1⟩, ⟨0x0F75, 0x0F79, 1⟩, ⟨0x0F81, 0x0F81, 1⟩,
  ⟨0x0F93, 0x0F93, 1⟩, ⟨0x0F9D, 0x0F9D, 1⟩, ⟨0x0FA2, 0x0FA2, 1⟩, ⟨0x0FA7, 0x0FA7, 1⟩,
  ⟨0x0FAC, 0x0FAC, 1⟩, ⟨0x0FB9, 0x0FB9, 1⟩, ⟨0x10A0, 0x10C5, 1⟩, ⟨0x10C7, 0x10C7, 1⟩,
  ⟨0x10CD, 0x10CD, 1⟩, ⟨0x13A0, 0x13F5, 1⟩, ⟨0x1680, 0x1680, 1⟩, ⟨0x1806, 0x1806, 1⟩,
  ⟨0x180B, 0x180E, 1⟩, ⟨0x1C90, 0x1CBA, 1⟩, ⟨0x1CBD, 0x1CBF, 1⟩, ⟨0x1E00, 0x1E94, 2⟩,
  ⟨0x1E9A, 0x1E9B, 1⟩, ⟨0x1E9E, 0x1EFE, 2⟩, ⟨0x1F08, 0x1F0F, 1⟩, ⟨0x1F18, 0x1F1D, 1⟩,
  ⟨0x1F28, 0x1F2F, 1⟩, ⟨0x1F38, 0x1F3F, 1⟩, ⟨0x1F48, 0x1F4D, 1⟩, ⟨0x1F59, 0x1F5F, 2⟩,
  ⟨0x1F68, 0x1F6F, 1⟩, ⟨0x1F71, 0x1F7D, 2⟩, ⟨0x1F80, 0x1FAF, 1⟩, ⟨0x1FB2, 0x1FB4, 1⟩,
  ⟨0x1FB7, 0x1FC4, 1⟩, ⟨0x1FC7, 0x1FCF, 1⟩, ⟨0x1FD3, 0x1FD3, 1⟩, ⟨0x1FD8, 0x1FDB, 1⟩,
  ⟨0x1FDD, 0x1FDF, 1⟩, ⟨0x1FE3, 0x1FE3, 1⟩, ⟨0x1FE8, 0x1FEF, 1⟩, ⟨0x1FF2, 0x1FF4, 1⟩,
  ⟨0x1FF7, 0x1FFE, 1⟩, ⟨0x2000, 0x200F, 1⟩, ⟨0x2011, 0x2011, 1⟩, ⟨0x2017, 0x2017, 1⟩,
  ⟨0x2024, 0x2026, 1⟩, ⟨0x2028, 0x202F, 1⟩, ⟨0x2033, 0x2034, 1⟩, ⟨0x2036, 0x2037, 1⟩,
  ⟨0x203C, 0x203E, 2⟩, ⟨0x2047, 0x2049, 1⟩, ⟨0x2057, 0x2057, 1⟩, ⟨0x205F, 0x2063, 1⟩,
  ⟨0x206A, 0x2071, 1⟩, ⟨0x2074, 0x208E, 1⟩, ⟨0x20A8, 0x20A8, 1⟩, ⟨0x2100, 0x2103, 1⟩,
  ⟨0x2105, 0x2107, 1⟩, ⟨0x2109, 0x2113, 1⟩, ⟨0x2115, 0x2116, 1⟩, ⟨0x2119, 0x211D, 1⟩,
  ⟨0x2120, 0x2122, 1⟩, ⟨0x2124, 0x2128, 2⟩, ⟨0x212A, 0x212D, 1⟩, ⟨0x212F, 0x2139, 1⟩,
  ⟨0x213D, 0x2140, 1⟩, ⟨0x2145, 0x2149, 1⟩, ⟨0x2153, 0x217F, 1⟩, ⟨0x2183, 0x2183, 1⟩,
  ⟨0x222C, 0x222D, 1⟩, ⟨0x222F, 0x2230, 1⟩, ⟨0x2329, 0x232A, 1⟩, ⟨0x2460, 0x24EA, 1⟩,
  ⟨0x2A0C, 0x2A0C, 1⟩, ⟨0x2A74, 0x2A76, 1⟩, ⟨0x2ADC, 0x2ADC, 1⟩, ⟨0x2C00, 0x2C2F, 1⟩,
  ⟨0x2C60, 0x2C60, 1⟩, ⟨0x2C62, 0x2C64, 1⟩, ⟨0x2C67, 0x2C6B, 2⟩, ⟨0x2C6D, 0x2C70, 1⟩,
  ⟨0x2C72, 0x2C72, 1⟩, ⟨0x2C75, 0x2C75, 1⟩, ⟨0x2C7E, 0x2C80, 1⟩, ⟨0x2C82, 0x2CE2, 2⟩,
  ⟨0x2CEB, 0x2CED, 2⟩, ⟨0x2CF2, 0x2CF2, 1⟩, ⟨0x2E9F, 0x2E9F, 1⟩, ⟨0x2EF3, 0x2EF3, 1⟩,
  ⟨0x2F00, 0x2FD5, 1⟩, ⟨0x2FF0, 0x2FFB, 1⟩, ⟨0x3000, 0x3000, 1⟩, ⟨0x3036, 0x3036, 1⟩,
  ⟨0x3038, 0x303A, 1⟩, ⟨0x309B, 0x309C, 1⟩, ⟨0x309F, 0x309F, 1⟩, ⟨0x30FF, 0x30FF, 1⟩,
  ⟨0x3131, 0x318E, 1⟩, ⟨0x3192, 0x319F, 1⟩, ⟨0x3200, 0x321C, 1⟩, ⟨0x3220, 0x3243, 1⟩,
  ⟨0x3251, 0x327B, 1⟩, ⟨0x3280, 0x32CB, 1⟩, ⟨0x32D0, 0x32FE, 1⟩, ⟨0x3300, 0x3376, 1⟩,
  ⟨0x337B, 0x33DD, 1⟩, ⟨0x33E0, 0x33FE, 1⟩, ⟨0xA640, 0xA66C, 2⟩, ⟨0xA680, 0xA69A, 2⟩,
  ⟨0xA722, 0xA72E, 2⟩, ⟨0xA732, 0xA76E, 2⟩, ⟨0xA779, 0xA77B, 2⟩, ⟨0xA77D, 0xA77E, 1⟩,
  ⟨0xA780, 0xA786, 2⟩, ⟨0xA78B, 0xA78D, 2⟩, ⟨0xA790, 0xA792, 2⟩, ⟨0xA796, 0xA7A8, 2⟩,
  ⟨0xA7AA, 0xA7AE, 1⟩, ⟨0xA7B0, 0xA7B4, 1⟩, ⟨0xA7B6, 0xA7C2, 2⟩, ⟨0xA7C4, 0xA7C7, 1⟩,
  ⟨0xA7C9, 0xA7C9, 1⟩, ⟨0xA7D0, 0xA7D0, 1⟩, ⟨0xA7D6, 0xA7D8, 2⟩, ⟨0xA7F5, 0xA7F5, 1⟩,
  ⟨0xD800, 0xFA0D, 1⟩, ⟨0xFA10, 0xFA12, 2⟩, ⟨0xFA15, 0xFA1E, 1⟩, ⟨0xFA20, 0xFA22, 2⟩,
  ⟨0xFA25, 0xFA26, 1⟩, ⟨0xFA2A, 0xFA2D, 1⟩, ⟨0xFA30, 0xFA6A, 1⟩, ⟨0xFB00, 0xFB06, 1⟩,
  ⟨0xFB13, 0xFB17, 1⟩, ⟨0xFB1D, 0xFB1D, 1⟩, ⟨0xFB1F, 0xFB36, 1⟩, ⟨0xFB38, 0xFB3C, 1⟩,
  ⟨0xFB3E, 0xFB3E, 1⟩, ⟨0xFB40, 0xFB41, 1⟩, ⟨0xFB43, 0xFB44, 1⟩, ⟨0xFB46, 0xFBB1, 1⟩,
  ⟨0xFBD3, 0xFD3D, 1⟩, ⟨0xFD50, 0xFD8F, 1⟩, ⟨0xFD92, 0xFDC7, 1⟩, ⟨0xFDD0, 0xFDFC, 1⟩,
  ⟨0xFE00, 0xFE0F, 1⟩, ⟨0xFE30, 0xFE44, 1⟩, ⟨0xFE49, 0xFE52, 1⟩, ⟨0xFE54, 0xFE66, 1⟩,
  ⟨0xFE68, 0xFE6B, 1⟩, ⟨0xFE70, 0xFE72, 1⟩, ⟨0xFE74, 0xFE74, 1⟩, ⟨0xFE76, 0xFEFC, 1⟩,
  ⟨0xFEFF, 0xFEFF, 1⟩, ⟨0xFF01, 0xFFBE, 1⟩, ⟨0xFFC2, 0xFFC7, 1⟩, ⟨0xFFCA, 0xFFCF, 1⟩,
  ⟨0xFFD2, 0xFFD7, 1⟩, ⟨0xFFDA, 0xFFDC, 1⟩, ⟨0xFFE0, 0xFFE6, 1⟩, ⟨0xFFE8, 0xFFEE, 1⟩,
  ⟨0xFFF9, 0xFFFF, 1⟩, ⟨0x10400, 0x10427, 1⟩, ⟨0x104B0, 0x104D3, 1⟩, ⟨0x10570, 0x1057A, 1⟩,
  ⟨0x1057C, 0x1058A, 1⟩, ⟨0x1058C, 0x10592, 1⟩, ⟨0x10594, 0x10595, 1⟩, ⟨0x10C80, 0x10CB2, 1⟩,
  ⟨0x118A0, 0x118BF, 1⟩, ⟨0x16E40, 0x16E5F, 1⟩, ⟨0x1D15E, 0x1D164, 1⟩, ⟨0x1D173, 0x1D17A, 1⟩,
  ⟨0x1D1BB, 0x1D1C0, 1⟩, ⟨0x1D400, 0x1D454, 1⟩, ⟨0x1D456, 0x1D49C, 1⟩, ⟨0x1D49E, 0x1D49F, 1⟩,
  ⟨0x1D4A2, 0x1D4A2, 1⟩, ⟨0x1D4A5, 0x1D4A6, 1⟩, ⟨0x1D4A9, 0x1D4AC, 1⟩, ⟨0x1D4AE, 0x1D4B9, 1⟩,
  ⟨0x1D4BB, 0x1D4BB, 1⟩, ⟨0x1D4BD, 0x1D4C0, 1⟩, ⟨0x1D4C2, 0x1D4C3, 1⟩, ⟨0x1D4C5, 0x1D505, 1⟩,
  ⟨0x1D507, 0x1D50A, 1⟩, ⟨0x1D50D, 0x1D514, 1⟩, ⟨0x1D516, 0x1D51C, 1⟩, ⟨0x1D51E, 0x1D539, 1⟩,
  ⟨0x1D53B, 0x1D53E, 1⟩, ⟨0x1D540, 0x1D544, 1⟩, ⟨0x1D546, 0x1D546, 1⟩, ⟨0x1D54A, 0x1D550, 1⟩,
  ⟨0x1D552, 0x1D6A3, 1⟩, ⟨0x1D6A8, 0x1D7C9, 1⟩, ⟨0x1D7CE, 0x1D7FF, 1⟩, ⟨0x1E900, 0x1E921, 1⟩,
  ⟨0x1FFFE, 0x1FFFF, 1⟩, ⟨0x2F800, 0x2FA1D, 1⟩, ⟨0x2FFFE, 0x2FFFF, 1⟩, ⟨0x3FFFE, 0x3FFFF, 1⟩,
  ⟨0x4FFFE, 0x4FFFF, 1⟩, ⟨0x5FFFE, 0x5FFFF, 1⟩, ⟨0x6FFFE, 0x6FFFF, 1⟩, ⟨0x7FFFE, 0x7FFFF, 1⟩,
  ⟨0x8FFFE, 0x8FFFF, 1⟩, ⟨0x9FFFE, 0x9FFFF, 1⟩, ⟨0xAFFFE, 0xAFFFF, 1⟩, ⟨0xBFFFE, 0xBFFFF, 1⟩,
  ⟨0xCFFFE, 0xCFFFF, 1⟩, ⟨0xDFFFE, 0xDFFFF, 1⟩, ⟨0xE0001, 0xE0001, 1⟩, ⟨0xE0020, 0xE007F, 1⟩,
  ⟨0xEFFFE, 0x10FFFF, 1⟩]

def leftward : List Run := [
  ⟨0x05BE, 0x05BE, 1⟩, ⟨0x05C0, 0x05C0, 1⟩, ⟨0x05C3, 0x05C3, 1⟩, ⟨0x05D0, 0x05EA, 1⟩,
  ⟨0x05F0, 0x05F4, 1⟩, ⟨0x061B, 0x061B, 1⟩, ⟨0x061F, 0x061F, 1⟩, ⟨0x0621, 0x063A, 1⟩,
  ⟨0x0640, 0x064A, 1⟩, ⟨0x066D, 0x066F, 1⟩, ⟨0x0671, 0x06D5, 1⟩, ⟨0x06E5, 0x06E6, 1⟩,
  ⟨0x06FA, 0x06FE, 1⟩, ⟨0x0700, 0x070D, 1⟩, ⟨0x0710, 0x0710, 1⟩, ⟨0x0712, 0x072C, 1⟩,
  ⟨0x0780, 0x07A5, 1⟩, ⟨0x07B1, 0x07B1, 1⟩, ⟨0xFE73, 0xFE73, 1⟩]

def rightward : List Run := [
  ⟨0x0041, 0x005A, 1⟩, ⟨0x0061, 0x007A, 1⟩, ⟨0x00E0, 0x00F6, 1⟩, ⟨0x00F8, 0x021F, 1⟩,
  ⟨0x0223, 0x0233, 1⟩, ⟨0x0250, 0x02AD, 1⟩, ⟨0x02BB, 0x02C1, 1⟩, ⟨0x02D0, 0x02D1, 1⟩,
  ⟨0x02EE, 0x02EE, 1⟩, ⟨0x0390, 0x0390, 1⟩, ⟨0x03AC, 0x03F3, 1⟩, ⟨0x0430, 0x0482, 1⟩,
  ⟨0x048B, 0x04CE, 1⟩, ⟨0x04D1, 0x04F5, 1⟩, ⟨0x04F9, 0x04F9, 1⟩, ⟨0x0501, 0x050F, 1⟩,
  ⟨0x0559, 0x055F, 1⟩, ⟨0x0561, 0x0586, 1⟩, ⟨0x0589, 0x0589, 1⟩, ⟨0x0903, 0x0903, 1⟩,
  ⟨0x0905, 0x0939, 1⟩, ⟨0x093D, 0x0940, 1⟩, ⟨0x0949, 0x094C, 1⟩, ⟨0x0950, 0x0950, 1⟩,
  ⟨0x0960, 0x0961, 1⟩, ⟨0x0964, 0x0970, 1⟩, ⟨0x0982, 0x0983, 1⟩, ⟨0x0985, 0x098C, 1⟩,
  ⟨0x098F, 0x0990, 1⟩, ⟨0x0993, 0x09A8, 1⟩, ⟨0x09AA, 0x09B0, 1⟩, ⟨0x09B2, 0x09B2, 1⟩,
  ⟨0x09B6, 0x09B9, 1⟩, ⟨0x09BE, 0x09C0, 1⟩, ⟨0x09C7, 0x09C8, 1⟩, ⟨0x09CB, 0x09CC, 1⟩,
  ⟨0x09D7, 0x09D7, 1⟩, ⟨0x09E0, 0x09E1, 1⟩, ⟨0x09E6, 0x09F1, 1⟩, ⟨0x09F4, 0x09FA, 1⟩,
  ⟨0x0A05, 0x0A0A, 1⟩, ⟨0x0A0F, 0x0A10, 1⟩, ⟨0x0A13, 0x0A28, 1⟩, ⟨0x0A2A, 0x0A30, 1⟩,
  ⟨0x0A32, 0x0A32, 1⟩, ⟨0x0A35, 0x0A35, 1⟩, ⟨0x0A38, 0x0A39, 1⟩, ⟨0x0A3E, 0x0A40, 1⟩,
  ⟨0x0A5C, 0x0A5C, 1⟩, ⟨0x0A66, 0x0A6F, 1⟩, ⟨0x0A72, 0x0A74, 1⟩, ⟨0x0A83, 0x0A83, 1⟩,
  ⟨0x0A85, 0x0A8B, 1⟩, ⟨0x0A8D, 0x0A8D, 1⟩, ⟨0x0A8F, 0x0A91, 1⟩, ⟨0x0A93, 0x0AA8, 1⟩,
  ⟨0x0AAA, 0x0AB0, 1⟩, ⟨0x0AB2, 0x0AB3, 1⟩, ⟨0x0AB5, 0x0AB9, 1⟩, ⟨0x0ABD, 0x0AC0, 1⟩,
  ⟨0x0AC9, 0x0AC9, 1⟩, ⟨0x0ACB, 0x0ACC, 1⟩, ⟨0x0AD0, 0x0AD0, 1⟩, ⟨0x0AE0, 0x0AE0, 1⟩,
  ⟨0x0AE6, 0x0AEF, 1⟩, ⟨0x0B02, 0x0B03, 1⟩, ⟨0x0B05, 0x0B0C, 1⟩, ⟨0x0B0F, 0x0B10, 1⟩,
  ⟨0x0B13, 0x0B28, 1⟩, ⟨0x0B2A, 0x0B30, 1⟩, ⟨0x0B32, 0x0B33, 1⟩, ⟨0x0B36, 0x0B39, 1⟩,
  ⟨0x0B3D, 0x0B3E, 1⟩, ⟨0x0B40, 0x0B40, 1⟩, ⟨0x0B47, 0x0B48, 1⟩, ⟨0x0B4B, 0x0B4C, 1⟩,
  ⟨0x0B57, 0x0B57, 1⟩, ⟨0x0B5F, 0x0B61, 1⟩, ⟨0x0B66, 0x0B70, 1⟩, ⟨0x0B83, 0x0B83, 1⟩,
  ⟨0x0B85, 0x0B8A, 1⟩, ⟨0x0B8E, 0x0B90, 1⟩, ⟨0x0B92, 0x0B95, 1⟩, ⟨0x0B99, 0x0B9A, 1⟩,
  ⟨0x0B9C, 0x0B9C, 1⟩, ⟨0x0B9E, 0x0B9F, 1⟩, ⟨0x0BA3, 0x0BA4, 1⟩, ⟨0x0BA8, 0x0BAA, 1⟩,
  ⟨0x0BAE, 0x0BB5, 1⟩, ⟨0x0BB7, 0x0BB9, 1⟩, ⟨0x0BBE, 0x0BBF, 1⟩, ⟨0x0BC1, 0x0BC2, 1⟩,
  ⟨0x0BC6, 0x0BC8, 1⟩, ⟨0x0BCA, 0x0BCC, 1⟩, ⟨0x0BD7, 0x0BD7, 1⟩, ⟨0x0BE7, 0x0BF2, 1⟩,
  ⟨0x0C01, 0x0C03, 1⟩, ⟨0x0C05, 0x0C0C, 1⟩, ⟨0x0C0E, 0x0C10, 1⟩, ⟨0x0C12, 0x0C28, 1⟩,
  ⟨0x0C2A, 0x0C33, 1⟩, ⟨0x0C35, 0x0C39, 1⟩, ⟨0x0C41, 0x0C44, 1⟩, ⟨0x0C60, 0x0C61, 1⟩,
  ⟨0x0C66, 0x0C6F, 1⟩, ⟨0x0C82, 0x0C83, 1⟩, ⟨0x0C85, 0x0C8C, 1⟩, ⟨0x0C8E, 0x0C90, 1⟩,
  ⟨0x0C92, 0x0CA8, 1⟩, ⟨0x0CAA, 0x0CB3, 1⟩, ⟨0x0CB5, 0x0CB9, 1⟩, ⟨0x0CBE, 0x0CBE, 1⟩,
  ⟨0x0CC0, 0x0CC4, 1⟩, ⟨0x0CC7, 0x0CC8, 1⟩, ⟨0x0CCA, 0x0CCB, 1⟩, ⟨0x0CD5, 0x0CD6, 1⟩,
  ⟨0x0CDE, 0x0CDE, 1⟩, ⟨0x0CE0, 0x0CE1, 1⟩, ⟨0x0CE6, 0x0CEF, 1⟩, ⟨0x0D02, 0x0D03, 1⟩,
  ⟨0x0D05, 0x0D0C, 1⟩, ⟨0x0D0E, 0x0D10, 1⟩, ⟨0x0D12, 0x0D28, 1⟩, ⟨0x0D2A, 0x0D39, 1⟩,
  ⟨0x0D3E, 0x0D40, 1⟩, ⟨0x0D46, 0x0D48, 1⟩, ⟨0x0D4A, 0x0D4C, 1⟩, ⟨0x0D57, 0x0D57, 1⟩,
  ⟨0x0D60, 0x0D61, 1⟩, ⟨0x0D66, 0x0D6F, 1⟩, ⟨0x0D82, 0x0D83, 1⟩, ⟨0x0D85, 0x0D96, 1⟩,
  ⟨0x0D9A, 0x0DB1, 1⟩, ⟨0x0DB3, 0x0DBB, 1⟩, ⟨0x0DBD, 0x0DBD, 1⟩, ⟨0x0DC0, 0x0DC6, 1⟩,
  ⟨0x0DCF, 0x0DD1, 1⟩, ⟨0x0DD8, 0x0DDF, 1⟩, ⟨0x0DF2, 0x0DF4, 1⟩, ⟨0x0E01, 0x0E30, 1⟩,
  ⟨0x0E32, 0x0E32, 1⟩, ⟨0x0E40, 0x0E46, 1⟩, ⟨0x0E4F, 0x0E5B, 1⟩, ⟨0x0E81, 0x0E82, 1⟩,
  ⟨0x0E84, 0x0E84, 1⟩, ⟨0x0E87, 0x0E88, 1⟩, ⟨0x0E8A, 0x0E8A, 1⟩, ⟨0x0E8D, 0x0E8D, 1⟩,
  ⟨0x0E94, 0x0E97, 1⟩, ⟨0x0E99, 0x0E9F, 1⟩, ⟨0x0EA1, 0x0EA3, 1⟩, ⟨0x0EA5, 0x0EA5, 1⟩,
  ⟨0x0EA7, 0x0EA7, 1⟩, ⟨0x0EAA, 0x0EAB, 1⟩, ⟨0x0EAD, 0x0EB0, 1⟩, ⟨0x0EB2, 0x0EB2, 1⟩,
  ⟨0x0EBD, 0x0EBD, 1⟩, ⟨0x0EC0, 0x0EC4, 1⟩, ⟨0x0EC6, 0x0EC6, 1⟩, ⟨0x0ED0, 0x0ED9, 1⟩,
  ⟨0x0F00, 0x0F17, 1⟩, ⟨0x0F1A, 0x0F34, 1⟩, ⟨0x0F36, 0x0F36, 1⟩, ⟨0x0F38, 0x0F38, 1⟩,
  ⟨0x0F3E, 0x0F47, 1⟩, ⟨0x0F49, 0x0F6A, 1⟩, ⟨0x0F7F, 0x0F7F, 1⟩, ⟨0x0F85, 0x0F85, 1⟩,
  ⟨0x0F88, 0x0F8B, 1⟩, ⟨0x0FBE, 0x0FC5, 1⟩, ⟨0x0FC7, 0x0FCC, 1⟩, ⟨0x0FCF, 0x0FCF, 1⟩,
  ⟨0x1000, 0x1021, 1⟩, ⟨0x1023, 0x1027, 1⟩, ⟨0x1029, 0x102A, 1⟩, ⟨0x102C, 0x102C, 1⟩,
  ⟨0x1031, 0x1031, 1⟩, ⟨0x1038, 0x1038, 1⟩, ⟨0x1040, 0x1057, 1⟩, ⟨0x10D0, 0x10F8, 1⟩,
  ⟨0x10FB, 0x10FB, 1⟩, ⟨0x1100, 0x1159, 1⟩, ⟨0x115F, 0x11A2, 1⟩, ⟨0x11A8, 0x11F9, 1⟩,
  ⟨0x1200, 0x1206, 1⟩, ⟨0x1208, 0x1246, 1⟩, ⟨0x1248, 0x1248, 1⟩, ⟨0x124A, 0x124D, 1⟩,
  ⟨0x1250, 0x1256, 1⟩, ⟨0x1258, 0x1258, 1⟩, ⟨0x125A, 0x125D, 1⟩, ⟨0x1260, 0x1286, 1⟩,
  ⟨0x1288, 0x1288, 1⟩, ⟨0x128A, 0x128D, 1⟩, ⟨0x1290, 0x12AE, 1⟩, ⟨0x12B0, 0x12B0, 1⟩,
  ⟨0x12B2, 0x12B5, 1⟩, ⟨0x12B8, 0x12BE, 1⟩, ⟨0x12C0, 0x12C0, 1⟩, ⟨0x12C2, 0x12C5, 1⟩,
  ⟨0x12C8, 0x12CE, 1⟩, ⟨0x12D0, 0x12D6, 1⟩, ⟨0x12D8, 0x12EE, 1⟩, ⟨0x12F0, 0x130E, 1⟩,
  ⟨0x1310, 0x1310, 1⟩, ⟨0x1312, 0x1315, 1⟩, ⟨0x1318, 0x131E, 1⟩, ⟨0x1320, 0x1346, 1⟩,
  ⟨0x1348, 0x135A, 1⟩, ⟨0x1361, 0x137C, 1⟩, ⟨0x1401, 0x1676, 1⟩, ⟨0x1681, 0x169A, 1⟩,
  ⟨0x16A0, 0x16F0, 1⟩, ⟨0x1700, 0x170C, 1⟩, ⟨0x170E, 0x1711, 1⟩, ⟨0x1720, 0x1731, 1⟩,
  ⟨0x1735, 0x1736, 1⟩, ⟨0x1740, 0x1751, 1⟩, ⟨0x1760, 0x176C, 1⟩, ⟨0x176E, 0x1770, 1⟩,
  ⟨0x1780, 0x17B6, 1⟩, ⟨0x17BE, 0x17C5, 1⟩, ⟨0x17C7, 0x17C8, 1⟩, ⟨0x17D4, 0x17DA, 1⟩,
  ⟨0x17DC, 0x17DC, 1⟩, ⟨0x17E0, 0x17E9, 1⟩, ⟨0x1810, 0x1819, 1⟩, ⟨0x1820, 0x1877, 1⟩,
  ⟨0x1880, 0x18A8, 1⟩, ⟨0x1E01, 0x1E99, 1⟩, ⟨0x1EA1, 0x1EF9, 1⟩, ⟨0x1F00, 0x1F15, 1⟩,
  ⟨0x1F20, 0x1F45, 1⟩, ⟨0x1F50, 0x1F57, 1⟩, ⟨0x1F60, 0x1F7C, 1⟩, ⟨0x1FB0, 0x1FB1, 1⟩,
  ⟨0x1FB6, 0x1FB6, 1⟩, ⟨0x1FC6, 0x1FD2, 1⟩, ⟨0x1FD6, 0x1FD7, 1⟩, ⟨0x1FE0, 0x1FE7, 1⟩,
  ⟨0x1FF6, 0x1FF6, 1⟩, ⟨0x2180, 0x2182, 1⟩, ⟨0x2336, 0x237A, 1⟩, ⟨0x2395, 0x2395, 1⟩,
  ⟨0x3005, 0x3007, 1⟩, ⟨0x3021, 0x3029, 1⟩, ⟨0x3031, 0x3035, 1⟩, ⟨0x303B, 0x303C, 1⟩,
  ⟨0x3041, 0x3096, 1⟩, ⟨0x309D, 0x309E, 1⟩, ⟨0x30A1, 0x30FA, 1⟩, ⟨0x30FC, 0x30FE, 1⟩,
  ⟨0x3105, 0x312C, 1⟩, ⟨0x3190, 0x31B7, 1⟩, ⟨0x31F0, 0x31FF, 1⟩, ⟨0x327F, 0x327F, 1⟩,
  ⟨0x3400, 0x4DB5, 1⟩, ⟨0x4E00, 0x9FA5, 1⟩, ⟨0xA000, 0xA48C, 1⟩, ⟨0xAC00, 0xD7A3, 1⟩,
  ⟨0xFA0E, 0xFA29, 1⟩, ⟨0x10300, 0x1031E, 1⟩, ⟨0x10320, 0x10323, 1⟩, ⟨0x10330, 0x1034A, 1⟩,
  ⟨0x10428, 0x1044D, 1⟩, ⟨0x1D000, 0x1D0F5, 1⟩, ⟨0x1D100, 0x1D126, 1⟩, ⟨0x1D12A, 0x1D166, 1⟩,
  ⟨0x1D16A, 0x1D172, 1⟩, ⟨0x1D183, 0x1D184, 1⟩, ⟨0x1D18C, 0x1D1A9, 1⟩, ⟨0x1D1AE, 0x1D1DD, 1⟩,
  ⟨0x20000, 0x2A6D6, 1⟩]

/-! ## Reading names -/

def labelMark : List UInt8 := "xn--".toUTF8.toList

/-- The most bytes of a label. -/
def maxLabelLength : Nat := 63

/-- The most bytes of a label that is read at all. -/
def maxReadLength : Nat := 1024

/-- The small form of a code of ASCII. -/
def smallCode (n : Nat) : Nat := if 0x41 ≤ n ∧ n ≤ 0x5A then n + 0x20 else n

def smallByte (b : UInt8) : UInt8 := UInt8.ofNat (smallCode b.toNat)

/-- Whether all characters run one way.  If any runs to the left, so do the first and
the last one, and none runs to the right. -/
def runsOneWay (codes : List Nat) : Bool :=
  let isLeft := inRuns leftward
  !codes.any isLeft ||
    (!codes.any (inRuns rightward) && codes.head?.any isLeft && codes.getLast?.any isLeft)

/-- Whether preparing a text leaves it as it is. -/
def isPrepared (codes : List Nat) : Bool :=
  codes.all (fun n => if n < 0x80 then smallCode n == n else !inRuns unprepared n) &&
    Composed.compose codes == codes && runsOneWay codes

/-- Whether a label is the one that is written for a text. -/
def isLabelOf (label : List UInt8) (codes : List Nat) : Bool :=
  let prepared := codes.map smallCode
  codes.any (0x80 ≤ ·) && isPrepared prepared &&
    !(labelMark.map UInt8.toNat).isPrefixOf prepared && label.length ≤ maxLabelLength &&
    label.map smallByte == labelMark ++ Punycode.encode prepared

/-- The text of a label. -/
def readLabel (bytes : List UInt8) : Except CharsetFault (List Nat) :=
  if maxReadLength < bytes.length then .error .failure
  else if labelMark.isPrefixOf bytes then
    match Punycode.decode (bytes.drop labelMark.length) with
    | .ok codes => if isLabelOf bytes codes then .ok codes else .error .failure
    | .error .byte => .error .unfit
    | .error .digits => .error .failure
  else
    match Encoding.ascii? bytes with
    | some codes => .ok codes
    | none => .error .unfit

/-- Whether some bytes stand anywhere in others. -/
def isInside (part : List UInt8) : List UInt8 → Bool
  | [] => part.isEmpty
  | b :: bytes => part.isPrefixOf (b :: bytes) || isInside part bytes

def point : UInt8 := 0x2E

/-- The text of a domain name. -/
def decode (bytes : List UInt8) : Except CharsetFault (List Nat) :=
  match if isInside labelMark bytes then none else Encoding.ascii? bytes with
  | some codes => .ok codes
  | none => do
    let parts ← (bytes.splitOn point).mapM readLabel
    return [point.toNat].intercalate parts

end Domain
end Text
end Tabletop
