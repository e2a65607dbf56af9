import CallHierarchy.Text.Basic

/-!
Ranges of characters that are folded alike: capitals next to their small letters, alphabets that
are a copy of another one, and variants of one and the same character.
-/

namespace CallHierarchy.DomainName

/-- Ranges in which every second character, from the first one on, is folded into the next. -/
def alternatingRanges : List (Nat × Nat) :=
  [
    (0x0100, 0x012E), (0x0134, 0x0136), (0x0139, 0x013D), (0x0141, 0x0147), (0x014A, 0x0176),
    (0x0179, 0x017D), (0x0182, 0x0184), (0x01A0, 0x01A4), (0x01B3, 0x01B5), (0x01CD, 0x01DB),
    (0x01DE, 0x01EE), (0x01F8, 0x021E), (0x0222, 0x0232), (0x0246, 0x024E), (0x0370, 0x0372),
    (0x03D8, 0x03EE), (0x0460, 0x0480), (0x048A, 0x04BE), (0x04C1, 0x04CD), (0x04D0, 0x052E),
    (0x1E00, 0x1E94), (0x1EA0, 0x1EFE), (0x2C67, 0x2C6B), (0x2C80, 0x2CE2), (0x2CEB, 0x2CED),
    (0xA640, 0xA66C), (0xA680, 0xA69A), (0xA722, 0xA72E), (0xA732, 0xA76E), (0xA779, 0xA77B),
    (0xA77E, 0xA786), (0xA790, 0xA792), (0xA796, 0xA7A8), (0xA7B4, 0xA7C2), (0xA7C7, 0xA7C9),
    (0xA7CC, 0xA7DA)
  ]

/-- Ranges that are folded into another range, which starts at the third code. -/
def shiftedRanges : List (Nat × Nat × Nat) :=
  [
    (0x00C0, 0x00D6, 0x00E0), (0x00D8, 0x00DE, 0x00F8), (0x0388, 0x038A, 0x03AD),
    (0x0391, 0x03A1, 0x03B1), (0x03A3, 0x03AB, 0x03C3), (0x03FD, 0x03FF, 0x037B),
    (0x0400, 0x040F, 0x0450), (0x0410, 0x042F, 0x0430), (0x0531, 0x0556, 0x0561),
    (0x10A0, 0x10C5, 0x2D00), (0x13F8, 0x13FD, 0x13F0), (0x1C90, 0x1CBA, 0x10D0),
    (0x1CBD, 0x1CBF, 0x10FD), (0x1D33, 0x1D3A, 0x0067), (0x1D5D, 0x1D5F, 0x03B2),
    (0x1DA4, 0x1DA6, 0x0268), (0x1DAE, 0x1DB1, 0x0272), (0x1DBC, 0x1DBE, 0x0290),
    (0x1F08, 0x1F0F, 0x1F00), (0x1F18, 0x1F1D, 0x1F10), (0x1F28, 0x1F2F, 0x1F20),
    (0x1F38, 0x1F3F, 0x1F30), (0x1F48, 0x1F4D, 0x1F40), (0x1F68, 0x1F6F, 0x1F60),
    (0x2074, 0x2079, 0x0034), (0x2080, 0x2089, 0x0030), (0x2096, 0x2099, 0x006B),
    (0x2119, 0x211B, 0x0070), (0x2135, 0x2138, 0x05D0), (0x2460, 0x2468, 0x0031),
    (0x24B6, 0x24CF, 0x0061), (0x24D0, 0x24E9, 0x0061), (0x2C00, 0x2C2F, 0x2C30),
    (0x3137, 0x3139, 0x1103), (0x313A, 0x313F, 0x11B0), (0x3141, 0x3143, 0x1106),
    (0x3145, 0x314E, 0x1109), (0x314F, 0x3163, 0x1161), (0x3178, 0x317C, 0x112B),
    (0x3184, 0x3186, 0x1157), (0x3263, 0x3265, 0x1105), (0x3269, 0x326D, 0x110E),
    (0x32E4, 0x32E9, 0x30CA), (0x32EE, 0x32F2, 0x30DE), (0x32F5, 0x32FA, 0x30E8),
    (0x32FB, 0x32FE, 0x30EF), (0xAB70, 0xABBF, 0x13A0), (0xFB24, 0xFB26, 0x05DB),
    (0xFE41, 0xFE44, 0x300C), (0xFF01, 0xFF20, 0x0021), (0xFF21, 0xFF3A, 0x0061),
    (0xFF3B, 0xFF5E, 0x005B), (0xFF85, 0xFF8A, 0x30CA), (0xFF8F, 0xFF93, 0x30DE),
    (0xFF96, 0xFF9B, 0x30E8), (0xFFA7, 0xFFA9, 0x1103), (0xFFAA, 0xFFAF, 0x11B0),
    (0xFFB1, 0xFFB3, 0x1106), (0xFFB5, 0xFFBE, 0x1109), (0xFFC2, 0xFFC7, 0x1161),
    (0xFFCA, 0xFFCF, 0x1167), (0xFFD2, 0xFFD7, 0x116D), (0xFFDA, 0xFFDC, 0x1173),
    (0xFFE9, 0xFFEC, 0x2190), (0x10400, 0x10427, 0x10428), (0x104B0, 0x104D3, 0x104D8),
    (0x10570, 0x1057A, 0x10597), (0x1057C, 0x1058A, 0x105A3), (0x1058C, 0x10592, 0x105B3),
    (0x107B6, 0x107B8, 0x01C0), (0x10C80, 0x10CB2, 0x10CC0), (0x10D50, 0x10D65, 0x10D70),
    (0x118A0, 0x118BF, 0x118C0), (0x16E40, 0x16E5F, 0x16E60), (0x16EA0, 0x16EB8, 0x16EBB),
    (0x1CCD6, 0x1CCEF, 0x0061), (0x1CCF0, 0x1CCF9, 0x0030), (0x1D400, 0x1D419, 0x0061),
    (0x1D41A, 0x1D433, 0x0061), (0x1D434, 0x1D44D, 0x0061), (0x1D44E, 0x1D454, 0x0061),
    (0x1D456, 0x1D467, 0x0069), (0x1D468, 0x1D481, 0x0061), (0x1D482, 0x1D49B, 0x0061),
    (0x1D4A9, 0x1D4AC, 0x006E), (0x1D4AE, 0x1D4B5, 0x0073), (0x1D4B6, 0x1D4B9, 0x0061),
    (0x1D4BD, 0x1D4C3, 0x0068), (0x1D4C5, 0x1D4CF, 0x0070), (0x1D4D0, 0x1D4E9, 0x0061),
    (0x1D4EA, 0x1D503, 0x0061), (0x1D507, 0x1D50A, 0x0064), (0x1D50D, 0x1D514, 0x006A),
    (0x1D516, 0x1D51C, 0x0073), (0x1D51E, 0x1D537, 0x0061), (0x1D53B, 0x1D53E, 0x0064),
    (0x1D540, 0x1D544, 0x0069), (0x1D54A, 0x1D550, 0x0073), (0x1D552, 0x1D56B, 0x0061),
    (0x1D56C, 0x1D585, 0x0061), (0x1D586, 0x1D59F, 0x0061), (0x1D5A0, 0x1D5B9, 0x0061),
    (0x1D5BA, 0x1D5D3, 0x0061), (0x1D5D4, 0x1D5ED, 0x0061), (0x1D5EE, 0x1D607, 0x0061),
    (0x1D608, 0x1D621, 0x0061), (0x1D622, 0x1D63B, 0x0061), (0x1D63C, 0x1D655, 0x0061),
    (0x1D656, 0x1D66F, 0x0061), (0x1D670, 0x1D689, 0x0061), (0x1D68A, 0x1D6A3, 0x0061),
    (0x1D6A8, 0x1D6B8, 0x03B1), (0x1D6BA, 0x1D6C0, 0x03C3), (0x1D6C2, 0x1D6D2, 0x03B1),
    (0x1D6D4, 0x1D6DA, 0x03C3), (0x1D6E2, 0x1D6F2, 0x03B1), (0x1D6F4, 0x1D6FA, 0x03C3),
    (0x1D6FC, 0x1D70C, 0x03B1), (0x1D70E, 0x1D714, 0x03C3), (0x1D71C, 0x1D72C, 0x03B1),
    (0x1D72E, 0x1D734, 0x03C3), (0x1D736, 0x1D746, 0x03B1), (0x1D748, 0x1D74E, 0x03C3),
    (0x1D756, 0x1D766, 0x03B1), (0x1D768, 0x1D76E, 0x03C3), (0x1D770, 0x1D780, 0x03B1),
    (0x1D782, 0x1D788, 0x03C3), (0x1D790, 0x1D7A0, 0x03B1), (0x1D7A2, 0x1D7A8, 0x03C3),
    (0x1D7AA, 0x1D7BA, 0x03B1), (0x1D7BC, 0x1D7C2, 0x03C3), (0x1D7CE, 0x1D7D7, 0x0030),
    (0x1D7D8, 0x1D7E1, 0x0030), (0x1D7E2, 0x1D7EB, 0x0030), (0x1D7EC, 0x1D7F5, 0x0030),
    (0x1D7F6, 0x1D7FF, 0x0030), (0x1E030, 0x1E038, 0x0430), (0x1E039, 0x1E03B, 0x043A),
    (0x1E03C, 0x1E046, 0x043E), (0x1E051, 0x1E059, 0x0430), (0x1E05F, 0x1E064, 0x0443),
    (0x1E900, 0x1E921, 0x1E922), (0x1EE0A, 0x1EE0D, 0x0643), (0x1EE2A, 0x1EE2D, 0x0643),
    (0x1EE8B, 0x1EE8D, 0x0644), (0x1EEAB, 0x1EEAD, 0x0644), (0x1F130, 0x1F149, 0x0061),
    (0x1FBF0, 0x1FBF9, 0x0030)
  ]

/-- Ranges whose characters are all folded into the one with the third code. -/
def variantRanges : List (Nat × Nat × Nat) :=
  [
    (0x2000, 0x200A, 0x0020), (0x210B, 0x210E, 0x0068), (0xFB52, 0xFB55, 0x067B),
    (0xFB56, 0xFB59, 0x067E), (0xFB5A, 0xFB5D, 0x0680), (0xFB5E, 0xFB61, 0x067A),
    (0xFB62, 0xFB65, 0x067F), (0xFB66, 0xFB69, 0x0679), (0xFB6A, 0xFB6D, 0x06A4),
    (0xFB6E, 0xFB71, 0x06A6), (0xFB72, 0xFB75, 0x0684), (0xFB76, 0xFB79, 0x0683),
    (0xFB7A, 0xFB7D, 0x0686), (0xFB7E, 0xFB81, 0x0687), (0xFB8E, 0xFB91, 0x06A9),
    (0xFB92, 0xFB95, 0x06AF), (0xFB96, 0xFB99, 0x06B3), (0xFB9A, 0xFB9D, 0x06B1),
    (0xFBA0, 0xFBA3, 0x06BB), (0xFBA6, 0xFBA9, 0x06C1), (0xFBAA, 0xFBAD, 0x06BE),
    (0xFBD3, 0xFBD6, 0x06AD), (0xFBE4, 0xFBE7, 0x06D0), (0xFBFC, 0xFBFF, 0x06CC),
    (0xFE4D, 0xFE4F, 0x005F), (0xFE89, 0xFE8C, 0x0626), (0xFE8F, 0xFE92, 0x0628),
    (0xFE95, 0xFE98, 0x062A), (0xFE99, 0xFE9C, 0x062B), (0xFE9D, 0xFEA0, 0x062C),
    (0xFEA1, 0xFEA4, 0x062D), (0xFEA5, 0xFEA8, 0x062E), (0xFEB1, 0xFEB4, 0x0633),
    (0xFEB5, 0xFEB8, 0x0634), (0xFEB9, 0xFEBC, 0x0635), (0xFEBD, 0xFEC0, 0x0636),
    (0xFEC1, 0xFEC4, 0x0637), (0xFEC5, 0xFEC8, 0x0638), (0xFEC9, 0xFECC, 0x0639),
    (0xFECD, 0xFED0, 0x063A), (0xFED1, 0xFED4, 0x0641), (0xFED5, 0xFED8, 0x0642),
    (0xFED9, 0xFEDC, 0x0643), (0xFEDD, 0xFEE0, 0x0644), (0xFEE1, 0xFEE4, 0x0645),
    (0xFEE5, 0xFEE8, 0x0646), (0xFEE9, 0xFEEC, 0x0647), (0xFEF1, 0xFEF4, 0x064A),
    (0x2F831, 0x2F833, 0x537F)
  ]

end CallHierarchy.DomainName
