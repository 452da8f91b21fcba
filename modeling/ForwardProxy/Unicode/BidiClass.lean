import ForwardProxy.Unicode.Marks

/-!
This module contains the bidirectional classes of the characters that a host name may hold.
-/

namespace ForwardProxy.Unicode

inductive BidiClass
  | leftToRight
  | rightToLeft
  | arabicLetter
  | arabicNumber
  | europeanNumber
  | europeanSeparator
  | europeanTerminator
  | commonSeparator
  | nonspacingMark
  | boundaryNeutral
  | otherNeutral
  /-- Blanks and the separators of segments and paragraphs. -/
  | separator
  deriving DecidableEq, Repr

/-- The characters other than nonspacing marks that do not run from left to right. -/
def bidiClasses : List (Nat × Nat × BidiClass) := [
  (0x0, 0x8, .boundaryNeutral), (0x9, 0xD, .separator), (0xE, 0x1B, .boundaryNeutral),
  (0x1C, 0x20, .separator), (0x21, 0x22, .otherNeutral), (0x23, 0x25, .europeanTerminator),
  (0x26, 0x2A, .otherNeutral), (0x2B, 0x2B, .europeanSeparator), (0x2C, 0x2C, .commonSeparator),
  (0x2D, 0x2D, .europeanSeparator), (0x2E, 0x2F, .commonSeparator),
  (0x30, 0x39, .europeanNumber), (0x3A, 0x3A, .commonSeparator), (0x3B, 0x60, .otherNeutral),
  (0x7B, 0x7E, .otherNeutral), (0x7F, 0x7F, .boundaryNeutral), (0xA1, 0xA1, .otherNeutral),
  (0xA2, 0xA5, .europeanTerminator), (0xA6, 0xAE, .otherNeutral),
  (0xB0, 0xB1, .europeanTerminator), (0xB6, 0xD7, .otherNeutral), (0xF7, 0xF7, .otherNeutral),
  (0x2B9, 0x2BA, .otherNeutral), (0x2C2, 0x2CF, .otherNeutral), (0x2D2, 0x2ED, .otherNeutral),
  (0x2EF, 0x2FF, .otherNeutral), (0x375, 0x375, .otherNeutral), (0x3F6, 0x3F6, .otherNeutral),
  (0x58A, 0x58E, .otherNeutral), (0x58F, 0x58F, .europeanTerminator),
  (0x5BE, 0x5F4, .rightToLeft), (0x606, 0x607, .otherNeutral), (0x608, 0x608, .arabicLetter),
  (0x609, 0x60A, .europeanTerminator), (0x60B, 0x60B, .arabicLetter),
  (0x60C, 0x60C, .commonSeparator), (0x60D, 0x60D, .arabicLetter),
  (0x60E, 0x60F, .otherNeutral), (0x61B, 0x64A, .arabicLetter), (0x660, 0x669, .arabicNumber),
  (0x66A, 0x66A, .europeanTerminator), (0x66B, 0x66C, .arabicNumber),
  (0x66D, 0x6D5, .arabicLetter), (0x6DE, 0x6DE, .otherNeutral), (0x6E5, 0x6E6, .arabicLetter),
  (0x6E9, 0x6E9, .otherNeutral), (0x6EE, 0x6EF, .arabicLetter), (0x6F0, 0x6F9, .europeanNumber),
  (0x6FA, 0x7B1, .arabicLetter), (0x7C0, 0x7F5, .rightToLeft), (0x7F6, 0x7F9, .otherNeutral),
  (0x7FA, 0x85E, .rightToLeft), (0x860, 0x8C9, .arabicLetter),
  (0x9F2, 0x9F3, .europeanTerminator), (0x9FB, 0x9FB, .europeanTerminator),
  (0xAF1, 0xAF1, .europeanTerminator), (0xBF3, 0xBF8, .otherNeutral),
  (0xBF9, 0xBF9, .europeanTerminator), (0xBFA, 0xBFA, .otherNeutral),
  (0xC78, 0xC7E, .otherNeutral), (0xE3F, 0xE3F, .europeanTerminator),
  (0xF3A, 0xF3D, .otherNeutral), (0x1390, 0x1399, .otherNeutral),
  (0x1400, 0x1400, .otherNeutral), (0x169B, 0x169C, .otherNeutral),
  (0x17DB, 0x17DB, .europeanTerminator), (0x17F0, 0x180A, .otherNeutral),
  (0x1940, 0x1945, .otherNeutral), (0x19DE, 0x19FF, .otherNeutral),
  (0x200C, 0x200D, .boundaryNeutral), (0x2010, 0x2027, .otherNeutral),
  (0x2030, 0x2032, .europeanTerminator), (0x2035, 0x2043, .otherNeutral),
  (0x2044, 0x2044, .commonSeparator), (0x2045, 0x205E, .otherNeutral),
  (0x20A0, 0x20C4, .europeanTerminator), (0x2104, 0x2129, .otherNeutral),
  (0x212E, 0x212E, .europeanTerminator), (0x213A, 0x214D, .otherNeutral),
  (0x218A, 0x2211, .otherNeutral), (0x2212, 0x2212, .europeanSeparator),
  (0x2213, 0x2213, .europeanTerminator), (0x2214, 0x2335, .otherNeutral),
  (0x237B, 0x2394, .otherNeutral), (0x2396, 0x26AB, .otherNeutral),
  (0x26AD, 0x27FF, .otherNeutral), (0x2900, 0x2BFF, .otherNeutral),
  (0x2CE5, 0x2CEA, .otherNeutral), (0x2CF9, 0x2CFF, .otherNeutral),
  (0x2E00, 0x3004, .otherNeutral), (0x3008, 0x3020, .otherNeutral),
  (0x3030, 0x3030, .otherNeutral), (0x3037, 0x3037, .otherNeutral),
  (0x303D, 0x303F, .otherNeutral), (0x30A0, 0x30A0, .otherNeutral),
  (0x30FB, 0x30FB, .otherNeutral), (0x31C0, 0x31E5, .otherNeutral),
  (0x4DC0, 0x4DFF, .otherNeutral), (0xA490, 0xA4C6, .otherNeutral),
  (0xA60D, 0xA60F, .otherNeutral), (0xA673, 0xA67F, .otherNeutral),
  (0xA700, 0xA721, .otherNeutral), (0xA788, 0xA788, .otherNeutral),
  (0xA828, 0xA82B, .otherNeutral), (0xA838, 0xA839, .europeanTerminator),
  (0xA874, 0xA877, .otherNeutral), (0xAB6A, 0xAB6B, .otherNeutral),
  (0xFBB2, 0xFBC2, .arabicLetter), (0xFBC3, 0xFE46, .otherNeutral),
  (0xFE73, 0xFE73, .arabicLetter), (0x10101, 0x10101, .otherNeutral),
  (0x10140, 0x1018C, .otherNeutral), (0x10190, 0x101A0, .otherNeutral),
  (0x102E1, 0x102FB, .europeanNumber), (0x10800, 0x1091B, .rightToLeft),
  (0x1091F, 0x1091F, .otherNeutral), (0x10920, 0x10B35, .rightToLeft),
  (0x10B39, 0x10B3F, .otherNeutral), (0x10B40, 0x10CFF, .rightToLeft),
  (0x10D00, 0x10D23, .arabicLetter), (0x10D30, 0x10D49, .arabicNumber),
  (0x10D4A, 0x10D4F, .rightToLeft), (0x10D6E, 0x10D6E, .otherNeutral),
  (0x10D6F, 0x10D8F, .rightToLeft), (0x10E60, 0x10E7E, .arabicNumber),
  (0x10E80, 0x10EB1, .rightToLeft), (0x10EC2, 0x10EC7, .arabicLetter),
  (0x10ED0, 0x10ED8, .otherNeutral), (0x10F00, 0x10F27, .rightToLeft),
  (0x10F30, 0x10F59, .arabicLetter), (0x10F70, 0x10FF6, .rightToLeft),
  (0x11052, 0x11065, .otherNeutral), (0x11660, 0x1166C, .otherNeutral),
  (0x1171E, 0x1171E, .nonspacingMark), (0x11FD5, 0x11FDC, .otherNeutral),
  (0x11FDD, 0x11FE0, .europeanTerminator), (0x11FE1, 0x11FF1, .otherNeutral),
  (0x16FE2, 0x16FE2, .otherNeutral), (0x1CC00, 0x1CEFD, .otherNeutral),
  (0x1D1E9, 0x1D281, .otherNeutral), (0x1D300, 0x1D356, .otherNeutral),
  (0x1DB00, 0x1DBFF, .otherNeutral), (0x1E2FF, 0x1E2FF, .europeanTerminator),
  (0x1E800, 0x1E95F, .rightToLeft), (0x1EC71, 0x1ED3D, .arabicLetter),
  (0x1EEF0, 0x1F12F, .otherNeutral), (0x1F16D, 0x1F16F, .otherNeutral),
  (0x1F1AD, 0x1F1AE, .otherNeutral), (0x1F260, 0x1FBFA, .otherNeutral)]

def leftToRightMarks : Spans := [
  (0xCBF, 0xCBF), (0xCC6, 0xCC6), (0x11A07, 0x11A08), (0x11C3F, 0x11C3F)]

/-- `Bidi_Class`. -/
def bidiClass (c : Char) : BidiClass :=
  if isNonspacingMark c && !leftToRightMarks.holds c.toNat then .nonspacingMark
  else (valueAt? bidiClasses c.toNat).getD .leftToRight

end ForwardProxy.Unicode
