/-!
Characters by their part in the boundaries of text, in version 16 of the standard, where it does not
follow from other properties.
-/

namespace FormIntake.Text.Boundary

def leadingJamoRanges : List (Nat × Nat) := [
  (0x1100, 0x115F), (0xA960, 0xA97C)]

def vowelJamoRanges : List (Nat × Nat) := [
  (0x1160, 0x11A7), (0xD7B0, 0xD7C6), (0x16D63, 0x16D63), (0x16D67, 0x16D6A)]

def trailingJamoRanges : List (Nat × Nat) := [
  (0x11A8, 0x11FF), (0xD7CB, 0xD7FB)]

def syllableRanges : List (Nat × Nat) := [
  (0xAC00, 0xD7A3)]

def prependedRanges : List (Nat × Nat) := [
  (0x0D4E, 0x0D4E), (0x111C2, 0x111C3), (0x113D1, 0x113D1), (0x1193F, 0x1193F), (0x11941, 0x11941),
  (0x11A3A, 0x11A3A), (0x11A84, 0x11A89), (0x11D46, 0x11D46), (0x11F02, 0x11F02)]

/-- The spacing marks that do not belong to the character in front of them. -/
def separateSpacingMarkRanges : List (Nat × Nat) := [
  (0x102B, 0x102C), (0x1038, 0x1038), (0x1062, 0x1064), (0x1067, 0x106D), (0x1083, 0x1083),
  (0x1087, 0x108C), (0x108F, 0x108F), (0x109A, 0x109C), (0x1A61, 0x1A61), (0x1A63, 0x1A64),
  (0xAA7B, 0xAA7B), (0xAA7D, 0xAA7D), (0x11720, 0x11721)]

def joinedVowelRanges : List (Nat × Nat) := [
  (0x0E33, 0x0E33), (0x0EB3, 0x0EB3)]

def tagRanges : List (Nat × Nat) := [
  (0xE0020, 0xE007F)]

def midLetterRanges : List (Nat × Nat) := [
  (0x003A, 0x003A), (0x00B7, 0x00B7), (0x0387, 0x0387), (0x055F, 0x055F), (0x05F4, 0x05F4),
  (0x2027, 0x2027), (0xFE13, 0xFE13), (0xFE55, 0xFE55), (0xFF1A, 0xFF1A)]

def midNumLetRanges : List (Nat × Nat) := [
  (0x002E, 0x002E), (0x2018, 0x2019), (0x2024, 0x2024), (0xFE52, 0xFE52), (0xFF07, 0xFF07),
  (0xFF0E, 0xFF0E)]

def midNumRanges : List (Nat × Nat) := [
  (0x002C, 0x002C), (0x003B, 0x003B), (0x037E, 0x037E), (0x0589, 0x0589), (0x060C, 0x060D),
  (0x066C, 0x066C), (0x07F8, 0x07F8), (0x2044, 0x2044), (0xFE50, 0xFE50), (0xFE54, 0xFE54),
  (0xFF0C, 0xFF0C), (0xFF1B, 0xFF1B)]

def newlineRanges : List (Nat × Nat) := [
  (0x000B, 0x000C), (0x0085, 0x0085), (0x2028, 0x2029)]

/-- The characters besides decimal digits that count as digits of a number. -/
def numberSignRanges : List (Nat × Nat) := [
  (0x0600, 0x0605), (0x066B, 0x066B), (0x06DD, 0x06DD), (0x0890, 0x0891), (0x08E2, 0x08E2),
  (0x19DA, 0x19DA), (0x110BD, 0x110BD), (0x110CD, 0x110CD)]

def dictionaryLetterRanges : List (Nat × Nat) := [
  (0x0E01, 0x0E30), (0x0E32, 0x0E33), (0x0E40, 0x0E46), (0x0E81, 0x0E82), (0x0E84, 0x0E84),
  (0x0E86, 0x0E8A), (0x0E8C, 0x0EA3), (0x0EA5, 0x0EA5), (0x0EA7, 0x0EB0), (0x0EB2, 0x0EB3),
  (0x0EBD, 0x0EBD), (0x0EC0, 0x0EC4), (0x0EC6, 0x0EC6), (0x0EDC, 0x0EDF), (0x1000, 0x102A),
  (0x103F, 0x103F), (0x1050, 0x1055), (0x105A, 0x105D), (0x1061, 0x1061), (0x1065, 0x1066),
  (0x106E, 0x1070), (0x1075, 0x1081), (0x108E, 0x108E), (0x1780, 0x17B3), (0x17D7, 0x17D7),
  (0x17DC, 0x17DC), (0x1950, 0x196D), (0x1970, 0x1974), (0x1980, 0x19AB), (0x19B0, 0x19C9),
  (0x1A20, 0x1A54), (0x1AA7, 0x1AA7), (0xA9E0, 0xA9E4), (0xA9E6, 0xA9EF), (0xA9FA, 0xA9FE),
  (0xAA60, 0xAA76), (0xAA7A, 0xAA7A), (0xAA7E, 0xAAAF), (0xAAB1, 0xAAB1), (0xAAB5, 0xAAB6),
  (0xAAB9, 0xAABD), (0xAAC0, 0xAAC0), (0xAAC2, 0xAAC2), (0xAADB, 0xAADD), (0x11700, 0x1171A),
  (0x11740, 0x11746)]

def wordSymbolRanges : List (Nat × Nat) := [
  (0x02C2, 0x02C5), (0x02D2, 0x02D7), (0x02DE, 0x02DF), (0x02E5, 0x02EB), (0x02ED, 0x02ED),
  (0x02EF, 0x02FF), (0x055A, 0x055C), (0x055E, 0x055E), (0x058A, 0x058A), (0x05F3, 0x05F3),
  (0x070F, 0x070F), (0xA708, 0xA716), (0xA720, 0xA721), (0xA789, 0xA78A), (0xAB5B, 0xAB5B)]

def kanaMarkRanges : List (Nat × Nat) := [
  (0x3031, 0x3035), (0x309B, 0x309C), (0x30A0, 0x30A0), (0x30FC, 0x30FC), (0xFF70, 0xFF70)]

def noBreakSpaceRanges : List (Nat × Nat) := [
  (0x00A0, 0x00A0), (0x2007, 0x2007), (0x202F, 0x202F)]

/-- The format characters that are not passed over in words. -/
def wordFormatExceptionRanges : List (Nat × Nat) := [
  (0x0600, 0x0605), (0x06DD, 0x06DD), (0x070F, 0x070F), (0x0890, 0x0891), (0x08E2, 0x08E2),
  (0x200B, 0x200D), (0x110BD, 0x110BD), (0x110CD, 0x110CD)]

def lowerExceptionRanges : List (Nat × Nat) := [
  (0x10D0, 0x10FA), (0x10FD, 0x10FF)]

def upperExceptionRanges : List (Nat × Nat) := [
  (0x1C90, 0x1CBA), (0x1CBD, 0x1CBF)]

def closingRanges : List (Nat × Nat) := [
  (0x275B, 0x2760), (0x2E00, 0x2E01), (0x2E06, 0x2E08), (0x2E0B, 0x2E0B), (0x1F676, 0x1F678)]

def openQuoteRanges : List (Nat × Nat) := [
  (0xFF02, 0xFF02), (0xFF07, 0xFF07)]

def fullStopRanges : List (Nat × Nat) := [
  (0x002E, 0x002E), (0x2024, 0x2024), (0xFE52, 0xFE52), (0xFF0E, 0xFF0E)]

def continuationRanges : List (Nat × Nat) := [
  (0x002C, 0x002D), (0x003A, 0x003B), (0x037E, 0x037E), (0x055D, 0x055D), (0x060C, 0x060D),
  (0x07F8, 0x07F8), (0x1802, 0x1802), (0x1808, 0x1808), (0x2013, 0x2014), (0x3001, 0x3001),
  (0xFE10, 0xFE11), (0xFE13, 0xFE14), (0xFE31, 0xFE32), (0xFE50, 0xFE51), (0xFE54, 0xFE55),
  (0xFE58, 0xFE58), (0xFE63, 0xFE63), (0xFF0C, 0xFF0D), (0xFF1A, 0xFF1B), (0xFF64, 0xFF64)]

end FormIntake.Text.Boundary
