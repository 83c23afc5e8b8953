import RuleGraph.Unicode.Property

/-!
# Where texts may be divided

The Unicode standard finds the ends of user-perceived characters, words and sentences by classes of
characters, one system of classes for each.
-/
namespace RuleGraph.Unicode.Break

/-! The classes for user-perceived characters. -/
namespace Grapheme

def control : Ranges :=
  Ranges.diff (Category.controls ++ Category.formats ++ Category.lineSeparators ++
    Category.paragraphSeparators ++ Ranges.inter Category.unassigned Property.defaultIgnorable)
    ([(0xA, 0xA), (0xD, 0xD), (0x200C, 0x200D), (0xE0020, 0xE007F)] ++ Property.prependedMarks)

def extend : Ranges := Ranges.union Property.graphemeExtend Property.emojiModifiers

/-- Korean letters that begin a syllable. -/
def leading : Ranges := [(0x1100, 0x115F), (0xA960, 0xA97C)]

def vowel : Ranges := [(0x1160, 0x11A7), (0xD7B0, 0xD7C6), (0x16D63, 0x16D63), (0x16D67, 0x16D6A)]

def trailing : Ranges := [(0x11A8, 0x11FF), (0xD7CB, 0xD7FB)]

/-- The code points of whole Korean syllables. -/
def syllables : Nat × Nat := (0xAC00, 0xD7A3)

/-- Korean syllables without a final letter: every 28th. -/
def openSyllables : Ranges :=
  (List.range ((syllables.2 + 1 - syllables.1) / 28)).map fun i =>
    (syllables.1 + 28 * i, syllables.1 + 28 * i)

def closedSyllables : Ranges := Ranges.diff [syllables] openSyllables

def otherPrepended : Ranges :=
  [(0xD4E, 0xD4E), (0x111C2, 0x111C3), (0x113D1, 0x113D1), (0x1193F, 0x1193F), (0x11941, 0x11941),
   (0x11A84, 0x11A89), (0x11D46, 0x11D46), (0x11F02, 0x11F02)]

def prepended : Ranges := Ranges.union Property.prependedMarks otherPrepended

/-- Spacing marks that stand for themselves. -/
def independentMarks : Ranges :=
  [(0x102B, 0x102C), (0x1038, 0x1038), (0x1062, 0x1064), (0x1067, 0x106D), (0x1083, 0x1083),
   (0x1087, 0x108C), (0x108F, 0x108F), (0x109A, 0x109C), (0x1A61, 0x1A61), (0x1A63, 0x1A64),
   (0xAA7B, 0xAA7B), (0xAA7D, 0xAA7D), (0x11720, 0x11721)]

def spacingMark : Ranges :=
  Ranges.union [(0xE33, 0xE33), (0xEB3, 0xEB3)]
    (Ranges.diff Category.spacingMarks (Property.graphemeExtend ++ independentMarks))

/-- The classes by abbreviation and by name, both without capitals and underscores. -/
def table : List (List String × Ranges) :=
  [(["cr"], [(0xD, 0xD)]), (["lf"], [(0xA, 0xA)]), (["cn", "control"], control),
   (["ex", "extend"], extend), (["l"], leading), (["v"], vowel), (["t"], trailing),
   (["lv"], openSyllables), (["lvt"], closedSyllables), (["pp", "prepend"], prepended),
   (["ri", "regionalindicator"], Property.regionalIndicators), (["sm", "spacingmark"], spacingMark),
   (["zwj"], [(0x200D, 0x200D)])]

end Grapheme

/-! The classes for words. -/
namespace Word

/-- Signs that count as letters. -/
def letterSigns : Ranges :=
  [(0xB8, 0xB8), (0x2C2, 0x2C5), (0x2D2, 0x2D7), (0x2DE, 0x2DF), (0x2E5, 0x2EB), (0x2ED, 0x2ED),
   (0x2EF, 0x2FF), (0x55A, 0x55C), (0x55E, 0x55E), (0x58A, 0x58A), (0x5F3, 0x5F3), (0x70F, 0x70F),
   (0xA708, 0xA716), (0xA720, 0xA721), (0xA789, 0xA78A), (0xAB5B, 0xAB5B)]

def hebrewLetters : Ranges :=
  [(0x5D0, 0x5EA), (0x5EF, 0x5F2), (0xFB1D, 0xFB1D), (0xFB1F, 0xFB28), (0xFB2A, 0xFB36),
   (0xFB38, 0xFB3C), (0xFB3E, 0xFB3E), (0xFB40, 0xFB41), (0xFB43, 0xFB44), (0xFB46, 0xFB4F)]

def katakana : Ranges :=
  [(0x3031, 0x3035), (0x309B, 0x309C), (0x30A0, 0x30FA), (0x30FC, 0x30FF), (0x31F0, 0x31FF),
   (0x32D0, 0x32FE), (0x3300, 0x3357), (0xFF66, 0xFF9D), (0x1AFF0, 0x1AFF3), (0x1AFF5, 0x1AFFB),
   (0x1AFFD, 0x1AFFE), (0x1B000, 0x1B000), (0x1B120, 0x1B122), (0x1B155, 0x1B155),
   (0x1B164, 0x1B167)]

/-- Letters of writing systems without spaces between words. -/
def unspacedLetters : Ranges :=
  [(0xE01, 0xE30), (0xE32, 0xE33), (0xE40, 0xE46), (0xE81, 0xE82), (0xE84, 0xE84), (0xE86, 0xE8A),
   (0xE8C, 0xEA3), (0xEA5, 0xEA5), (0xEA7, 0xEB0), (0xEB2, 0xEB3), (0xEBD, 0xEBD), (0xEC0, 0xEC4),
   (0xEC6, 0xEC6), (0xEDC, 0xEDF), (0x1000, 0x102A), (0x103F, 0x103F), (0x1050, 0x1055),
   (0x105A, 0x105D), (0x1061, 0x1061), (0x1065, 0x1066), (0x106E, 0x1070), (0x1075, 0x1081),
   (0x108E, 0x108E), (0x1780, 0x17B3), (0x17D7, 0x17D7), (0x17DC, 0x17DC), (0x1950, 0x196D),
   (0x1970, 0x1974), (0x1980, 0x19AB), (0x19B0, 0x19C9), (0x1A20, 0x1A54), (0x1AA7, 0x1AA7),
   (0x3041, 0x3096), (0x309D, 0x309F), (0xA9E0, 0xA9E4), (0xA9E6, 0xA9EF), (0xA9FA, 0xA9FE),
   (0xAA60, 0xAA76), (0xAA7A, 0xAA7A), (0xAA7E, 0xAAAF), (0xAAB1, 0xAAB1), (0xAAB5, 0xAAB6),
   (0xAAB9, 0xAABD), (0xAAC0, 0xAAC0), (0xAAC2, 0xAAC2), (0xAADB, 0xAADD), (0xFF9E, 0xFF9F),
   (0x11700, 0x1171A), (0x11740, 0x11746), (0x1B001, 0x1B11F), (0x1B132, 0x1B132),
   (0x1B150, 0x1B152)]

def letters : Ranges :=
  Ranges.union letterSigns
    (Ranges.diff Property.alphabetic (Category.marks ++ Property.ideographs ++ hebrewLetters ++
      katakana ++ unspacedLetters))

def extend : Ranges :=
  Ranges.normal (Property.graphemeExtend ++ Category.spacingMarks ++ Property.emojiModifiers)

/-- Format characters with another class. -/
def notFormat : Ranges :=
  [(0x600, 0x605), (0x6DD, 0x6DD), (0x70F, 0x70F), (0x890, 0x891), (0x8E2, 0x8E2), (0x200B, 0x200D),
   (0x110BD, 0x110BD), (0x110CD, 0x110CD), (0xE0020, 0xE007F)]

def format : Ranges := Ranges.diff Category.formats notFormat

def otherNumeric : Ranges :=
  [(0x600, 0x605), (0x66B, 0x66B), (0x6DD, 0x6DD), (0x890, 0x891), (0x8E2, 0x8E2), (0x19DA, 0x19DA),
   (0x110BD, 0x110BD), (0x110CD, 0x110CD)]

def numeric : Ranges := Ranges.union Category.decimalNumbers otherNumeric

def connectors : Ranges :=
  [(0x5F, 0x5F), (0x202F, 0x202F), (0x203F, 0x2040), (0x2054, 0x2054), (0xFE33, 0xFE34),
   (0xFE4D, 0xFE4F), (0xFF3F, 0xFF3F)]

def midLetter : Ranges :=
  [(0x3A, 0x3A), (0xB7, 0xB7), (0x387, 0x387), (0x55F, 0x55F), (0x5F4, 0x5F4), (0x2027, 0x2027),
   (0xFE13, 0xFE13), (0xFE55, 0xFE55), (0xFF1A, 0xFF1A)]

def midNumber : Ranges :=
  [(0x2C, 0x2C), (0x3B, 0x3B), (0x37E, 0x37E), (0x589, 0x589), (0x60C, 0x60D), (0x66C, 0x66C),
   (0x7F8, 0x7F8), (0x2044, 0x2044), (0xFE50, 0xFE50), (0xFE54, 0xFE54), (0xFF0C, 0xFF0C),
   (0xFF1B, 0xFF1B)]

def midNumberOrLetter : Ranges :=
  [(0x2E, 0x2E), (0x2018, 0x2019), (0x2024, 0x2024), (0xFE52, 0xFE52), (0xFF07, 0xFF07),
   (0xFF0E, 0xFF0E)]

def newlines : Ranges := [(0xB, 0xC), (0x85, 0x85), (0x2028, 0x2029)]

def spaces : Ranges :=
  [(0x20, 0x20), (0x1680, 0x1680), (0x2000, 0x2006), (0x2008, 0x200A), (0x205F, 0x205F),
   (0x3000, 0x3000)]

/-- The classes by abbreviation and by name, both without capitals and underscores. -/
def table : List (List String × Ranges) :=
  [(["le", "aletter"], letters), (["cr"], [(0xD, 0xD)]), (["dq", "doublequote"], [(0x22, 0x22)]),
   (["extend"], extend), (["ex", "extendnumlet"], connectors), (["fo", "format"], format),
   (["hl", "hebrewletter"], hebrewLetters), (["ka", "katakana"], katakana), (["lf"], [(0xA, 0xA)]),
   (["ml", "midletter"], midLetter), (["mn", "midnum"], midNumber),
   (["mb", "midnumlet"], midNumberOrLetter), (["nl", "newline"], newlines),
   (["nu", "numeric"], numeric), (["ri", "regionalindicator"], Property.regionalIndicators),
   (["sq", "singlequote"], [(0x27, 0x27)]), (["wsegspace"], spaces), (["zwj"], [(0x200D, 0x200D)])]

end Word

/-! The classes for sentences. -/
namespace Sentence

def lower : Ranges :=
  Ranges.diff Property.lowercase (Property.graphemeExtend ++ [(0x10D0, 0x10FA), (0x10FD, 0x10FF)])

def upper : Ranges :=
  Ranges.diff (Property.uppercase ++ Category.titlecaseLetters) [(0x1C90, 0x1CBA), (0x1CBD, 0x1CBF)]

def otherLetters : Ranges :=
  Ranges.union [(0x5F3, 0x5F3)]
    (Ranges.diff Property.alphabetic (lower ++ upper ++ Category.marks ++ Property.graphemeExtend))

def numeric : Ranges := Ranges.union Word.numeric [(0x66C, 0x66C)]

def extend : Ranges :=
  Ranges.normal ((0x200D, 0x200D) :: Property.graphemeExtend ++ Category.spacingMarks)

def format : Ranges := Ranges.union Word.format [(0x70F, 0x70F), (0x200B, 0x200B)]

def fullStops : Ranges := [(0x2E, 0x2E), (0x2024, 0x2024), (0xFE52, 0xFE52), (0xFF0E, 0xFF0E)]

def terminals : Ranges := Ranges.diff Property.sentenceTerminals fullStops

def otherClosing : Ranges :=
  [(0x22, 0x22), (0x27, 0x27), (0x275B, 0x2760), (0x2E00, 0x2E01), (0x2E06, 0x2E08),
   (0x2E0B, 0x2E0B), (0x1F676, 0x1F678)]

def closing : Ranges :=
  Ranges.normal (otherClosing ++ Category.openingMarks ++ Category.closingMarks ++
    Category.initialQuotes ++ Category.finalQuotes)

def continuing : Ranges :=
  [(0x2C, 0x2D), (0x3A, 0x3B), (0x37E, 0x37E), (0x55D, 0x55D), (0x60C, 0x60D), (0x7F8, 0x7F8),
   (0x1802, 0x1802), (0x1808, 0x1808), (0x2013, 0x2014), (0x3001, 0x3001), (0xFE10, 0xFE11),
   (0xFE13, 0xFE14), (0xFE31, 0xFE32), (0xFE50, 0xFE51), (0xFE54, 0xFE55), (0xFE58, 0xFE58),
   (0xFE63, 0xFE63), (0xFF0C, 0xFF0D), (0xFF1A, 0xFF1B), (0xFF64, 0xFF64)]

def spaces : Ranges :=
  Ranges.diff Property.whiteSpace [(0xA, 0xA), (0xD, 0xD), (0x85, 0x85), (0x2028, 0x2029)]

def separators : Ranges := [(0x85, 0x85), (0x2028, 0x2029)]

/-- The classes by abbreviation and by name, both without capitals and underscores. -/
def table : List (List String × Ranges) :=
  [(["at", "aterm"], fullStops), (["cl", "close"], closing), (["cr"], [(0xD, 0xD)]),
   (["ex", "extend"], extend), (["fo", "format"], format), (["lf"], [(0xA, 0xA)]),
   (["lo", "lower"], lower), (["nu", "numeric"], numeric), (["le", "oletter"], otherLetters),
   (["sc", "scontinue"], continuing), (["se", "sep"], separators), (["sp"], spaces),
   (["st", "sterm"], terminals), (["up", "upper"], upper)]

end Sentence

/-- The class with the given normalised name in a system of classes. -/
def find? (table : List (List String × Ranges)) (name : String) : Option Ranges :=
  (table.find? fun entry => entry.1.contains name).map Prod.snd

end RuleGraph.Unicode.Break
