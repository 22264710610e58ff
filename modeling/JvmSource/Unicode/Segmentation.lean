import JvmSource.Unicode.BinaryProperty
import JvmSource.Unicode.Script

/-!
# Boundaries in text

The classes of characters that decide where a text may be cut into graphemes, words and sentences.
Names of classes are given in lower case without separators.
-/

namespace JvmSource.Unicode

open CharSet Category

/-- Format characters that neither join characters nor span digits. -/
def plainFormats : CharSet :=
  format.set.difference (unions [BinaryProperty.graphemeExtend.set, ofRanges [(0x200C, 0x200D)],
    ofRanges prependedMarks])

/-- Signs that span digits; the one that spans letters is left out. -/
def numberSigns : CharSet := (ofRanges prependedMarks).difference (ofRanges [(0x70F, 0x70F)])

/-- Marks that belong to the character before them. -/
def attached : CharSet := BinaryProperty.graphemeExtend.set.union spacingMark.set

/-- Skin tones. -/
def skinTones : CharSet := ofRanges [(0x1F3FB, 0x1F3FF)]

/-! ## Graphemes -/

/-- The classes of characters in grapheme boundaries. -/
inductive GraphemeBreak where
  | control | carriageReturn | extend | leading | lineFeed | leadingVowel | leadingVowelTrailing
  | prepend | regionalIndicator | spacing | trailing | vowel | joiner
deriving DecidableEq, Repr

namespace GraphemeBreak

/-- Marks with a width that do not keep the character before them from ending a grapheme. -/
def looseMarks : Ranges := [
  (0x102B, 0x102C), (0x1038, 0x1038), (0x1062, 0x1064), (0x1067, 0x106D), (0x1083, 0x1083),
  (0x1087, 0x108C), (0x108F, 0x108F), (0x109A, 0x109C), (0x1A61, 0x1A61), (0x1A63, 0x1A64),
  (0xAA7B, 0xAA7B), (0xAA7D, 0xAA7D), (0x11720, 0x11721)]

/-- Consonants that are written before the cluster they belong to. -/
def precedingConsonants : Ranges := [
  (0xD4E, 0xD4E), (0x111C2, 0x111C3), (0x113D1, 0x113D1), (0x1193F, 0x1193F), (0x11941, 0x11941),
  (0x11A3A, 0x11A3A), (0x11A84, 0x11A89), (0x11D46, 0x11D46), (0x11F02, 0x11F02)]

/-- The first code points of the blocks of Hangul syllables with the same start. -/
def syllableBlocks : List Nat := (List.range 399).map fun block => 0xAC00 + 28 * block

/-- The characters of a class. -/
def set : GraphemeBreak → CharSet
  | control =>
    let ignored := unassigned.set.intersection BinaryProperty.defaultIgnorable.set
    (unions [sets [lineSeparator, paragraphSeparator, Category.control], plainFormats,
      ignored]).difference (ofRanges [(0xA, 0xA), (0xD, 0xD)])
  | carriageReturn => single '\r'
  | extend => BinaryProperty.graphemeExtend.set.union skinTones
  | leading => ofRanges [(0x1100, 0x115F), (0xA960, 0xA97C)]
  | lineFeed => single '\n'
  | leadingVowel => ofCodePoints syllableBlocks
  | leadingVowelTrailing => ofRanges (syllableBlocks.map fun start => (start + 1, start + 27))
  | prepend => ofRanges (prependedMarks ++ precedingConsonants)
  | regionalIndicator => BinaryProperty.regionalIndicator.set
  | spacing =>
    (spacingMark.set.union (ofRanges [(0xE33, 0xE33), (0xEB3, 0xEB3)])).difference
      (BinaryProperty.graphemeExtend.set.union (ofRanges looseMarks))
  | trailing => ofRanges [(0x11A8, 0x11FF), (0xD7CB, 0xD7FB)]
  | vowel => ofRanges [(0x1160, 0x11A7), (0xD7B0, 0xD7C6), (0x16D63, 0x16D63), (0x16D67, 0x16D6A)]
  | joiner => ofRanges [(0x200D, 0x200D)]

/-- The classes with their names. -/
def named : List (List String × GraphemeBreak) := [
  (["cn", "control"], control), (["cr"], carriageReturn), (["ex", "extend"], extend),
  (["l"], leading), (["lf"], lineFeed), (["lv"], leadingVowel), (["lvt"], leadingVowelTrailing),
  (["pp", "prepend"], prepend), (["ri", "regionalindicator"], regionalIndicator),
  (["sm", "spacingmark"], spacing), (["t"], trailing), (["v"], vowel), (["zwj"], joiner)]

end GraphemeBreak

/-! ## Words -/

/-- The classes of characters in word boundaries. -/
inductive WordBreak where
  | letter | carriageReturn | doubleQuote | extend | connector | format | hebrewLetter | katakana
  | lineFeed | midLetter | midNumber | midBoth | newline | numeric | regionalIndicator
  | singleQuote | blank | joiner
deriving DecidableEq, Repr

namespace WordBreak

/-- Characters that are part of words without being alphabetic. -/
def wordSigns : Ranges := [
  (0x2C2, 0x2C5), (0x2D2, 0x2D7), (0x2DE, 0x2DF), (0x2E5, 0x2EB), (0x2ED, 0x2ED), (0x2EF, 0x2FF),
  (0x55A, 0x55C), (0x55E, 0x55E), (0x58A, 0x58A), (0x5F3, 0x5F3), (0x70F, 0x70F),
  (0xA708, 0xA716), (0xA720, 0xA721), (0xA789, 0xA78A), (0xAB5B, 0xAB5B)]

/-- Marks of Japanese text that belong to words in katakana. -/
def katakanaSigns : Ranges := [
  (0x3031, 0x3035), (0x309B, 0x309C), (0x30A0, 0x30A0), (0x30FC, 0x30FC), (0xFF70, 0xFF70)]

/-- The characters of some scripts. -/
def ofScripts (names : List String) : CharSet :=
  unions (names.filterMap fun name => (Script.find? name).map (·.set))

/-- Letters of words in katakana. -/
def katakanaSet : CharSet := (ofScripts ["katakana"]).union (ofRanges katakanaSigns)

/-- Letters of Hebrew words. -/
def hebrewSet : CharSet := (ofScripts ["hebrew"]).intersection otherLetter.set

/-- Letters of languages that put blanks between words. -/
def letterSet : CharSet :=
  -- the scripts of South East Asia and Japan leave no blanks between words
  let unspaced := ofScripts ["thai", "lao", "khmer", "myanmar", "newtailue", "taile", "taitham",
    "taiviet", "ahom", "hiragana"]
  (BinaryProperty.alphabetic.set.union (ofRanges wordSigns)).difference
    (unions [BinaryProperty.ideographic.set, katakanaSet, hebrewSet, unspaced, attached])

/-- The characters of a class. -/
def set : WordBreak → CharSet
  | letter => letterSet
  | carriageReturn => single '\r'
  | doubleQuote => single '"'
  | extend => attached.union skinTones
  | connector =>
    ofRanges ((0x202F, 0x202F) :: Unicode.connectorPunctuation)
  | format => plainFormats.difference (ofRanges [(0x200B, 0x200B)])
  | hebrewLetter => hebrewSet
  | katakana => katakanaSet
  | lineFeed => single '\n'
  | midLetter => ofRanges midLetters
  | midNumber => ofRanges midNumbers
  | midBoth => ofRanges midNumbersAndLetters
  | newline => ofRanges [(0xB, 0xC), (0x85, 0x85), (0x2028, 0x2029)]
  | numeric => unions [decimalNumber.set, ofRanges [(0x66B, 0x66B)], numberSigns]
  | regionalIndicator => BinaryProperty.regionalIndicator.set
  | singleQuote => single '\''
  | blank => spaceSeparator.set.difference
      (ofRanges [(0xA0, 0xA0), (0x2007, 0x2007), (0x202F, 0x202F)])
  | joiner => ofRanges [(0x200D, 0x200D)]

/-- The classes with their names. -/
def named : List (List String × WordBreak) := [
  (["le", "aletter"], letter), (["cr"], carriageReturn), (["dq", "doublequote"], doubleQuote),
  (["extend"], extend), (["ex", "extendnumlet"], connector), (["fo", "format"], format),
  (["hl", "hebrewletter"], hebrewLetter), (["ka", "katakana"], katakana), (["lf"], lineFeed),
  (["ml", "midletter"], midLetter), (["mn", "midnum"], midNumber), (["mb", "midnumlet"], midBoth),
  (["nl", "newline"], newline), (["nu", "numeric"], numeric),
  (["ri", "regionalindicator"], regionalIndicator), (["sq", "singlequote"], singleQuote),
  (["wsegspace"], blank), (["zwj"], joiner)]

end WordBreak

/-! ## Sentences -/

/-- The classes of characters in sentence boundaries. -/
inductive SentenceBreak where
  | stop | carriageReturn | closing | extend | format | lineFeed | lower | numeric | otherLetter
  | continuing | ending | separator | blank | upper
deriving DecidableEq, Repr

namespace SentenceBreak

/-- Full stops, which end abbreviations as well as sentences. -/
def stops : Ranges := [(0x2E, 0x2E), (0x2024, 0x2024), (0xFE52, 0xFE52), (0xFF0E, 0xFF0E)]

/-- Quotation marks that are not paired as brackets are. -/
def unpairedQuotes : Ranges := [
  (0x22, 0x22), (0x27, 0x27), (0x275B, 0x2760), (0x2E00, 0x2E01), (0x2E06, 0x2E08),
  (0x2E0B, 0x2E0B), (0x1F676, 0x1F678)]

/-- Punctuation after which a sentence goes on. -/
def continuations : Ranges := [
  (0x2C, 0x2D), (0x3A, 0x3B), (0x37E, 0x37E), (0x55D, 0x55D), (0x60C, 0x60D), (0x7F8, 0x7F8),
  (0x1802, 0x1802), (0x1808, 0x1808), (0x2013, 0x2014), (0x3001, 0x3001), (0xFE10, 0xFE11),
  (0xFE13, 0xFE14), (0xFE31, 0xFE32), (0xFE50, 0xFE51), (0xFE54, 0xFE55), (0xFE58, 0xFE58),
  (0xFE63, 0xFE63), (0xFF0C, 0xFF0D), (0xFF1A, 0xFF1B), (0xFF64, 0xFF64)]

/-- Letters in lower case. Georgian letters have both cases but sentences are not told by them. -/
def lowerSet : CharSet :=
  BinaryProperty.lowercase.set.difference
    (attached.union (ofRanges [(0x10D0, 0x10FA), (0x10FD, 0x10FF)]))

/-- Letters that a sentence may start with. -/
def upperSet : CharSet :=
  (BinaryProperty.uppercase.set.union titlecaseLetter.set).difference
    (ofRanges [(0x1C90, 0x1CBF)])

/-- Line ends other than line feeds and carriage returns. -/
def separators : Ranges := [(0x85, 0x85), (0x2028, 0x2029)]

/-- The characters of a class. -/
def set : SentenceBreak → CharSet
  | stop => ofRanges stops
  | carriageReturn => single '\r'
  | closing =>
    (sets [.openPunctuation, .closePunctuation, .initialPunctuation,
      .finalPunctuation]).union (ofRanges unpairedQuotes)
  | extend => attached.union (ofRanges [(0x200D, 0x200D)])
  | format => plainFormats
  | lineFeed => single '\n'
  | lower => lowerSet
  | numeric => unions [decimalNumber.set, ofRanges [(0x66B, 0x66C)], numberSigns]
  | otherLetter =>
    (BinaryProperty.alphabetic.set.union (ofRanges [(0x5F3, 0x5F3), (0x70F, 0x70F)])).difference
      (unions [lowerSet, upperSet, attached])
  | continuing => ofRanges continuations
  | ending => (ofRanges sentenceEnds).difference (ofRanges stops)
  | separator => ofRanges separators
  | blank => (ofRanges blanks).difference (ofRanges ((0xA, 0xA) :: (0xD, 0xD) :: separators))
  | upper => upperSet

/-- The classes with their names. -/
def named : List (List String × SentenceBreak) := [
  (["at", "aterm"], stop), (["cr"], carriageReturn), (["cl", "close"], closing),
  (["ex", "extend"], extend), (["fo", "format"], format), (["lf"], lineFeed),
  (["lo", "lower"], lower), (["nu", "numeric"], numeric), (["le", "oletter"], otherLetter),
  (["sc", "scontinue"], continuing), (["st", "sterm"], ending), (["se", "sep"], separator),
  (["sp"], blank), (["up", "upper"], upper)]

end SentenceBreak

end JvmSource.Unicode
