import ExprLang.RegExp.CharSet.Property

/-!
# ExprLang.RegExp.CharSet.Break

The parts that characters play where texts are divided into graphemes, words and sentences, by
Unicode 16.0.  Characters that play no part have no name here, and patterns cannot ask for them.
-/

namespace ExprLang.CharSet

/-! ## Graphemes -/

/-- The carriage return. -/
def carriageReturn : CharSet := single '\r'

/-- The line feed. -/
def lineFeed : CharSet := single '\n'

/-- The zero width joiner. -/
def zeroWidthJoiner : CharSet := single '\u200d'

/-- Marks and modifiers that extend a grapheme. -/
def graphemeExtending : CharSet := union graphemeExtend emojiModifier

/-- Controls, which are graphemes of their own. -/
def graphemeControl : CharSet :=
  diff
    (union (category [.zl, .zp, .cc, .cf]) (inter (category [.cn]) defaultIgnorable))
    (unions [carriageReturn, lineFeed, joinControl, prependedMark, graphemeExtend])

/-- Letters that join the letter after them. -/
def prefixedLetters : CharSet := within #[
  0xD4E, 0xD4F, 0x111C2, 0x111C4, 0x113D1, 0x113D2, 0x1193F, 0x11940, 0x11941, 0x11942, 0x11A3A,
  0x11A3B, 0x11A84, 0x11A8A, 0x11D46, 0x11D47, 0x11F02, 0x11F03]

/-- Characters that join what follows. -/
def graphemePrepend : CharSet := union prependedMark prefixedLetters

/-- Spacing marks that are graphemes of their own. -/
def freeMarks : CharSet := within #[
  0x102B, 0x102D, 0x1038, 0x1039, 0x1062, 0x1065, 0x1067, 0x106E, 0x1083, 0x1084, 0x1087, 0x108D,
  0x108F, 0x1090, 0x109A, 0x109D, 0x1A61, 0x1A62, 0x1A63, 0x1A65, 0xAA7B, 0xAA7C, 0xAA7D, 0xAA7E,
  0x11720, 0x11722]

/-- Vowel letters that join the letter before them. -/
def joiningVowels : CharSet := within #[0xE33, 0xE34, 0xEB3, 0xEB4]

/-- Spacing marks that belong to the grapheme before them. -/
def graphemeSpacing : CharSet :=
  union (diff (category [.mc]) (union graphemeExtend freeMarks)) joiningVowels

/-- Letters that begin a Korean syllable. -/
def leadingJamo : CharSet := within #[0x1100, 0x1160, 0xA960, 0xA97D]

/-- Vowels of a Korean syllable, and those of Kirat Rai, which combine like them. -/
def vowelJamo : CharSet := within #[
  0x1160, 0x11A8, 0xD7B0, 0xD7C7, 0x16D63, 0x16D64, 0x16D67, 0x16D6B]

/-- Letters that end a Korean syllable. -/
def trailingJamo : CharSet := within #[0x11A8, 0x1200, 0xD7CB, 0xD7FC]

/-- Korean syllables that end in a vowel. -/
def openSyllable : CharSet := every 28 '\uac00' '\ud7a3'

/-- Korean syllables that end in a consonant. -/
def closedSyllable : CharSet := diff (range '\uac00' '\ud7a3') openSyllable

/-- The values of Grapheme_Cluster_Break: their names and characters. -/
def graphemeBreaks : List (List String × CharSet) := [
  (["cn", "control"], graphemeControl),
  (["cr"], carriageReturn),
  (["ex", "extend"], graphemeExtending),
  (["l"], leadingJamo),
  (["lf"], lineFeed),
  (["lv"], openSyllable),
  (["lvt"], closedSyllable),
  (["pp", "prepend"], graphemePrepend),
  (["regionalindicator", "ri"], regionalIndicator),
  (["sm", "spacingmark"], graphemeSpacing),
  (["t"], trailingJamo),
  (["v"], vowelJamo),
  (["zwj"], zeroWidthJoiner)]

/-! ## Words -/

/-- Marks and modifiers that extend a word. -/
def wordExtending : CharSet := unions [graphemeExtend, category [.mc], emojiModifier]

/-- Format characters that are passed over inside a word. -/
def wordFormat : CharSet :=
  diff (category [.cf])
    (unions [range '\u200b' '\u200d', prependedMark, graphemeExtend])

/-- The Syriac abbreviation mark, which counts as a letter. -/
def abbreviationMark : CharSet := single '\u070f'

/-- Digits, and marks around and inside numbers. -/
def wordNumeric : CharSet :=
  union (diff (union (category [.nd]) prependedMark) abbreviationMark)
    (within #[0x66B, 0x66C, 0x19DA, 0x19DB])

/-- Marks that belong to no script and are written with Katakana. -/
def katakanaMarks : CharSet := within #[
  0x3031, 0x3036, 0x309B, 0x309D, 0x30A0, 0x30A1, 0x30FC, 0x30FD, 0xFF70, 0xFF71]

/-- Katakana and its marks. -/
def katakana : CharSet := union ((script? "katakana").getD nothing) katakanaMarks

/-- The letters of Hebrew. -/
def hebrewLetter : CharSet := inter ((script? "hebrew").getD nothing) (category [.lo])

/-- Letters and marks of scripts that leave no space between words. -/
def unseparated : CharSet := within #[
  0xE01, 0xE3B, 0xE40, 0xE4F, 0xE81, 0xE83, 0xE84, 0xE85, 0xE86, 0xE8B, 0xE8C, 0xEA4, 0xEA5,
  0xEA6, 0xEA7, 0xEBE, 0xEC0, 0xEC5, 0xEC6, 0xEC7, 0xEC8, 0xECF, 0xEDC, 0xEE0, 0x1000, 0x1040,
  0x1050, 0x1090, 0x109A, 0x10A0, 0x1780, 0x17D4, 0x17D7, 0x17D8, 0x17DC, 0x17DE, 0x1950, 0x196E,
  0x1970, 0x1975, 0x1980, 0x19AC, 0x19B0, 0x19CA, 0x19DA, 0x19DB, 0x19DE, 0x19E0, 0x1A20, 0x1A5F,
  0x1A60, 0x1A7D, 0x1AA0, 0x1AAE, 0xA9E0, 0xA9F0, 0xA9FA, 0xA9FF, 0xAA60, 0xAAC3, 0xAADB, 0xAAE0,
  0x11700, 0x1171B, 0x1171D, 0x1172C, 0x1173A, 0x1173C, 0x1173F, 0x11747]

/-- Marks that count as letters. -/
def letterLike : CharSet := within #[
  0xB8, 0xB9, 0x2C2, 0x2C6, 0x2D2, 0x2D8, 0x2DE, 0x2E0, 0x2E5, 0x2EC, 0x2ED, 0x2EE, 0x2EF, 0x300,
  0x55A, 0x55D, 0x55E, 0x55F, 0x58A, 0x58B, 0x5F3, 0x5F4, 0x70F, 0x710, 0xA708, 0xA717, 0xA720,
  0xA722, 0xA789, 0xA78B, 0xAB5B, 0xAB5C]

/-- Letters of scripts that separate words by spaces. -/
def wordLetter : CharSet :=
  diff (union alphabetic letterLike)
    (unions [ideographic, katakana, hebrewLetter, unseparated,
      (script? "hiragana").getD nothing, wordExtending])

/-- Marks that may stand between letters. -/
def midLetter : CharSet := within #[
  0x3A, 0x3B, 0xB7, 0xB8, 0x387, 0x388, 0x55F, 0x560, 0x5F4, 0x5F5, 0x2027, 0x2028, 0xFE13,
  0xFE14, 0xFE55, 0xFE56, 0xFF1A, 0xFF1B]

/-- Marks that may stand between digits. -/
def midNumber : CharSet := within #[
  0x2C, 0x2D, 0x3B, 0x3C, 0x37E, 0x37F, 0x589, 0x58A, 0x60C, 0x60E, 0x66C, 0x66D, 0x7F8, 0x7F9,
  0x2044, 0x2045, 0xFE50, 0xFE51, 0xFE54, 0xFE55, 0xFF0C, 0xFF0D, 0xFF1B, 0xFF1C]

/-- Marks that may stand between letters and between digits. -/
def midWord : CharSet := within #[
  0x2E, 0x2F, 0x2018, 0x201A, 0x2024, 0x2025, 0xFE52, 0xFE53, 0xFF07, 0xFF08, 0xFF0E, 0xFF0F]

/-- Marks that connect letters and digits. -/
def connector : CharSet := within #[
  0x5F, 0x60, 0x202F, 0x2030, 0x203F, 0x2041, 0x2054, 0x2055, 0xFE33, 0xFE35, 0xFE4D, 0xFE50,
  0xFF3F, 0xFF40]

/-- The other line ends. -/
def wordNewline : CharSet := within #[0xB, 0xD, 0x85, 0x86, 0x2028, 0x202A]

/-- Spaces that go together. -/
def wordSpace : CharSet := within #[
  0x20, 0x21, 0x1680, 0x1681, 0x2000, 0x2007, 0x2008, 0x200B, 0x205F, 0x2060, 0x3000, 0x3001]

/-- The values of Word_Break: their names and characters. -/
def wordBreaks : List (List String × CharSet) := [
  (["aletter", "le"], wordLetter),
  (["cr"], carriageReturn),
  (["doublequote", "dq"], single '"'),
  (["ex", "extendnumlet"], connector),
  (["extend"], wordExtending),
  (["fo", "format"], wordFormat),
  (["hebrewletter", "hl"], hebrewLetter),
  (["ka", "katakana"], katakana),
  (["lf"], lineFeed),
  (["mb", "midnumlet"], midWord),
  (["midletter", "ml"], midLetter),
  (["midnum", "mn"], midNumber),
  (["newline", "nl"], wordNewline),
  (["nu", "numeric"], wordNumeric),
  (["regionalindicator", "ri"], regionalIndicator),
  (["singlequote", "sq"], single '\''),
  (["wsegspace"], wordSpace),
  (["zwj"], zeroWidthJoiner)]

/-! ## Sentences -/

/-- Marks that extend a character inside a sentence. -/
def sentenceExtending : CharSet := unions [graphemeExtend, category [.mc], zeroWidthJoiner]

/-- Format characters that are passed over inside a sentence. -/
def sentenceFormat : CharSet :=
  union abbreviationMark
    (diff (category [.cf]) (unions [joinControl, prependedMark, graphemeExtend]))

/-- Characters that end a paragraph. -/
def sentenceSeparator : CharSet := within #[0x85, 0x86, 0x2028, 0x202A]

/-- White space inside a paragraph. -/
def sentenceSpace : CharSet :=
  diff whitespace (unions [carriageReturn, lineFeed, sentenceSeparator])

/-- Small letters; those of Georgian are not told apart from other letters. -/
def sentenceLower : CharSet := diff lowercase (union graphemeExtend georgianSmalls)

/-- Capital letters, except those of Georgian. -/
def sentenceUpper : CharSet :=
  diff (union uppercase (category [.lt])) (within #[0x1C90, 0x1CBB, 0x1CBD, 0x1CC0])

/-- Other letters. -/
def sentenceLetter : CharSet :=
  diff (union alphabetic (single '\u05f3'))
    (unions [sentenceLower, sentenceUpper, sentenceExtending])

/-- Digits, and marks around and inside numbers. -/
def sentenceNumeric : CharSet := union wordNumeric (single '\u066c')

/-- Marks that may end a sentence. -/
def sentenceStop : CharSet := within #[0x2E, 0x2F, 0x2024, 0x2025, 0xFE52, 0xFE53, 0xFF0E, 0xFF0F]

/-- Marks that end a sentence. -/
def sentenceEnd : CharSet := diff sentenceTerminal sentenceStop

/-- Marks after which a sentence goes on. -/
def sentenceContinue : CharSet := within #[
  0x2C, 0x2E, 0x3A, 0x3C, 0x37E, 0x37F, 0x55D, 0x55E, 0x60C, 0x60E, 0x7F8, 0x7F9, 0x1802, 0x1803,
  0x1808, 0x1809, 0x2013, 0x2015, 0x3001, 0x3002, 0xFE10, 0xFE12, 0xFE13, 0xFE15, 0xFE31, 0xFE33,
  0xFE50, 0xFE52, 0xFE54, 0xFE56, 0xFE58, 0xFE59, 0xFE63, 0xFE64, 0xFF0C, 0xFF0E, 0xFF1A, 0xFF1C,
  0xFF64, 0xFF65]

/-- Quotation marks that open and close alike. -/
def closingQuotes : CharSet := within #[
  0x22, 0x23, 0x27, 0x28, 0x275B, 0x2761, 0x2E00, 0x2E02, 0x2E06, 0x2E09, 0x2E0B, 0x2E0C, 0x1F676,
  0x1F679]

/-- Brackets and quotation marks. -/
def sentenceClose : CharSet :=
  union (diff (category [.ps, .pe, .pi, .pf]) (union sentenceStop sentenceEnd)) closingQuotes

/-- The values of Sentence_Break: their names and characters. -/
def sentenceBreaks : List (List String × CharSet) := [
  (["at", "aterm"], sentenceStop),
  (["cl", "close"], sentenceClose),
  (["cr"], carriageReturn),
  (["ex", "extend"], sentenceExtending),
  (["fo", "format"], sentenceFormat),
  (["le", "oletter"], sentenceLetter),
  (["lf"], lineFeed),
  (["lo", "lower"], sentenceLower),
  (["nu", "numeric"], sentenceNumeric),
  (["sc", "scontinue"], sentenceContinue),
  (["se", "sep"], sentenceSeparator),
  (["sp"], sentenceSpace),
  (["st", "sterm"], sentenceEnd),
  (["up", "upper"], sentenceUpper)]

end ExprLang.CharSet
