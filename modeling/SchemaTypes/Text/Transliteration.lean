/-!
# Transliteration

Names are spelled in ASCII.  A character beyond ASCII is replaced by the ASCII text that stands
for it; a character without such a text vanishes.

The table is a small part of the one that a library has.  It is there for running the program:
nothing is proved with it, since results hold for every way to write names in ASCII.
-/

namespace SchemaTypes.Text

/-- ASCII texts of characters beyond ASCII. -/
def asciiTexts : List (Nat × String) :=
  [
    (0x00A0, " "), (0x00A3, "GBP"), (0x00A9, "(C)"), (0x00B2, "2"), (0x00BD, "1/2"),
    (0x00C0, "A"), (0x00C5, "A"), (0x00C6, "Ae"), (0x00C9, "E"), (0x00D8, "O"), (0x00DF, "ss"),
    (0x00E0, "a"), (0x00E6, "ae"), (0x00E7, "c"), (0x00E9, "e"), (0x00EF, "i"), (0x00F1, "n"),
    (0x00F6, "o"), (0x00FA, "u"), (0x0101, "a"), (0x0130, "I"), (0x0131, "i"), (0x0141, "L"),
    (0x0142, "l"), (0x015F, "s"), (0x017E, "z"), (0x0301, ""), (0x03A9, "O"), (0x03B1, "a"),
    (0x03B2, "v"), (0x03B3, "g"), (0x03BB, "l"), (0x041A, "K"), (0x041F, "P"), (0x0432, "v"),
    (0x0435, "e"), (0x0438, "i"), (0x043A, "k"), (0x043B, "l"), (0x043C, "m"), (0x043F, "p"),
    (0x0440, "r"), (0x0442, "t"), (0x0447, "ch"), (0x044E, "yu"), (0x0663, "3"), (0x200B, ""),
    (0x2013, "-"), (0x2014, "-"), (0x201C, "\""), (0x201D, "\""), (0x2026, "..."), (0x2028, " "),
    (0x20AC, "EUR"), (0x2116, "No"), (0x2122, "TM"), (0x221A, "sqrt"), (0x2603, ":snowman2:"),
    (0x4EAC, "Jing"), (0x524D, "Qian"), (0x540D, "Ming"), (0x65E5, "Ri"), (0x672C, "Ben"),
    (0x6771, "Dong"), (0x90FD, "Dou"), (0xFB01, "fi"), (0xFF11, "1"), (0xFF12, "2"),
    (0xFF26, "F"), (0xFF4C, "l"), (0xFF55, "u"), (0x1F389, ":tada:"), (0x1F44D, ":thumbsup:")
  ]

/-- The ASCII text of a character. -/
def transliterateChar (c : Char) : List Char :=
  if c.toNat < 0x80 then [c] else ((asciiTexts.lookup c.toNat).getD "").toList

/-- Replaces every character by its ASCII text. -/
def transliterate (text : List Char) : List Char := text.flatMap transliterateChar

end SchemaTypes.Text
