import TemplateEngine.Unicode.Ranges

/-!
# Blank characters

The characters with the Unicode property *White_Space*.  They separate the
tokens of a tag and are what trimming a text removes.
-/

namespace TemplateEngine.Unicode

/-- The code points with the property *White_Space*. -/
def blankRanges : Ranges :=
  [(0x9, 0xD), (0x20, 0x20), (0x85, 0x85), (0xA0, 0xA0), (0x1680, 0x1680),
   (0x2000, 0x200A), (0x2028, 0x2029), (0x202F, 0x202F), (0x205F, 0x205F), (0x3000, 0x3000)]

/-- Whether a character has the property *White_Space*. -/
def isBlank (character : Char) : Bool :=
  blankRanges.contains character

end TemplateEngine.Unicode
