import TemplateEngine.Unicode.Extending
import TemplateEngine.Unicode.Unprintable

/-!
# Quoted texts

Messages and printed expressions show a string in double quotes.  The quote and
the backslash are escaped, the common control characters have short escapes, and
every other character without a glyph of its own, or mark that would attach to the
character before it, is written by its code point.  Single quotes stay as they
are.
-/

namespace TemplateEngine.Text

open TemplateEngine.Unicode

/-- A code point escape: the hexadecimal digits of the code point in braces. -/
def codePointEscape (character : Char) : List Char :=
  ['\\', 'u', '{'] ++ Nat.toDigits 16 character.toNat ++ ['}']

/-- The quoted form of one character. -/
def quoteCharacter (character : Char) : List Char :=
  if character = '\x00' then ['\\', '0']
  else if character = '\t' then ['\\', 't']
  else if character = '\r' then ['\\', 'r']
  else if character = '\n' then ['\\', 'n']
  else if character = '\\' then ['\\', '\\']
  else if character = '"' then ['\\', '"']
  else if isExtending character || isUnprintable character then
    codePointEscape character
  else [character]

/-- A text in double quotes. -/
def quoted (text : String) : String :=
  String.ofList ('"' :: text.toList.flatMap quoteCharacter ++ ['"'])

/-- A list of texts in brackets, each one quoted. -/
def quotedList (texts : List String) : String :=
  "[" ++ ", ".intercalate (texts.map quoted) ++ "]"

end TemplateEngine.Text
