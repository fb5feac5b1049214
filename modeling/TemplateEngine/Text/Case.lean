import TemplateEngine.Unicode.Cased
import TemplateEngine.Unicode.CaseIgnorable
import TemplateEngine.Unicode.LowerCase
import TemplateEngine.Unicode.UpperCase

/-!
# Changing the case of a text

Upper-casing maps each character on its own.  Lower-casing does too, except that a
capital sigma at the end of a word becomes a final sigma.  Capitalising a word
maps its first character to upper case and every other one to lower case without
looking at its neighbours.
-/

namespace TemplateEngine.Text

open TemplateEngine.Unicode

/-- Whether the first character that is not case-ignorable is cased. -/
def reachesCased (characters : List Char) : Bool :=
  match characters.dropWhile isCaseIgnorable with
  | [] => false
  | character :: _ => isCased character

/-- The lower-case form of a capital sigma between the characters before it, nearest
first, and those after it. -/
def lowerSigma (before after : List Char) : Char :=
  if reachesCased before && !reachesCased after then 'ς' else 'σ'

/-- Lower-case characters, given those already passed, nearest first. -/
def lowerAfter (before : List Char) : List Char → List Char
  | [] => []
  | character :: rest =>
      (if character = 'Σ' then [lowerSigma before rest] else lowerCase character) ++
        lowerAfter (character :: before) rest

/-- The lower-case form of a text. -/
def lower (text : String) : String :=
  String.ofList (lowerAfter [] text.toList)

/-- The upper-case form of a text. -/
def upper (text : String) : String :=
  String.ofList (text.toList.flatMap upperCase)

/-- Capitalise a word: upper case first, lower case after. -/
def capitalizeCharacters : List Char → List Char
  | [] => []
  | first :: rest => upperCase first ++ rest.flatMap lowerCase

/-- The capitalised form of a text taken as one word. -/
def capitalize (text : String) : String :=
  String.ofList (capitalizeCharacters text.toList)

end TemplateEngine.Text
