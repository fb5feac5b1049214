import TemplateEngine.Text.Case
import TemplateEngine.Unicode.Blank

/-!
# Searching and taking texts apart

Finding one text in another, replacing every occurrence from left to right,
removing surrounding blanks, splitting into words, and repeating.
-/

namespace TemplateEngine.Text

open TemplateEngine.Unicode

/-- The rest of a list after a given beginning, if it begins so. -/
def dropBeginning? : List Char → List Char → Option (List Char)
  | [], characters => some characters
  | _ :: _, [] => none
  | expected :: beginning, character :: rest =>
      if expected = character then dropBeginning? beginning rest else none

/-- Whether a list of characters occurs in another one. -/
def occursIn (needle : List Char) : List Char → Bool
  | [] => needle.isEmpty
  | character :: rest =>
      (dropBeginning? needle (character :: rest)).isSome || occursIn needle rest

/-- Whether a text contains another one; every text contains the empty one. -/
def contains (text needle : String) : Bool :=
  occursIn needle.toList text.toList

/-- Replace the occurrences of a non-empty list from left to right.  The count of
characters still to skip belongs to an occurrence already replaced. -/
def replaceFrom (old new : List Char) : Nat → List Char → List Char
  | _, [] => []
  | skipped + 1, _ :: rest => replaceFrom old new skipped rest
  | 0, character :: rest =>
      if (dropBeginning? old (character :: rest)).isSome then
        new ++ replaceFrom old new (old.length - 1) rest
      else character :: replaceFrom old new 0 rest

/-- Replace every occurrence of a text.  The empty text occurs before every
character and at the end. -/
def replace (text old new : String) : String :=
  if old.toList.isEmpty then
    String.ofList
      (new.toList ++ text.toList.flatMap fun character => character :: new.toList)
  else String.ofList (replaceFrom old.toList new.toList 0 text.toList)

/-- Drop the characters of a class from the end of a list. -/
def dropWhileEnd (drops : Char → Bool) (characters : List Char) : List Char :=
  (characters.reverse.dropWhile drops).reverse

/-- Drop the characters of a class from both ends of a list. -/
def trimCharacters (drops : Char → Bool) (characters : List Char) : List Char :=
  dropWhileEnd drops (characters.dropWhile drops)

/-- A text without the blanks around it. -/
def trim (text : String) : String :=
  String.ofList (trimCharacters isBlank text.toList)

/-- Split at each space; `current` holds the characters of the word under way, last
first. -/
def splitSpaces (current : List Char) : List Char → List (List Char)
  | [] => [current.reverse]
  | ' ' :: rest => current.reverse :: splitSpaces [] rest
  | character :: rest => splitSpaces (character :: current) rest

/-- A text with each of its words, which single spaces separate, capitalised. -/
def title (text : String) : String :=
  String.ofList
    (([' '] : List Char).intercalate
      ((splitSpaces [] text.toList).map capitalizeCharacters))

/-- A text the given count of times in a row. -/
def repeated (text : String) (count : Nat) : String :=
  count.repeat (fun result => result ++ text) ""

end TemplateEngine.Text
