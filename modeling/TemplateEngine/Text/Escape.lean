/-!
# Escaping markup

The five characters with a meaning in markup are written as entities; every other
character stands for itself.
-/

namespace TemplateEngine.Text

/-- The characters that markup gives a meaning to. -/
def isMarkup (character : Char) : Bool :=
  character = '&' || character = '<' || character = '>' || character = '"' ||
    character = '\''

/-- The escaped form of one character. -/
def escapeCharacter (character : Char) : List Char :=
  if character = '&' then ['&', 'a', 'm', 'p', ';']
  else if character = '<' then ['&', 'l', 't', ';']
  else if character = '>' then ['&', 'g', 't', ';']
  else if character = '"' then ['&', 'q', 'u', 'o', 't', ';']
  else if character = '\'' then ['&', '#', '3', '9', ';']
  else [character]

/-- The escaped form of a text. -/
def escapeMarkup (text : String) : String :=
  String.ofList (text.toList.flatMap escapeCharacter)

@[simp]
theorem toList_escapeMarkup (text : String) :
    (escapeMarkup text).toList = text.toList.flatMap escapeCharacter := by
  simp [escapeMarkup]

end TemplateEngine.Text
