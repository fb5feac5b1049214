import TemplateEngine.SyntaxError
import TemplateEngine.Token
import TemplateEngine.Unicode.Alphabetic
import TemplateEngine.Unicode.Numeric

/-!
# Words of a tag

The tokens between the delimiters of a tag are names, numbers, string literals and
operators.  Reading one of them takes the character it begins with, and tells how
many of the characters after it belong to the token.
-/

namespace TemplateEngine.Token

open TemplateEngine.Unicode

/-- A token without its position, and the count of characters after the first that
belong to it. -/
structure Word where
  kind : TokenKind
  text : String
  length : Nat

/-- Whether a character may begin a name. -/
def beginsName (character : Char) : Bool :=
  isAlphabetic character || character == '_'

/-- Whether a character may continue a name. -/
def continuesName (character : Char) : Bool :=
  isAlphabetic character || isNumeric character || character == '_'

/-- The operators of two characters. -/
def longOperators : List (Char × Char) :=
  [('=', '='), ('!', '='), ('<', '='), ('>', '='), ('/', '/')]

/-- The operators of one character. -/
def shortOperators : List Char :=
  ['+', '-', '*', '/', '%', '~', '<', '>', '=', '(', ')', '[', ']', '{', '}', ',', '.',
    '|', ':']

/-- A name, from its first character. -/
def readName (first : Char) (rest : List Char) : Word :=
  let more := rest.takeWhile continuesName
  ⟨.name, String.ofList (first :: more), more.length⟩

/-- A number, from its first digit.  It is a float when its digits are followed by a
point and another digit. -/
def readNumber (first : Char) (rest : List Char) : Word :=
  let whole := rest.takeWhile Char.isDigit
  match rest.dropWhile Char.isDigit with
  | '.' :: after =>
      let fraction := after.takeWhile Char.isDigit
      if fraction.isEmpty then ⟨.integer, String.ofList (first :: whole), whole.length⟩
      else
        ⟨.float, String.ofList (first :: whole ++ '.' :: fraction),
          whole.length + 1 + fraction.length⟩
  | _ => ⟨.integer, String.ofList (first :: whole), whole.length⟩

/-- The character that a backslash and a character stand for. -/
def unescape (character : Char) : Char :=
  if character = 'n' then '\n'
  else if character = 't' then '\t'
  else if character = 'r' then '\r'
  else character

/-- The content of a string literal after its opening quote, and the count of its
characters through the closing quote. -/
def readString (quote : Char) : List Char → Option (List Char × Nat)
  | [] => none
  | character :: rest =>
      if character = '\\' then
        match rest with
        | [] => none
        | escaped :: rest =>
            (readString quote rest).map fun (content, length) =>
              (unescape escaped :: content, length + 2)
      else if character = quote then some ([], 1)
      else
        (readString quote rest).map fun (content, length) =>
          (character :: content, length + 1)

/-- An operator, from its first character; the longer one is preferred. -/
def readOperator (first : Char) (rest : List Char) : Option Word :=
  match rest with
  | second :: _ =>
      if longOperators.contains (first, second) then
        some ⟨.operator, String.ofList [first, second], 1⟩
      else if shortOperators.contains first then
        some ⟨.operator, String.ofList [first], 0⟩
      else none
  | [] =>
      if shortOperators.contains first then
        some ⟨.operator, String.ofList [first], 0⟩
      else none

/-- The word that begins with a character, given the characters after it. -/
def readWord (first : Char) (rest : List Char) : Except SyntaxFault Word :=
  if beginsName first then .ok (readName first rest)
  else if first.isDigit then .ok (readNumber first rest)
  else if first = '"' ∨ first = '\'' then
    match readString first rest with
    | some (content, length) => .ok ⟨.string, String.ofList content, length⟩
    | none => .error .unterminatedString
  else
    match readOperator first rest with
    | some word => .ok word
    | none => .error (.unexpectedCharacter first)

end TemplateEngine.Token
