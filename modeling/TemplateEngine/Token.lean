import TemplateEngine.Position

/-!
# Tokens

A template source is a sequence of tokens: literal texts, comments, and the
delimiters and words of its tags.
-/

namespace TemplateEngine

/-- The kinds of tokens. -/
inductive TokenKind where
  | data
  | comment
  | variableBegin
  | variableEnd
  | blockBegin
  | blockEnd
  | name
  | string
  | integer
  | float
  | operator
  | eof
deriving DecidableEq

/-- A token and the position of its first character.  The text of a string token
is its content without quotes and escapes. -/
structure Token where
  kind : TokenKind
  text : String
  position : Position
  /-- Meaningful on literal texts only. -/
  trim : Trim
deriving DecidableEq

namespace Token

/-- A token that is not trimmed. -/
def plain (kind : TokenKind) (text : String) (position : Position) : Token :=
  ⟨kind, text, position, Trim.none⟩

/-- Whether a token is the given name. -/
def isName (token : Token) (name : String) : Bool :=
  token.kind == .name && token.text == name

/-- Whether a token is the given operator. -/
def isOperator (token : Token) (operator : String) : Bool :=
  token.kind == .operator && token.text == operator

end Token

end TemplateEngine
