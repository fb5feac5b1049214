import TemplateEngine.SyntaxError
import TemplateEngine.Token

/-!
# Cursors over the tokens of a tag

A tag is read through a cursor: the tokens that are left, and the positions where
the tag begins and ends.  Reading may fail, and what it has taken by then stays
taken.
-/

namespace TemplateEngine

/-- The tokens of a tag that are left to read. -/
structure Cursor where
  remaining : List Token
  /-- The position of the tag. -/
  start : Position
  /-- The position of its closing delimiter. -/
  finish : Position

/-- Reading from a cursor. -/
abbrev TagReader (α : Type) := ExceptT SyntaxError (StateM Cursor) α

namespace Cursor

/-- Whether all tokens are taken. -/
def atEnd (cursor : Cursor) : Bool :=
  cursor.remaining.isEmpty

/-- The token to be read next. -/
def current? (cursor : Cursor) : Option Token :=
  cursor.remaining.head?

/-- The token some places after the current one. -/
def peek? (cursor : Cursor) (offset : Nat) : Option Token :=
  cursor.remaining[offset]?

/-- The position of the current token, or of the end of the tag. -/
def position (cursor : Cursor) : Position :=
  match cursor.current? with
  | some token => token.position
  | none => cursor.finish

/-- The error that something is required at the current token. -/
def unmet (cursor : Cursor) (requirement : String) : SyntaxError :=
  ⟨.unmet requirement (cursor.current?.map Token.text), cursor.position⟩

/-- The cursor after the current token. -/
def advance (cursor : Cursor) : Cursor :=
  { cursor with remaining := cursor.remaining.drop 1 }

end Cursor

namespace TagReader

/-- Take the current token if it satisfies a condition. -/
def takeIf? (condition : Token → Bool) : TagReader (Option Token) := do
  let cursor ← get
  match cursor.current? with
  | some token =>
      if condition token then
        set cursor.advance
        return some token
      else return none
  | none => return none

/-- Take the current token, if there is one. -/
def next? : TagReader (Option Token) :=
  takeIf? fun _ => true

/-- Take the current token if it is of a kind. -/
def kind? (kind : TokenKind) : TagReader (Option Token) :=
  takeIf? fun token => token.kind == kind

/-- Take the current token if it is one of some names. -/
def name? (names : List String) : TagReader (Option Token) :=
  takeIf? fun token => token.kind == .name && names.contains token.text

/-- Take the current token if it is one of some operators. -/
def operator? (operators : List String) : TagReader (Option Token) :=
  takeIf? fun token => token.kind == .operator && operators.contains token.text

/-- Take the current token if it is the given name, and tell whether it was. -/
def accepts (name : String) : TagReader Bool :=
  Option.isSome <$> name? [name]

/-- Take the current token if it is the given operator, and tell whether it was. -/
def acceptsOperator (operator : String) : TagReader Bool :=
  Option.isSome <$> operator? [operator]

/-- Fail at the current token. -/
def fail {α : Type} (requirement : String) : TagReader α := do
  let cursor ← get
  throw (cursor.unmet requirement)

/-- Take a name. -/
def name (what : String) : TagReader Token := do
  match ← kind? .name with
  | some token => return token
  | none => fail s!"Expected {what}"

/-- Take the given operator. -/
def operator (operator : String) : TagReader Token := do
  match ← operator? [operator] with
  | some token => return token
  | none => fail s!"Expected '{operator}'"

/-- Require that all tokens are taken. -/
def finish : TagReader Unit := do
  let cursor ← get
  match cursor.current? with
  | some token => throw ⟨.trailingToken token.text, token.position⟩
  | none => return ()

end TagReader

end TemplateEngine
