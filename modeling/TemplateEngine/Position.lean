/-!
# Positions in a source text

Lines and columns count from one.  A column counts characters, and a line ends
after each newline.
-/

namespace TemplateEngine

/-- The line and column of a character in a source text. -/
structure Position where
  line : Nat
  column : Nat
deriving DecidableEq, Inhabited

namespace Position

/-- The position of the first character of a text. -/
def start : Position := ⟨1, 1⟩

/-- The position after one character. -/
def next (position : Position) (character : Char) : Position :=
  if character = '\n' then ⟨position.line + 1, 1⟩
  else ⟨position.line, position.column + 1⟩

/-- The position after some characters. -/
def advance (position : Position) (characters : List Char) : Position :=
  characters.foldl next position

@[simp]
theorem advance_nil (position : Position) : position.advance [] = position := rfl

@[simp]
theorem advance_append (position : Position) (first second : List Char) :
    position.advance (first ++ second) = (position.advance first).advance second := by
  simp [advance]

end Position

/-- Which sides of a literal text lose their whitespace. -/
structure Trim where
  /-- The tag before the text closed with a dash. -/
  left : Bool
  /-- The tag after the text opens with a dash. -/
  right : Bool
deriving DecidableEq

namespace Trim

/-- Neither side is trimmed. -/
def none : Trim := ⟨false, false⟩

end Trim

end TemplateEngine
