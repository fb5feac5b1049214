import TemplateEngine.Position

/-!
# Expressions

The expressions of the template language, each with the position of its first or
deciding token.
-/

namespace TemplateEngine

/-- Literal constants. -/
inductive Literal where
  | none
  | bool (value : Bool)
  | integer (value : Int)
  | float (value : Float)
  | string (value : String)

/-- Operators with one operand. -/
inductive UnaryOperator where
  | not
  | negate
deriving DecidableEq

/-- Operators with two operands. -/
inductive BinaryOperator where
  | or
  | and
  | equal
  | notEqual
  | less
  | lessEqual
  | greater
  | greaterEqual
  | isIn
  | notIn
  | concat
  | add
  | subtract
  | multiply
  | divide
  | floorDivide
  | modulo
deriving DecidableEq

namespace BinaryOperator

/-- The written form of an operator. -/
def symbol : BinaryOperator → String
  | .or => "or"
  | .and => "and"
  | .equal => "=="
  | .notEqual => "!="
  | .less => "<"
  | .lessEqual => "<="
  | .greater => ">"
  | .greaterEqual => ">="
  | .isIn => "in"
  | .notIn => "not in"
  | .concat => "~"
  | .add => "+"
  | .subtract => "-"
  | .multiply => "*"
  | .divide => "/"
  | .floorDivide => "//"
  | .modulo => "%"

end BinaryOperator

/-- The arguments of a call, filter or test: first the positional ones, then those
with a name. -/
structure CallArguments (ε : Type) where
  positional : List ε
  keyword : List (String × ε)

namespace CallArguments

/-- No arguments. -/
def none {ε : Type} : CallArguments ε := ⟨[], []⟩

/-- Whether there are no arguments. -/
def isEmpty {ε : Type} (arguments : CallArguments ε) : Bool :=
  arguments.positional.isEmpty && arguments.keyword.isEmpty

end CallArguments

/-- An expression. -/
inductive Expression where
  | literal (value : Literal) (position : Position)
  | name (name : String) (position : Position)
  | list (items : List Expression) (position : Position)
  | dict (entries : List (Expression × Expression)) (position : Position)
  | member (target : Expression) (name : String) (position : Position)
  | item (target index : Expression) (position : Position)
  | call (callee : Expression) (arguments : CallArguments Expression)
      (position : Position)
  | filter (target : Expression) (name : String) (arguments : CallArguments Expression)
      (position : Position)
  | test (target : Expression) (name : String) (arguments : CallArguments Expression)
      (negated : Bool) (position : Position)
  | unary (operator : UnaryOperator) (operand : Expression) (position : Position)
  | binary (operator : BinaryOperator) (left right : Expression) (position : Position)

namespace Expression

/-- The position of an expression. -/
def position : Expression → Position
  | .literal _ position => position
  | .name _ position => position
  | .list _ position => position
  | .dict _ position => position
  | .member _ _ position => position
  | .item _ _ position => position
  | .call _ _ position => position
  | .filter _ _ _ position => position
  | .test _ _ _ _ position => position
  | .unary _ _ position => position
  | .binary _ _ _ position => position

/-- The line of an expression. -/
def line (expression : Expression) : Nat :=
  expression.position.line

end Expression

end TemplateEngine
