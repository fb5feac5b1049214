import TemplateEngine.Expression.Reader
import TemplateEngine.Expression.Text

/-!
# Printed expressions

The text of an expression is close to its source, and for most expressions that can be read
it is a source of the same expression.  This module says for which, what tokens their texts
consist of, and what two expressions have in common that differ in positions only.

A text does not read back where no parentheses are printed though they are needed: unary
operators and tests bind less than what follows them.  Where an expression is delimited on both
sides, that does no harm.
-/

namespace TemplateEngine

/-! ## Positions -/

namespace Expression

mutual

/-- An expression without its positions. -/
def unplaced : Expression → Expression
  | .literal value _ => .literal value default
  | .name identifier _ => .name identifier default
  | .list items _ => .list (unplacedItems items) default
  | .dict entries _ => .dict (unplacedEntries entries) default
  | .member target memberName _ => .member (unplaced target) memberName default
  | .item target index _ => .item (unplaced target) (unplaced index) default
  | .call callee arguments _ => .call (unplaced callee) (unplacedArguments arguments) default
  | .filter target filterName arguments _ =>
      .filter (unplaced target) filterName (unplacedArguments arguments) default
  | .test target testName arguments negated _ =>
      .test (unplaced target) testName (unplacedArguments arguments) negated default
  | .unary operator operand _ => .unary operator (unplaced operand) default
  | .binary operator left right _ => .binary operator (unplaced left) (unplaced right) default

/-- Several expressions without their positions. -/
def unplacedItems : List Expression → List Expression
  | [] => []
  | first :: rest => unplaced first :: unplacedItems rest

/-- Entries of a dictionary without their positions. -/
def unplacedEntries : List (Expression × Expression) → List (Expression × Expression)
  | [] => []
  | (key, value) :: rest => (unplaced key, unplaced value) :: unplacedEntries rest

/-- Arguments with a name, without their positions. -/
def unplacedKeywords : List (String × Expression) → List (String × Expression)
  | [] => []
  | (keyword, value) :: rest => (keyword, unplaced value) :: unplacedKeywords rest

/-- Arguments without their positions. -/
def unplacedArguments : CallArguments Expression → CallArguments Expression
  | ⟨positional, keyword⟩ => ⟨unplacedItems positional, unplacedKeywords keyword⟩

end

end Expression

/-! ## Expressions that read back -/

/-- The names that stand for something else than variables. -/
def reservedNames : List String :=
  ["true", "True", "false", "False", "none", "None", "not", "and", "or", "in", "is"]

/-- Whether a text is one name token and not reserved. -/
def isIdentifier (text : String) : Bool :=
  match text.toList with
  | [] => false
  | first :: rest =>
      Token.beginsName first && rest.all Token.continuesName && !reservedNames.contains text

/-- Whether a character is printed as itself, or is one of three control characters. -/
def isPlainCharacter (character : Char) : Bool :=
  (' ' ≤ character && character ≤ '~') || character == '\t' || character == '\r' ||
    character == '\n'

/-- Whether a literal reads back.  There are no tokens for negative integers, and floats are
left out. -/
def Literal.readsBack : Literal → Bool
  | .none => true
  | .bool _ => true
  | .integer value => decide (0 ≤ value) && decide (value ≤ Number.greatestInteger)
  | .float _ => false
  | .string value => value.toList.all isPlainCharacter

namespace Expression

/-- Whether an expression is delimited, or ends in something delimited. -/
def isOperand : Expression → Bool
  | .unary _ _ _ => false
  | .test _ _ _ _ _ => false
  | _ => true

/-- Whether an expression is an operand behind any count of minus signs. -/
def isSigned : Expression → Bool
  | .unary .negate _ _ => true
  | expression => expression.isOperand

/-- Whether an expression can be tested without parentheses. -/
def isTestable : Expression → Bool
  | .test _ _ _ _ _ => true
  | expression => expression.isSigned

/-- Whether an expression is a filter without arguments; parentheses behind it would be its
arguments. -/
def isBareFilter : Expression → Bool
  | .filter _ _ arguments _ => arguments.isEmpty
  | _ => false

/-- Whether the text of an expression ends in a closing brace.  One more would close the
tag. -/
def endsInBrace (expression : Expression) : Bool :=
  expression.text.toList.getLast? == some '\x7d'

mutual

/-- Whether the text of an expression reads back. -/
def readsBack : Expression → Bool
  | .literal value _ => value.readsBack
  | .name identifier _ => isIdentifier identifier
  | .list items _ => itemsReadBack items
  | .dict entries _ =>
      entriesReadBack entries && !entries.getLast?.any fun entry => entry.2.endsInBrace
  | .member target memberName _ =>
      target.isOperand && readsBack target && isIdentifier memberName
  | .item target index _ => target.isOperand && readsBack target && readsBack index
  | .call callee arguments _ =>
      callee.isOperand && !callee.isBareFilter && readsBack callee &&
        argumentsReadBack arguments
  | .filter target filterName arguments _ =>
      target.isOperand && readsBack target && isIdentifier filterName &&
        argumentsReadBack arguments
  | .test target testName arguments _ _ =>
      target.isTestable && readsBack target && isIdentifier testName &&
        argumentsReadBack arguments
  | .unary .not operand _ => readsBack operand
  | .unary .negate operand _ => operand.isSigned && readsBack operand
  | .binary _ left right _ =>
      left.isSigned && readsBack left && right.isSigned && readsBack right

/-- Whether the texts of several expressions read back. -/
def itemsReadBack : List Expression → Bool
  | [] => true
  | first :: rest => readsBack first && itemsReadBack rest

/-- Whether the texts of the keys and values of a dictionary read back. -/
def entriesReadBack : List (Expression × Expression) → Bool
  | [] => true
  | (key, value) :: rest => readsBack key && readsBack value && entriesReadBack rest

/-- Whether the texts of arguments with a name read back. -/
def keywordsReadBack : List (String × Expression) → Bool
  | [] => true
  | (keyword, value) :: rest => isIdentifier keyword && readsBack value && keywordsReadBack rest

/-- Whether the texts of arguments read back. -/
def argumentsReadBack : CallArguments Expression → Bool
  | ⟨positional, keyword⟩ => itemsReadBack positional && keywordsReadBack keyword

end

end Expression

/-! ## Tokens of a text -/

/-- A token without its position. -/
structure Sign where
  kind : TokenKind
  text : String
deriving DecidableEq

/-- A token is its sign at a position. -/
def Token.sign (token : Token) : Sign :=
  ⟨token.kind, token.text⟩

namespace Sign

def name (text : String) : Sign := ⟨.name, text⟩

def operator (text : String) : Sign := ⟨.operator, text⟩

def comma : Sign := operator ","

/-- Parts with a comma between any two of them. -/
def separated : List (List Sign) → List Sign
  | [] => []
  | first :: rest => first ++ rest.flatMap fun part => comma :: part

end Sign

open Sign (comma separated)

/-- The token of a literal. -/
def Literal.sign : Literal → Sign
  | .none => .name "none"
  | .bool value => .name (if value then "true" else "false")
  | .integer value => ⟨.integer, toString value⟩
  | .float value => ⟨.float, Number.plain value⟩
  | .string value => ⟨.string, value⟩

/-- The token of an operator with one operand. -/
def UnaryOperator.sign : UnaryOperator → Sign
  | .not => .name "not"
  | .negate => .operator "-"

/-- The tokens of an operator with two operands. -/
def BinaryOperator.signs : BinaryOperator → List Sign
  | .or => [.name "or"]
  | .and => [.name "and"]
  | .isIn => [.name "in"]
  | .notIn => [.name "not", .name "in"]
  | operator => [.operator operator.symbol]

namespace Expression

mutual

/-- The tokens of the text of an expression. -/
def signs : Expression → List Sign
  | .literal value _ => [value.sign]
  | .name identifier _ => [.name identifier]
  | .list items _ => .operator "[" :: separated (itemSigns items) ++ [.operator "]"]
  | .dict entries _ =>
      .operator "\x7b" :: separated (entrySigns entries) ++ [.operator "\x7d"]
  | .member target memberName _ => signs target ++ [.operator ".", .name memberName]
  | .item target index _ => signs target ++ .operator "[" :: signs index ++ [.operator "]"]
  | .call callee arguments _ => signs callee ++ argumentsSigns arguments
  | .filter target filterName arguments _ =>
      signs target ++ .operator "|" :: .name filterName ::
        if arguments.isEmpty then [] else argumentsSigns arguments
  | .test target testName arguments negated _ =>
      signs target ++ .name "is" :: (if negated then [.name "not"] else []) ++ .name testName ::
        if arguments.isEmpty then [] else argumentsSigns arguments
  | .unary operator operand _ => operator.sign :: signs operand
  | .binary operator left right _ =>
      .operator "(" :: signs left ++ operator.signs ++ signs right ++ [.operator ")"]

/-- The tokens of arguments in parentheses. -/
def argumentsSigns : CallArguments Expression → List Sign
  | ⟨positional, keyword⟩ =>
      .operator "(" :: separated (itemSigns positional ++ keywordSigns keyword) ++
        [.operator ")"]

/-- The tokens of several expressions. -/
def itemSigns : List Expression → List (List Sign)
  | [] => []
  | first :: rest => signs first :: itemSigns rest

/-- The tokens of the entries of a dictionary. -/
def entrySigns : List (Expression × Expression) → List (List Sign)
  | [] => []
  | (key, value) :: rest => (signs key ++ .operator ":" :: signs value) :: entrySigns rest

/-- The tokens of arguments with a name. -/
def keywordSigns : List (String × Expression) → List (List Sign)
  | [] => []
  | (keyword, value) :: rest =>
      (.name keyword :: .operator "=" :: signs value) :: keywordSigns rest

end

end Expression

end TemplateEngine
