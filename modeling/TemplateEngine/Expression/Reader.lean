import TemplateEngine.Cursor
import TemplateEngine.Expression
import TemplateEngine.Number.Text
import TemplateEngine.Token.Scanner

/-!
# Reading expressions

Expressions are read from the tokens of a tag by precedence, loosest first: `or`,
`and`, `not`, comparisons with membership and tests, `~`, `+` and `-`, the
multiplicative operators, unary minus, and last attributes, items, calls and
filters.  Operators of one level group to the left.

Every level is a reader over the next one.  An expression inside brackets or behind
an operator begins after at least one token, so the count of tokens bounds how deep
expressions nest and how long each chain of operators is; `expression` supplies that
bound.
-/

namespace TemplateEngine.TagReader

/-- Extend an expression as long as a step finds a way to. -/
def extend (step : Expression → TagReader (Option Expression)) :
    Nat → Expression → TagReader Expression
  | 0, expression => return expression
  | bound + 1, expression => do
      match ← step expression with
      | some extended => extend step bound extended
      | none => return expression

/-- One more operator of a level with its right operand. -/
def binaryStep (operator? : TagReader (Option (BinaryOperator × Position)))
    (operand : TagReader Expression) (left : Expression) :
    TagReader (Option Expression) := do
  match ← operator? with
  | some (operator, position) =>
      let right ← operand
      return some (.binary operator left right position)
  | none => return none

/-- An operator of a level that is written as a name. -/
def namedOperator? (name : String) (operator : BinaryOperator) :
    TagReader (Option (BinaryOperator × Position)) := do
  return (← name? [name]).map fun token => (operator, token.position)

/-- The operator that a token of several levels writes. -/
def binaryOperatorOf (symbol : String) : BinaryOperator :=
  match symbol with
  | "==" => .equal
  | "!=" => .notEqual
  | "<" => .less
  | "<=" => .lessEqual
  | ">" => .greater
  | ">=" => .greaterEqual
  | "~" => .concat
  | "+" => .add
  | "-" => .subtract
  | "*" => .multiply
  | "/" => .divide
  | "//" => .floorDivide
  | _ => .modulo

/-- An operator of a level that is written as a symbol. -/
def symbolOperator? (symbols : List String) :
    TagReader (Option (BinaryOperator × Position)) := do
  return (← operator? symbols).map fun token =>
    (binaryOperatorOf token.text, token.position)

/-- One argument of a call, added to those before it. -/
def argument (expression : TagReader Expression) (gathered : CallArguments Expression) :
    TagReader (CallArguments Expression) := do
  let cursor ← get
  if cursor.current?.any (·.kind == .name) && (cursor.peek? 1).any (·.isOperator "=") then
    let token ← name "an argument name"
    let _ ← operator "="
    let value ← expression
    return { gathered with keyword := gathered.keyword ++ [(token.text, value)] }
  else if !gathered.keyword.isEmpty then
    fail "Positional argument follows keyword argument"
  else
    let value ← expression
    return { gathered with positional := gathered.positional ++ [value] }

/-- The arguments of a call up to its closing parenthesis. -/
def argumentsFrom (expression : TagReader Expression) :
    Nat → CallArguments Expression → TagReader (CallArguments Expression)
  | 0, _ => fail "Expected ','"
  | bound + 1, gathered => do
      let gathered ← argument expression gathered
      if ← acceptsOperator ")" then return gathered
      else
        let _ ← operator ","
        argumentsFrom expression bound gathered

/-- The arguments of a call after its opening parenthesis. -/
def callArguments (expression : TagReader Expression) (bound : Nat) :
    TagReader (CallArguments Expression) := do
  if ← acceptsOperator ")" then return CallArguments.none
  else argumentsFrom expression bound CallArguments.none

/-- The arguments of a filter or test, which may be absent. -/
def optionalArguments (expression : TagReader Expression) (bound : Nat) :
    TagReader (CallArguments Expression) := do
  if ← acceptsOperator "(" then callArguments expression bound
  else return CallArguments.none

/-- Items separated by commas up to a closing operator, with those before them. -/
def itemsFrom {α : Type} (item : TagReader α) (closer : String) :
    Nat → List α → TagReader (List α)
  | 0, _ => fail "Expected ','"
  | bound + 1, gathered => do
      if ← acceptsOperator closer then return gathered
      else
        if !gathered.isEmpty then
          let _ ← operator ","
        let next ← item
        itemsFrom item closer bound (gathered ++ [next])

/-- The key and value of a dictionary entry. -/
def entry (expression : TagReader Expression) : TagReader (Expression × Expression) := do
  let key ← expression
  let _ ← operator ":"
  let value ← expression
  return (key, value)

/-- The literal or variable that a name token is. -/
def nameExpression (text : String) (position : Position) : Expression :=
  match text with
  | "true" => .literal (.bool true) position
  | "True" => .literal (.bool true) position
  | "false" => .literal (.bool false) position
  | "False" => .literal (.bool false) position
  | "none" => .literal .none position
  | "None" => .literal .none position
  | _ => .name text position

/-- The value of an integer token, unless it exceeds 64 bits. -/
def integerOf? (text : String) : Option Int :=
  let value : Int := Number.digitsValue text.toList
  if value ≤ Number.greatestInteger then some value else none

/-- The value of a float token. -/
def floatOf (text : String) : Float :=
  let characters := text.toList
  Number.ofDigits (characters.takeWhile Char.isDigit)
    ((characters.dropWhile Char.isDigit).drop 1) 0

/-- A literal, a variable, a list, a dictionary, or an expression in parentheses. -/
def primary (expression : TagReader Expression) (bound : Nat) : TagReader Expression := do
  match ← next? with
  | none => fail "Expected an expression"
  | some ⟨.name, text, position, _⟩ => return nameExpression text position
  | some ⟨.string, text, position, _⟩ => return .literal (.string text) position
  | some ⟨.integer, text, position, _⟩ =>
      match integerOf? text with
      | some value => return .literal (.integer value) position
      | none => throw ⟨.invalidInteger text, position⟩
  | some ⟨.float, text, position, _⟩ => return .literal (.float (floatOf text)) position
  | some ⟨.operator, "(", _, _⟩ =>
      let inner ← expression
      let _ ← operator ")"
      return inner
  | some ⟨.operator, "[", position, _⟩ =>
      return .list (← itemsFrom expression "]" bound []) position
  | some ⟨.operator, "\x7b", position, _⟩ =>
      return .dict (← itemsFrom (entry expression) "\x7d" bound []) position
  | some token => throw ⟨.unexpectedInExpression token.text, token.position⟩

/-- One more attribute, item, call or filter. -/
def postfixStep (expression : TagReader Expression) (bound : Nat) (target : Expression) :
    TagReader (Option Expression) := do
  match ← operator? [".", "[", "(", "|"] with
  | none => return none
  | some token =>
      match token.text with
      | "." =>
          match ← next? with
          | some selected =>
              if selected.kind == .name || selected.kind == .integer then
                return some (.member target selected.text token.position)
              else fail "Expected an attribute name after '.'"
          | none => fail "Expected an attribute name after '.'"
      | "[" =>
          let index ← expression
          let _ ← operator "]"
          return some (.item target index token.position)
      | "(" =>
          let arguments ← callArguments expression bound
          return some (.call target arguments token.position)
      | _ =>
          let filter ← name "a filter name"
          let arguments ← optionalArguments expression bound
          return some (.filter target filter.text arguments token.position)

/-- A primary expression with its attributes, items, calls and filters. -/
def postfixed (expression : TagReader Expression) (bound : Nat) :
    TagReader Expression := do
  let first ← primary expression bound
  extend (postfixStep expression bound) bound first

/-- An operand behind any count of minus signs. -/
def negated (operand : TagReader Expression) : Nat → TagReader Expression
  | 0 => operand
  | bound + 1 => do
      match ← operator? ["-"] with
      | some token => return .unary .negate (← negated operand bound) token.position
      | none => operand

/-- Operands joined by the operators of a level that are written as symbols. -/
def symbolLevel (symbols : List String) (operand : TagReader Expression) (bound : Nat) :
    TagReader Expression := do
  let first ← operand
  extend (binaryStep (symbolOperator? symbols) operand) bound first

/-- The membership operator of two words, if it comes next. -/
def notIn? : TagReader (Option (BinaryOperator × Position)) := do
  let cursor ← get
  if cursor.current?.any (·.isName "not") && (cursor.peek? 1).any (·.isName "in") then
    set cursor.advance.advance
    return some (.notIn, cursor.position)
  else return none

/-- A test after the word that announces it. -/
def testOf (expression : TagReader Expression) (bound : Nat) (target : Expression)
    (position : Position) : TagReader Expression := do
  let negated ← accepts "not"
  let test ← name "a test name"
  let arguments ← optionalArguments expression bound
  return .test target test.text arguments negated position

/-- One more comparison, membership or test. -/
def compareStep (expression operand : TagReader Expression) (bound : Nat)
    (left : Expression) : TagReader (Option Expression) := do
  match ← binaryStep (symbolOperator? ["==", "!=", "<", "<=", ">", ">="]) operand left with
  | some compared => return some compared
  | none =>
      match ← binaryStep (namedOperator? "in" .isIn) operand left with
      | some compared => return some compared
      | none =>
          match ← binaryStep notIn? operand left with
          | some compared => return some compared
          | none =>
              match ← name? ["is"] with
              | some token => return some (← testOf expression bound left token.position)
              | none => return none

/-- Comparisons, memberships and tests of an operand. -/
def comparison (expression operand : TagReader Expression) (bound : Nat) :
    TagReader Expression := do
  let first ← operand
  extend (compareStep expression operand bound) bound first

/-- An operand behind any count of the word `not`. -/
def complemented (operand : TagReader Expression) : Nat → TagReader Expression
  | 0 => operand
  | bound + 1 => do
      match ← name? ["not"] with
      | some token => return .unary .not (← complemented operand bound) token.position
      | none => operand

/-- Operands joined by an operator that is written as a name. -/
def nameLevel (name : String) (operator : BinaryOperator) (operand : TagReader Expression)
    (bound : Nat) : TagReader Expression := do
  let first ← operand
  extend (binaryStep (namedOperator? name operator) operand) bound first

/-- All precedence levels over a reader for the expressions they enclose. -/
def levels (expression : TagReader Expression) (bound : Nat) : TagReader Expression :=
  let unary := negated (postfixed expression bound) bound
  let multiplicative := symbolLevel ["*", "/", "//", "%"] unary bound
  let additive := symbolLevel ["+", "-"] multiplicative bound
  let concatenation := symbolLevel ["~"] additive bound
  let compared := comparison expression concatenation bound
  let conjunction := nameLevel "and" .and (complemented compared bound) bound
  nameLevel "or" .or conjunction bound

/-- An expression that nests at most as deep as a bound. -/
def expressionWithin : Nat → TagReader Expression
  | 0 => fail "Expected an expression"
  | bound + 1 => levels (expressionWithin bound) bound

/-- An expression. -/
def expression : TagReader Expression := do
  let cursor ← get
  expressionWithin (cursor.remaining.length + 1)

end TemplateEngine.TagReader

namespace TemplateEngine.Cursor

/-- The tokens of a text that stands between the delimiters of an output tag.  The
cursor ends at the position of the last token left, or of the opening delimiter. -/
def ofSource (source : String) : Except SyntaxError Cursor := do
  let tokens ← Token.tokenize Config.default ("\x7b\x7b " ++ source ++ " \x7d\x7d")
  let inner := tokens.take (tokens.length - 2)
  match inner.head?, inner.getLast? with
  | some first, some last => return ⟨inner.drop 1, first.position, last.position⟩
  | _, _ => return ⟨[], default, default⟩

end TemplateEngine.Cursor
