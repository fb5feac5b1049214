import TemplateEngine.Node

/-!
# Vocabularies

A vocabulary says which words a piece of a template may use: the literal texts it writes,
the names it reads and binds, the filters it applies, the blocks it places and the statements
it makes.  What is within a vocabulary is so with all its parts, the bodies of its statements
included and, if the vocabulary says so, those of its macros, but not the bodies of the
blocks it places, which are found by name.

Many properties of renderings hold for all templates within a suitable vocabulary.
-/

namespace TemplateEngine

/-- The words that a piece of a template may use. -/
structure Vocabulary where
  /-- A literal text. -/
  text : String → Prop
  /-- A name that an expression reads. -/
  name : String → Prop
  /-- The name of a filter. -/
  filter : String → Prop
  /-- A name that a statement binds. -/
  target : String → Prop
  /-- The name of a block that is placed. -/
  block : String → Prop
  /-- A statement, with all that stands in its bodies. -/
  statement : Statement Node → Prop
  /-- Whether there may be statements that a program registers, of which there are boxes. -/
  registered : Prop
  /-- Whether this is also about the parameters and bodies of macros. -/
  macros : Prop

namespace Vocabulary

/-- The vocabulary of all words. -/
def unrestricted : Vocabulary where
  text _ := True
  name _ := True
  filter _ := True
  target _ := True
  block _ := True
  statement _ := True
  registered := True
  macros := True

/-- The vocabulary that restricts nothing but the statements. -/
def stating (statement : Statement Node → Prop) : Vocabulary :=
  { unrestricted with statement := statement }

end Vocabulary

namespace Expression

mutual

/-- Whether an expression uses only words of a vocabulary. -/
def Within (vocabulary : Vocabulary) : Expression → Prop
  | .literal _ _ => True
  | .name identifier _ => vocabulary.name identifier
  | .list items _ => AllWithin vocabulary items
  | .dict entries _ => EntriesWithin vocabulary entries
  | .member target _ _ => Within vocabulary target
  | .item target index _ => Within vocabulary target ∧ Within vocabulary index
  | .call callee arguments _ =>
      Within vocabulary callee ∧ ArgumentsWithin vocabulary arguments
  | .filter target used arguments _ =>
      vocabulary.filter used ∧ Within vocabulary target ∧
        ArgumentsWithin vocabulary arguments
  | .test target _ arguments _ _ =>
      Within vocabulary target ∧ ArgumentsWithin vocabulary arguments
  | .unary _ operand _ => Within vocabulary operand
  | .binary _ left right _ => Within vocabulary left ∧ Within vocabulary right

/-- Whether several expressions use only words of a vocabulary. -/
def AllWithin (vocabulary : Vocabulary) : List Expression → Prop
  | [] => True
  | first :: rest => Within vocabulary first ∧ AllWithin vocabulary rest

/-- Whether the entries of a dictionary use only words of a vocabulary. -/
def EntriesWithin (vocabulary : Vocabulary) : List (Expression × Expression) → Prop
  | [] => True
  | (key, value) :: rest =>
      Within vocabulary key ∧ Within vocabulary value ∧ EntriesWithin vocabulary rest

/-- Whether named arguments use only words of a vocabulary. -/
def KeywordsWithin (vocabulary : Vocabulary) : List (String × Expression) → Prop
  | [] => True
  | (_, first) :: rest => Within vocabulary first ∧ KeywordsWithin vocabulary rest

/-- Whether arguments use only words of a vocabulary. -/
def ArgumentsWithin (vocabulary : Vocabulary) : CallArguments Expression → Prop
  | ⟨positional, keyword⟩ =>
      AllWithin vocabulary positional ∧ KeywordsWithin vocabulary keyword

end

/-- Whether an expression, where there is one, uses only words of a vocabulary. -/
def OptionWithin (vocabulary : Vocabulary) : Option Expression → Prop
  | none => True
  | some expression => expression.Within vocabulary

/-- Whether parameters are words of a vocabulary, and so their default expressions. -/
def ParametersWithin (vocabulary : Vocabulary) (parameters : List (String × Option Expression)) :
    Prop :=
  ∀ parameter ∈ parameters,
    vocabulary.target parameter.1 ∧ OptionWithin vocabulary parameter.2

variable {statement : Statement Node → Prop}

mutual

/-- Where only statements are restricted, expressions are not. -/
theorem within_stating (expression : Expression) :
    expression.Within (.stating statement) := by
  cases expression with
  | literal value position => exact True.intro
  | name name position => exact True.intro
  | list items position => exact allWithin_stating items
  | dict entries position => exact entriesWithin_stating entries
  | member target name position => exact within_stating target
  | item target index position =>
      exact ⟨within_stating target, within_stating index⟩
  | call callee arguments position =>
      exact ⟨within_stating callee, argumentsWithin_stating arguments⟩
  | filter target name arguments position =>
      exact ⟨True.intro, within_stating target, argumentsWithin_stating arguments⟩
  | test target name arguments negated position =>
      exact ⟨within_stating target, argumentsWithin_stating arguments⟩
  | unary operator operand position => exact within_stating operand
  | binary operator left right position =>
      exact ⟨within_stating left, within_stating right⟩

private theorem allWithin_stating (expressions : List Expression) :
    AllWithin (.stating statement) expressions := by
  cases expressions with
  | nil => exact True.intro
  | cons first rest => exact ⟨within_stating first, allWithin_stating rest⟩

private theorem entriesWithin_stating (entries : List (Expression × Expression)) :
    EntriesWithin (.stating statement) entries := by
  match entries with
  | [] => exact True.intro
  | (key, value) :: rest =>
      exact ⟨within_stating key, within_stating value, entriesWithin_stating rest⟩

private theorem keywordsWithin_stating (keywords : List (String × Expression)) :
    KeywordsWithin (.stating statement) keywords := by
  match keywords with
  | [] => exact True.intro
  | (_, first) :: rest => exact ⟨within_stating first, keywordsWithin_stating rest⟩

private theorem argumentsWithin_stating (arguments : CallArguments Expression) :
    ArgumentsWithin (.stating statement) arguments := by
  match arguments with
  | ⟨positional, keyword⟩ =>
      exact ⟨allWithin_stating positional, keywordsWithin_stating keyword⟩

end

theorem optionWithin_stating (expression : Option Expression) :
    OptionWithin (.stating statement) expression := by
  cases expression with
  | none => exact True.intro
  | some expression => exact within_stating expression

theorem parametersWithin_stating (parameters : List (String × Option Expression)) :
    ParametersWithin (.stating statement) parameters :=
  fun parameter _ => ⟨True.intro, optionWithin_stating parameter.2⟩

end Expression

/-- Whether an output tag uses only words of a vocabulary. -/
def Output.Within (vocabulary : Vocabulary) (output : Output) : Prop :=
  output.expression.Within vocabulary ∧
    Expression.OptionWithin vocabulary output.condition ∧
      Expression.OptionWithin vocabulary output.alternative

namespace Node

mutual

/-- Whether a node uses only words of a vocabulary. -/
def Within (vocabulary : Vocabulary) : Node → Prop
  | .comment _ _ => True
  | .data text _ _ => vocabulary.text text
  | .output written => written.Within vocabulary
  | .statement _ described _ =>
      vocabulary.statement described ∧ StatementWithin vocabulary described
  | .wrapper ⟨nodes, _, _⟩ => AllWithin vocabulary nodes

/-- Whether several nodes use only words of a vocabulary. -/
def AllWithin (vocabulary : Vocabulary) : List Node → Prop
  | [] => True
  | node :: rest => Within vocabulary node ∧ AllWithin vocabulary rest

/-- Whether a body, where there is one, uses only words of a vocabulary. -/
def OptionWithin (vocabulary : Vocabulary) : Option (Body Node) → Prop
  | none => True
  | some ⟨nodes, _, _⟩ => AllWithin vocabulary nodes

/-- Whether the branches of a conditional use only words of a vocabulary. -/
def BranchesWithin (vocabulary : Vocabulary) : List (Expression × Body Node) → Prop
  | [] => True
  | (condition, ⟨nodes, _, _⟩) :: rest =>
      condition.Within vocabulary ∧ AllWithin vocabulary nodes ∧
        BranchesWithin vocabulary rest

/-- Whether a statement uses only words of a vocabulary. -/
def StatementWithin (vocabulary : Vocabulary) : Statement Node → Prop
  | .conditional branches otherwise =>
      BranchesWithin vocabulary branches ∧ OptionWithin vocabulary otherwise
  | .loop targets iterable filter ⟨nodes, _, _⟩ empty =>
      (∀ target ∈ targets, vocabulary.target target) ∧ vocabulary.target "loop" ∧
        iterable.Within vocabulary ∧ Expression.OptionWithin vocabulary filter ∧
          AllWithin vocabulary nodes ∧ OptionWithin vocabulary empty
  | .assignment target value => vocabulary.target target ∧ value.Within vocabulary
  | .capture target ⟨nodes, _, _⟩ => vocabulary.target target ∧ AllWithin vocabulary nodes
  | .block name => vocabulary.block name
  | .parent _ => True
  | .definition ⟨name, parameters, ⟨nodes, _, _⟩, _⟩ =>
      vocabulary.target name ∧
        (vocabulary.macros →
          Expression.ParametersWithin vocabulary parameters ∧ AllWithin vocabulary nodes)
  | .importModule filename target _ =>
      filename.Within vocabulary ∧ vocabulary.target target
  | .importNames filename names _ =>
      filename.Within vocabulary ∧ ∀ imported ∈ names, vocabulary.target imported.1
  | .inclusion filename _ _ => filename.Within vocabulary
  | .box _ condition ⟨nodes, _, _⟩ other =>
      vocabulary.registered ∧ Expression.OptionWithin vocabulary condition ∧
        AllWithin vocabulary nodes ∧ OptionWithin vocabulary other

end

/-- A list of nodes is within a vocabulary as soon as each of them is. -/
theorem allWithin_iff (vocabulary : Vocabulary) (nodes : List Node) :
    AllWithin vocabulary nodes ↔ ∀ node ∈ nodes, node.Within vocabulary := by
  induction nodes with
  | nil => simp [AllWithin]
  | cons node rest induction => simp [AllWithin, induction]

/-! ### The statements in a node -/

mutual

/-- The statements in a node, with those in the bodies of others. -/
def statements : Node → List (Statement Node)
  | .comment _ _ => []
  | .data _ _ _ => []
  | .output _ => []
  | .statement _ described _ => described :: innerStatements described
  | .wrapper ⟨nodes, _, _⟩ => allStatements nodes

/-- The statements in several nodes. -/
def allStatements : List Node → List (Statement Node)
  | [] => []
  | node :: rest => statements node ++ allStatements rest

/-- The statements in a body, where there is one. -/
def optionStatements : Option (Body Node) → List (Statement Node)
  | none => []
  | some ⟨nodes, _, _⟩ => allStatements nodes

/-- The statements in the branches of a conditional. -/
def branchesStatements : List (Expression × Body Node) → List (Statement Node)
  | [] => []
  | (_, ⟨nodes, _, _⟩) :: rest => allStatements nodes ++ branchesStatements rest

/-- The statements in the bodies of a statement, the body of a macro included. -/
def innerStatements : Statement Node → List (Statement Node)
  | .conditional branches otherwise => branchesStatements branches ++ optionStatements otherwise
  | .loop _ _ _ ⟨nodes, _, _⟩ empty => allStatements nodes ++ optionStatements empty
  | .assignment _ _ => []
  | .capture _ ⟨nodes, _, _⟩ => allStatements nodes
  | .block _ => []
  | .parent _ => []
  | .definition ⟨_, _, ⟨nodes, _, _⟩, _⟩ => allStatements nodes
  | .importModule _ _ _ => []
  | .importNames _ _ _ => []
  | .inclusion _ _ _ => []
  | .box _ _ ⟨nodes, _, _⟩ other => allStatements nodes ++ optionStatements other

end

variable {statement : Statement Node → Prop}

mutual

/-- Where only statements are restricted, a node is within the vocabulary if the statements
in it are. -/
theorem within_stating_iff (node : Node) :
    node.Within (.stating statement) ↔ ∀ described ∈ node.statements, statement described := by
  match node with
  | .comment _ _ => simp [Within, statements]
  | .data _ _ _ => simp [Within, statements, Vocabulary.stating, Vocabulary.unrestricted]
  | .output written =>
      have inside : written.Within (.stating statement) :=
        ⟨Expression.within_stating written.expression,
          Expression.optionWithin_stating written.condition,
          Expression.optionWithin_stating written.alternative⟩
      simp [Within, statements, inside]
  | .statement _ described _ =>
      simp only [Within, statements, List.forall_mem_cons, statementWithin_stating_iff described]
      rfl
  | .wrapper ⟨nodes, _, _⟩ => exact allWithin_stating_iff nodes

theorem allWithin_stating_iff (nodes : List Node) :
    AllWithin (.stating statement) nodes ↔
      ∀ described ∈ allStatements nodes, statement described := by
  match nodes with
  | [] => simp [AllWithin, allStatements]
  | node :: rest =>
      simp only [AllWithin, allStatements, List.forall_mem_append, within_stating_iff node,
        allWithin_stating_iff rest]

theorem optionWithin_stating_iff (body : Option (Body Node)) :
    OptionWithin (.stating statement) body ↔
      ∀ described ∈ optionStatements body, statement described := by
  match body with
  | none => simp [OptionWithin, optionStatements]
  | some ⟨nodes, _, _⟩ => exact allWithin_stating_iff nodes

theorem branchesWithin_stating_iff (branches : List (Expression × Body Node)) :
    BranchesWithin (.stating statement) branches ↔
      ∀ described ∈ branchesStatements branches, statement described := by
  match branches with
  | [] => simp [BranchesWithin, branchesStatements]
  | (condition, ⟨nodes, _, _⟩) :: rest =>
      simp only [BranchesWithin, branchesStatements, List.forall_mem_append,
        allWithin_stating_iff nodes, branchesWithin_stating_iff rest]
      exact and_iff_right (Expression.within_stating condition)

theorem statementWithin_stating_iff (described : Statement Node) :
    StatementWithin (.stating statement) described ↔
      ∀ inner ∈ innerStatements described, statement inner := by
  match described with
  | .conditional branches otherwise =>
      simp only [StatementWithin, innerStatements, List.forall_mem_append,
        branchesWithin_stating_iff branches, optionWithin_stating_iff otherwise]
  | .loop _ iterable filter ⟨nodes, _, _⟩ empty =>
      simp only [StatementWithin, innerStatements, List.forall_mem_append,
        allWithin_stating_iff nodes, optionWithin_stating_iff empty]
      exact ⟨fun inside => inside.2.2.2.2, fun inside => ⟨fun _ _ => True.intro, True.intro,
        Expression.within_stating iterable, Expression.optionWithin_stating filter, inside⟩⟩
  | .assignment _ value =>
      exact iff_of_true ⟨True.intro, Expression.within_stating value⟩ (by simp [innerStatements])
  | .capture _ ⟨nodes, _, _⟩ =>
      simp only [StatementWithin, innerStatements, allWithin_stating_iff nodes]
      exact and_iff_right True.intro
  | .block _ => exact iff_of_true True.intro (by simp [innerStatements])
  | .parent _ => exact iff_of_true True.intro (by simp [innerStatements])
  | .definition ⟨_, parameters, ⟨nodes, _, _⟩, _⟩ =>
      simp only [StatementWithin, innerStatements, allWithin_stating_iff nodes]
      exact ⟨fun inside => (inside.2 True.intro).2, fun inside => ⟨True.intro, fun _ =>
        ⟨Expression.parametersWithin_stating parameters, inside⟩⟩⟩
  | .importModule filename _ _ =>
      exact iff_of_true ⟨Expression.within_stating filename, True.intro⟩
        (by simp [innerStatements])
  | .importNames filename _ _ =>
      exact iff_of_true ⟨Expression.within_stating filename, fun _ _ => True.intro⟩
        (by simp [innerStatements])
  | .inclusion filename _ _ =>
      exact iff_of_true (Expression.within_stating filename) (by simp [innerStatements])
  | .box _ condition ⟨nodes, _, _⟩ other =>
      simp only [StatementWithin, innerStatements, List.forall_mem_append,
        allWithin_stating_iff nodes, optionWithin_stating_iff other]
      exact ⟨fun inside => inside.2.2, fun inside =>
        ⟨True.intro, Expression.optionWithin_stating condition, inside⟩⟩

end

theorem allWithin_unrestricted (nodes : List Node) : AllWithin .unrestricted nodes :=
  (allWithin_stating_iff nodes).2 fun _ _ => True.intro

theorem optionWithin_unrestricted (body : Option (Body Node)) : OptionWithin .unrestricted body :=
  (optionWithin_stating_iff body).2 fun _ _ => True.intro

end Node

/-- Whether a macro uses only words of a vocabulary. -/
def Definition.Within (vocabulary : Vocabulary) (definition : Definition Node) : Prop :=
  vocabulary.target definition.name ∧
    Expression.ParametersWithin vocabulary definition.parameters ∧
      Node.AllWithin vocabulary definition.body.nodes

theorem Definition.within_stating_iff {statement : Statement Node → Prop}
    (definition : Definition Node) :
    definition.Within (.stating statement) ↔
      ∀ described ∈ Node.allStatements definition.body.nodes, statement described := by
  unfold Definition.Within
  rw [Node.allWithin_stating_iff]
  exact ⟨fun inside => inside.2.2, fun inside =>
    ⟨True.intro, Expression.parametersWithin_stating definition.parameters, inside⟩⟩

theorem Definition.within_unrestricted (definition : Definition Node) :
    definition.Within .unrestricted :=
  (within_stating_iff definition).2 fun _ _ => True.intro

/-- What a layer holds uses only words of a vocabulary, with the bodies of its blocks. -/
structure Layer.Within (vocabulary : Vocabulary) (layer : Layer) : Prop where
  nodes : Node.AllWithin vocabulary layer.nodes
  blocks : ∀ entry ∈ layer.blocks, Node.AllWithin vocabulary entry.2.nodes
  macros : ∀ entry ∈ layer.macros, entry.2.Within vocabulary

/-- All layers of a lineage use only words of a vocabulary. -/
def Lineage.Within (vocabulary : Vocabulary) (lineage : Lineage) : Prop :=
  ∀ layer ∈ lineage.layers, layer.Within vocabulary

/-- The definitions of the blocks of a lineage use only words of its vocabulary. -/
theorem Lineage.Within.blocksFor {vocabulary : Vocabulary} {lineage : Lineage}
    (inside : lineage.Within vocabulary) (name : String) :
    ∀ body ∈ lineage.blocksFor name, Node.AllWithin vocabulary body.nodes := by
  intro body member
  obtain ⟨layer, listed, found⟩ := List.mem_filterMap.1 member
  exact (inside layer listed).blocks _ (Table.mem_of_lookup found)

theorem Lineage.within_unrestricted (lineage : Lineage) : lineage.Within .unrestricted :=
  fun layer _ =>
    ⟨Node.allWithin_unrestricted layer.nodes, fun _ _ => Node.allWithin_unrestricted _,
      fun _ _ => Definition.within_unrestricted _⟩

end TemplateEngine
