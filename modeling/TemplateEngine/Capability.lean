import TemplateEngine.Registry

/-!
# Capabilities

The filters, tests and statement tags that a template can use.  What a template sees
of them is only the names under which registries list them, so that one capability
can have several names and a name can be given to another capability.
-/

namespace TemplateEngine

/-- The filters. -/
inductive Filter where
  | upper
  | lower
  | capitalize
  | title
  | trim
  | replace
  | length
  | first
  | last
  | join
  | default
  | safe
  | escape
deriving DecidableEq

/-- The tests. -/
inductive Predicate where
  | defined
  | undefined
  | none
  | string
  | number
  | mapping
  | sequence
  | callable
  | odd
  | even
  | divisibleBy
deriving DecidableEq

/-- The statement tags.  All but the last are built in; a box is a statement that a
program has to register before a template can use it. -/
inductive StatementKind where
  | conditional
  | loop
  | assignment
  | block
  | parent
  | definition
  | importModule
  | importNames
  | inclusion
  | box
deriving DecidableEq

/-- The filters, tests and statement tags that a template is read and rendered with. -/
structure Registries where
  filters : Registry Filter
  tests : Registry Predicate
  statements : Registry StatementKind

namespace Registries

/-- The names of the filters. -/
def standardFilters : Registry Filter :=
  .ofEntries "filter"
    [("upper", .upper), ("lower", .lower), ("capitalize", .capitalize), ("title", .title),
      ("trim", .trim), ("replace", .replace), ("length", .length), ("count", .length),
      ("first", .first), ("last", .last), ("join", .join), ("default", .default),
      ("d", .default), ("safe", .safe), ("escape", .escape), ("e", .escape)]

/-- The names of the tests. -/
def standardTests : Registry Predicate :=
  .ofEntries "test"
    [("defined", .defined), ("undefined", .undefined), ("none", .none),
      ("string", .string), ("number", .number), ("mapping", .mapping),
      ("sequence", .sequence), ("callable", .callable), ("odd", .odd), ("even", .even),
      ("divisibleby", .divisibleBy)]

/-- The names of the statement tags. -/
def standardStatements : Registry StatementKind :=
  .ofEntries "statement"
    [("if", .conditional), ("for", .loop), ("set", .assignment), ("block", .block),
      ("extends", .parent), ("macro", .definition), ("import", .importModule),
      ("from", .importNames), ("include", .inclusion)]

/-- The built-in capabilities under their usual names. -/
def standard : Registries :=
  ⟨standardFilters, standardTests, standardStatements⟩

end Registries

end TemplateEngine
