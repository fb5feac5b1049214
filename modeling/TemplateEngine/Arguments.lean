import TemplateEngine.Value

/-!
# Arguments

The evaluated arguments of a call, filter or test.
-/

namespace TemplateEngine

/-- Positional arguments, and arguments by name in the order in which they were
given. -/
structure Arguments where
  positional : List Value
  keyword : List (String × Value)

namespace Arguments

/-- No arguments. -/
def none : Arguments := ⟨[], []⟩

/-- The positional argument at a place. -/
def at? (arguments : Arguments) (place : Nat) : Option Value :=
  arguments.positional[place]?

/-- The first argument given by a name. -/
def named? (arguments : Arguments) (name : String) : Option Value :=
  arguments.keyword.lookup name

/-- The positional argument at a place, or else the one given by a name. -/
def get? (arguments : Arguments) (place : Nat) (name : String) : Option Value :=
  (arguments.at? place).or (arguments.named? name)

/-- Whether there are no arguments. -/
def isEmpty (arguments : Arguments) : Bool :=
  arguments.positional.isEmpty && arguments.keyword.isEmpty

end Arguments

/-- What the native functions of a program return, by the name under which a function
is shown, for the arguments of a call.  So a native function is a pure function of
these: it keeps no state from one call to the next, runs no template and does not
touch a scope.  It may look at all that the values hold that it is given, the scopes
and depths in macros and calls of `super` among them, unless a statement says that it
does not. -/
abbrev Natives := String → Arguments → Value

end TemplateEngine
