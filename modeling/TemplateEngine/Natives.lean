import TemplateEngine.Arguments

/-!
# A program's native functions

The engine has no native functions of its own.  These are the ones of a program that
brings some for the values it renders with.
-/

namespace TemplateEngine.Natives

/-- A small set of native functions: `echo` returns its first argument, `pick` its
second argument or the one named `key`, `fail` fails, and `args` returns a map of what
it was given. -/
def standard : Natives
  | "echo", arguments => (arguments.at? 0).getD .nil
  | "pick", arguments => (arguments.get? 1 "key").getD .nil
  | "fail", _ => .error "boom"
  | "args", arguments =>
      .map
        [("args", .list arguments.positional),
          ("kwargs", .list (arguments.keyword.map fun argument =>
            .list [.plain argument.1, argument.2])),
          ("empty", .bool arguments.isEmpty)]
  | _, _ => .nil

end TemplateEngine.Natives
