import TemplateEngine.File.Tree
import TemplateEngine.Table

/-!
# Loaders

A loader finds the source of a template by its name.  A memory loader holds a flat
set of sources.  A directory loader reads files below its root; the loader derived
for one of these files is rooted at the directory of that file, so that names inside
it are relative to it.
-/

namespace TemplateEngine

/-- Where templates are found. -/
inductive Loader where
  | memory (templates : Table String)
  | directory (tree : FileTree) (root : String)

/-- Why a source cannot be loaded. -/
inductive LoaderError where
  | notFound (name : String)
  /-- The file is not an encoded text. -/
  | notText
deriving DecidableEq

namespace LoaderError

/-- The wording of a loader error. -/
def message : LoaderError → String
  | .notFound name => s!"Template not found: {name}"
  | .notText => "I/O error: stream did not contain valid UTF-8"

end LoaderError

namespace Loader

/-- A loader without any template. -/
def empty : Loader := .memory []

/-- The path of a template below a root directory. -/
def pathOf (root name : String) : String :=
  if Path.isAbsolute name then name else Path.join root name

/-- The name under which a loader reads a template. -/
def resolve : Loader → String → Except LoaderError String
  | .memory templates, name =>
      if Table.has templates name then .ok name else .error (.notFound name)
  | .directory _ root, name => .ok (pathOf root name)

/-- The source of a template. -/
def read : Loader → String → Except LoaderError String
  | .memory templates, name =>
      match templates.lookup name with
      | some source => .ok source
      | none => .error (.notFound name)
  | .directory tree root, name =>
      match tree.read? (pathOf root name) with
      | none => .error (.notFound (pathOf root name))
      | some content =>
          match String.fromUTF8? content with
          | some source => .ok source
          | none => .error .notText

/-- The loader for names inside a template. -/
def inherit : Loader → String → Except LoaderError Loader
  | .memory templates, name =>
      if Table.has templates name then .ok (.memory templates)
      else .error (.notFound name)
  | .directory tree root, name =>
      if tree.isFile (pathOf root name) then
        .ok (.directory tree ((Path.parent? (pathOf root name)).getD "."))
      else .error (.notFound (pathOf root name))

/-- The text of a loader. -/
def text : Loader → String
  | .memory templates => s!"MemoryLoader({templates.length} templates)"
  | .directory _ root => s!"FileSystemLoader(root={root})"

/-- Add a template to a memory loader. -/
def add (name source : String) : Loader → Loader
  | .memory templates => .memory (templates.store name source)
  | loader => loader

end Loader

end TemplateEngine
