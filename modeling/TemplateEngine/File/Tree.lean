import TemplateEngine.File.Path

/-!
# File trees

The files a rendering can read, by their places below the root directory, with the
current directory from which relative paths start.
-/

namespace TemplateEngine

/-- Files by the segments of their absolute paths. -/
structure FileTree where
  current : List String
  files : List (List String × ByteArray)

namespace FileTree

/-- No files. -/
def empty : FileTree := ⟨[], []⟩

/-- The content of the file at a place. -/
def file? (tree : FileTree) (place : List String) : Option ByteArray :=
  tree.files.lookup place

/-- Whether a place is a directory: one that holds a file, or the current one or one
above it. -/
def isDirectory (tree : FileTree) (place : List String) : Bool :=
  place.isPrefixOf tree.current ||
    tree.files.any fun entry => place.isPrefixOf entry.1 && place != entry.1

/-- The file that some segments lead to from a directory. -/
def fileFrom? (tree : FileTree) (directory : List String) :
    List String → Option ByteArray
  | [] => none
  | segment :: rest =>
      if segment = "" ∨ segment = "." then tree.fileFrom? directory rest
      else if segment = ".." then tree.fileFrom? directory.dropLast rest
      else
        let place := directory ++ [segment]
        match tree.file? place with
        | some content => if rest.isEmpty then some content else none
        | none => if tree.isDirectory place then tree.fileFrom? place rest else none

/-- The content of the file that a path names. -/
def read? (tree : FileTree) (path : String) : Option ByteArray :=
  if path.isEmpty then none
  else
    tree.fileFrom? (if Path.isAbsolute path then [] else tree.current)
      (Path.segments path)

/-- Whether a path names a file. -/
def isFile (tree : FileTree) (path : String) : Bool :=
  (tree.read? path).isSome

end FileTree

end TemplateEngine
