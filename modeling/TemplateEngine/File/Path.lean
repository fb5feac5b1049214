/-!
# Paths

A path is a text whose segments are separated by slashes.  Joining and taking the
parent work on the text alone: they never look at files, and they keep `.`, `..` and
doubled slashes wherever these stand before the last segment.
-/

namespace TemplateEngine.Path

/-- The segments of a text between its slashes; `current` holds the characters of the
segment under way, last first. -/
def splitSlashes (current : List Char) : List Char → List (List Char)
  | [] => [current.reverse]
  | '/' :: rest => current.reverse :: splitSlashes [] rest
  | character :: rest => splitSlashes (character :: current) rest

/-- The segments of a path. -/
def segments (path : String) : List String :=
  (splitSlashes [] path.toList).map String.ofList

/-- Whether a path begins at the root directory. -/
def isAbsolute (path : String) : Bool :=
  path.toList.head? == some '/'

/-- A path relative to another one; an absolute path stands for itself. -/
def join (base path : String) : String :=
  if isAbsolute path || base.isEmpty then path
  else if base.toList.getLast? == some '/' then base ++ path
  else base ++ "/" ++ path

/-- Whether a segment names nothing. -/
def isSilent (segment : List Char) : Bool :=
  segment == [] || segment == ['.']

/-- The segments without the silent ones at the end. -/
def dropSilent (segments : List (List Char)) : List (List Char) :=
  (segments.reverse.dropWhile isSilent).reverse

/-- The slash or the current directory that a path begins with, apart from the rest. -/
def splitStart : List Char → List Char × List Char
  | '/' :: rest => (['/'], rest)
  | ['.'] => (['.'], [])
  | '.' :: '/' :: rest => (['.'], '/' :: rest)
  | characters => ([], characters)

/-- The path of the directory that holds the file a path names.  The root directory and
the empty path have none; that of `.` is the empty path. -/
def parent? (path : String) : Option String :=
  let (start, body) := splitStart path.toList
  match (dropSilent (splitSlashes [] body)).reverse with
  | _ :: before =>
      some (String.ofList
        (start ++ (['/'] : List Char).intercalate (dropSilent before.reverse)))
  | [] => if start == ['.'] then some "" else none

end TemplateEngine.Path
