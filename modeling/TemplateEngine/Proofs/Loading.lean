import TemplateEngine.Interpreter.Reference

/-!
# Resolving and reading

A reference to a template is resolved by one loader and read by the loader derived for it.
A directory loader resolves a name to a path below its root; the derived loader follows the
path once more, now from the directory of the template.  For an absolute path that changes
nothing.  A relative path leads somewhere else, unless the directory of the template looks
like the current one.
-/

namespace TemplateEngine

namespace Path

theorem splitSlashes_ne_nil (current characters : List Char) :
    splitSlashes current characters ≠ [] := by
  fun_induction splitSlashes current characters <;> simp_all

theorem splitSlashes_append (current before after : List Char) :
    splitSlashes current (before ++ '/' :: after) =
      splitSlashes current before ++ splitSlashes [] after := by
  fun_induction splitSlashes current before with
  | case1 current => simp [splitSlashes]
  | case2 current rest inductionHypothesis => simp [splitSlashes, inductionHypothesis]
  | case3 current character rest other inductionHypothesis =>
      simp [splitSlashes, inductionHypothesis]

theorem segments_ne_nil (path : String) : segments path ≠ [] := by
  simpa [segments] using splitSlashes_ne_nil [] path.toList

/-- The segments around a slash are those before it and those after it. -/
theorem segments_append_slash (base path : String) :
    segments (base ++ "/" ++ path) = segments base ++ segments path := by
  simp [segments, splitSlashes_append]

/-- A path that begins with a named one is absolute if that is. -/
theorem isAbsolute_append {base : String} (path : String) (named : base.isEmpty = false) :
    isAbsolute (base ++ path) = isAbsolute base := by
  have characters : base.toList ≠ [] := by simpa using named
  obtain ⟨first, rest, same⟩ := List.exists_cons_of_ne_nil characters
  simp [isAbsolute, same]

theorem isEmpty_of_isAbsolute {path : String} (absolute : isAbsolute path = true) :
    path.isEmpty = false := by
  cases named : path.isEmpty with
  | false => rfl
  | true => simp_all [isAbsolute]

/-- A path below an absolute one is absolute. -/
theorem isAbsolute_join {base : String} (path : String) (absolute : isAbsolute base = true) :
    isAbsolute (join base path) = true := by
  have named := isEmpty_of_isAbsolute absolute
  unfold join
  split
  · simp_all
  · split
    · rw [isAbsolute_append path named, absolute]
    · rw [String.append_assoc, isAbsolute_append _ named, absolute]

end Path

/-! ## Following a path from another one -/

namespace FileTree

/-- The directory that some segments lead to from another one. -/
def directoryFrom? (tree : FileTree) (directory : List String) :
    List String → Option (List String)
  | [] => some directory
  | segment :: rest =>
      if segment = "" ∨ segment = "." then tree.directoryFrom? directory rest
      else if segment = ".." then tree.directoryFrom? directory.dropLast rest
      else
        let place := directory ++ [segment]
        match tree.file? place with
        | some _ => none
        | none => if tree.isDirectory place then tree.directoryFrom? place rest else none

/-- The directory that a path names. -/
def directory? (tree : FileTree) (path : String) : Option (List String) :=
  tree.directoryFrom? (if Path.isAbsolute path then [] else tree.current)
    (Path.segments path)

variable (tree : FileTree)

/-- Segments are followed in turn. -/
theorem fileFrom?_append (directory before : List String) {rest : List String}
    (more : rest ≠ []) :
    tree.fileFrom? directory (before ++ rest) =
      (tree.directoryFrom? directory before).bind fun place => tree.fileFrom? place rest := by
  induction before generalizing directory with
  | nil => rfl
  | cons segment before inductionHypothesis =>
      simp only [List.cons_append, fileFrom?, directoryFrom?]
      split
      · exact inductionHypothesis directory
      · split
        · exact inductionHypothesis directory.dropLast
        · cases tree.file? (directory ++ [segment]) with
          | some content => simp [more]
          | none =>
              dsimp only
              split
              · exact inductionHypothesis (directory ++ [segment])
              · rfl

/-- A slash at the end of the first of two paths does not matter. -/
theorem fileFrom?_segments_append (directory : List String) {base : String} (path : String)
    (slashed : base.toList.getLast? = some '/') :
    tree.fileFrom? directory (Path.segments (base ++ path)) =
      tree.fileFrom? directory (Path.segments base ++ Path.segments path) := by
  obtain ⟨front, characters⟩ := List.getLast?_eq_some_iff.1 slashed
  obtain ⟨front, rfl⟩ : ∃ front, base = front ++ "/" :=
    ⟨String.ofList front, by rw [← String.toList_inj, characters]; simp⟩
  have emptied : Path.segments (front ++ "/") = Path.segments front ++ [""] := by
    have ended := Path.segments_append_slash front ""
    rwa [String.append_empty] at ended
  rw [Path.segments_append_slash, emptied, List.append_assoc,
    fileFrom?_append tree directory _ (Path.segments_ne_nil path),
    fileFrom?_append tree directory _ (by simp)]
  simp [fileFrom?]

/-- A joined path is followed by way of the directory that its first part names. -/
theorem read?_join (base : String) {path : String}
    (relative : Path.isAbsolute path = false) :
    tree.read? (Path.join base path) =
      (tree.directory? base).bind fun place => tree.fileFrom? place (Path.segments path) := by
  cases named : base.isEmpty with
  | true =>
      have joined : Path.join base path = path := by simp [Path.join, named]
      have nothing : base = "" := by simpa using named
      rw [joined, nothing, show tree.directory? "" = some tree.current from rfl,
        Option.bind_some, read?, relative]
      split
      · rename_i emptied
        rw [show path = "" by simpa using emptied]
        rfl
      · rfl
  | false =>
      have followed := tree.fileFrom?_append
        (if Path.isAbsolute base then [] else tree.current) (Path.segments base)
        (Path.segments_ne_nil path)
      rw [directory?, ← followed]
      by_cases slashed : base.toList.getLast? = some '/'
      · have joined : Path.join base path = base ++ path := by
          simp [Path.join, relative, named, slashed]
        rw [joined, read?, Path.isAbsolute_append path named, if_neg (by simp_all),
          fileFrom?_segments_append tree _ path slashed]
      · have joined : Path.join base path = base ++ "/" ++ path := by
          simp [Path.join, relative, named, slashed]
        rw [joined, read?, Path.segments_append_slash, String.append_assoc,
          Path.isAbsolute_append _ named, if_neg (by simp_all)]

end FileTree

/-! ## References -/

namespace Loader

/-- Whether the names of a loader lead to one place, wherever they are followed from. -/
def Anchored : Loader → Prop
  | .memory _ => True
  | .directory _ root => Path.isAbsolute root = true

/-- The path of the directory of a template, at which the loader for names in it is
rooted. -/
def directoryOf (path : String) : String :=
  (Path.parent? path).getD "."

/-- The text that a file holds, if there is one and it is a text. -/
def textOf (content : Option ByteArray) : Option (Option String) :=
  content.map String.fromUTF8?

/-- Whether the path of a template leads to the same text again when it is followed from the
directory of the template. -/
def Rereads : Loader → String → Prop
  | .memory _, _ => True
  | .directory tree _, path =>
      Path.isAbsolute path = true ∨
        textOf ((tree.directory? (directoryOf path)).bind fun place =>
            tree.fileFrom? place (Path.segments path)) =
          textOf (tree.read? path)

theorem pathOf_eq_join (root name : String) : pathOf root name = Path.join root name := by
  unfold pathOf Path.join
  split
  · rename_i absolute
    simp [absolute]
  · rfl

/-- What reading a file gives depends on its text only, unless there is no file. -/
theorem read_eq_read_iff {tree : FileTree} {root other name path : String}
    (present : tree.isFile (pathOf root name) = true) :
    (directory tree other).read path = (directory tree root).read name ↔
      textOf (tree.read? (pathOf other path)) = textOf (tree.read? (pathOf root name)) := by
  obtain ⟨content, held⟩ := Option.isSome_iff_exists.1 present
  simp only [read, textOf, held, Option.map_some]
  generalize String.fromUTF8? content = text
  cases tree.read? (pathOf other path) with
  | none => cases text <;> simp
  | some found =>
      simp only [Option.map_some, Option.some.injEq]
      generalize String.fromUTF8? found = otherText
      cases text <;> cases otherText <;> simp

theorem rereads_iff {tree : FileTree} {root path : String} (relative : ¬ Path.isAbsolute path) :
    (directory tree root).Rereads path ↔
      textOf (tree.read? (pathOf (directoryOf path) path)) = textOf (tree.read? path) := by
  have followed := tree.read?_join (directoryOf path) (Bool.eq_false_iff.2 relative)
  simp [Rereads, relative, pathOf_eq_join, followed]

/-- Below a directory the path of a template is read again by the derived loader. -/
theorem read_directory_iff {tree : FileTree} {root name : String}
    (present : tree.isFile (pathOf root name) = true) :
    (directory tree (directoryOf (pathOf root name))).read (pathOf root name) =
        (directory tree root).read name ↔
      (directory tree root).Rereads (pathOf root name) := by
  rw [read_eq_read_iff present]
  by_cases absolute : Path.isAbsolute (pathOf root name) = true
  · have same : pathOf (directoryOf (pathOf root name)) (pathOf root name) = pathOf root name :=
      if_pos absolute
    exact iff_of_true (by rw [same]) (.inl absolute)
  · exact (rereads_iff absolute).symm

/-- Whenever a loader for names in a template can be derived, its name is resolved.  The
derived loader reads under it what the loader itself reads if and only if the path leads to
the same text again from the directory of the template.  For names in memory and below an
absolute root it always does. -/
theorem reads_resolved_iff {loader derived : Loader} {name : String}
    (inherited : loader.inherit name = .ok derived) :
    ∃ identifier, loader.resolve name = .ok identifier ∧
      (derived.read identifier = loader.read name ↔ loader.Rereads identifier) ∧
        (loader.Anchored → derived.read identifier = loader.read name) := by
  cases loader with
  | memory templates =>
      simp only [inherit] at inherited
      split at inherited
      · rename_i listed
        cases inherited
        exact ⟨name, if_pos listed, iff_of_true rfl True.intro, fun _ => rfl⟩
      · cases inherited
  | directory tree root =>
      simp only [inherit] at inherited
      split at inherited
      · rename_i present
        cases inherited
        have coherent := read_directory_iff present
        refine ⟨pathOf root name, rfl, coherent, fun anchored => coherent.2 (.inl ?_)⟩
        rw [pathOf_eq_join]
        exact Path.isAbsolute_join name anchored
      · cases inherited

/-- A loader with a relative root, and the one template below it. -/
def relative : Loader :=
  .directory ⟨[], [(["r", "a"], "text".toUTF8)]⟩ "r"

/-- Below a relative root a template is not found under the name it was resolved to. -/
theorem reads_resolved_iff_relative :
    relative.inherit "a" = .ok relative ∧
      relative.read "a" = .ok "text" ∧ relative.read "r/a" = .error (.notFound "r/r/a") ∧
      ∃ identifier, relative.resolve "a" = .ok identifier ∧
        ¬ relative.Rereads identifier := by
  have inherited : relative.inherit "a" = .ok relative := by rfl
  have reads : relative.read "a" = .ok "text" := by rfl
  have fails : relative.read "r/a" = .error (.notFound "r/r/a") := by rfl
  refine ⟨inherited, reads, fails, ?_⟩
  obtain ⟨identifier, resolved, coherent, _⟩ := reads_resolved_iff inherited
  obtain rfl : "r/a" = identifier := Except.ok.inj resolved
  refine ⟨_, resolved, fun rereads => ?_⟩
  cases fails.symm.trans ((coherent.2 rereads).trans reads)

end Loader

/-! ## What an environment refers to -/

/-- What is referred to is loaded with a derived loader. -/
theorem Environment.exists_of_refer {environment included : Environment} {filename : String}
    (referred : environment.refer filename = .ok included) :
    ∃ derived identifier lineage, environment.loader.inherit filename = .ok derived ∧
      environment.loader.resolve filename = .ok identifier ∧
      Lineage.load environment.config environment.registries.statements derived identifier =
        .ok lineage ∧
      included = { environment with loader := derived, lineage := lineage } := by
  unfold Environment.refer at referred
  cases inherited : environment.loader.inherit filename with
  | error error =>
      rw [inherited] at referred
      cases referred
  | ok derived =>
      cases resolved : environment.loader.resolve filename with
      | error error =>
          rw [inherited, resolved] at referred
          cases referred
      | ok identifier =>
          have named : (Except.ok identifier : Except LoaderError String).mapError
              TemplateError.loader = .ok identifier := rfl
          cases loaded : Lineage.load environment.config environment.registries.statements
              derived identifier with
          | error error =>
              simp only [inherited, resolved, named, bind, Except.bind, loaded] at referred
              cases referred
          | ok lineage =>
              simp only [inherited, resolved, named, bind, Except.bind, loaded] at referred
              cases referred
              exact ⟨derived, identifier, lineage, rfl, rfl, loaded, rfl⟩

end TemplateEngine
