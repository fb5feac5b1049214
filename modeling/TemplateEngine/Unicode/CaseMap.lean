/-!
# Case mappings as runs

Case mappings are mostly regular: a whole alphabet lies at one distance from its
other case, or capitals and small letters alternate.  A mapping is therefore a
list of runs with a common distance, together with the few characters whose
mapping has several characters.
-/

namespace TemplateEngine.Unicode

/-- A run of code points `first`, `first + stride`, …, `last`, each mapped to the
code point at the given distance. -/
structure CaseRun where
  first : Nat
  last : Nat
  stride : Nat
  distance : Int

namespace CaseRun

/-- Whether a code point is a member of the run. -/
def covers (run : CaseRun) (code : Nat) : Bool :=
  run.first ≤ code && code ≤ run.last && (code - run.first) % run.stride == 0

end CaseRun

/-- Map one character by its expansion, by the run that covers it, or to itself. -/
def mapCase (runs : List CaseRun) (expansions : List (Nat × List Nat))
    (character : Char) : List Char :=
  match expansions.lookup character.toNat with
  | some codes => codes.map Char.ofNat
  | none =>
      match runs.find? (·.covers character.toNat) with
      | some run => [Char.ofNat (character.toNat + run.distance).toNat]
      | none => [character]

end TemplateEngine.Unicode
