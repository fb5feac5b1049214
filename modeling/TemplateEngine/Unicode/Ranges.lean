/-!
# Sets of code points as ranges

A character property is given as the ascending list of the code point ranges
that have it.  Membership walks the list and stops at the first range that
begins past the code point, so characters of the ASCII block are decided after
a few steps.
-/

namespace TemplateEngine.Unicode

/-- Inclusive code point ranges, in ascending order. -/
abbrev Ranges := List (Nat × Nat)

namespace Ranges

/-- Whether a code point lies in one of ascending ranges. -/
def covers : Ranges → Nat → Bool
  | [], _ => false
  | (first, last) :: rest, code =>
      if code < first then false
      else if code ≤ last then true
      else covers rest code

/-- Whether a character lies in one of ascending ranges. -/
def contains (ranges : Ranges) (character : Char) : Bool :=
  ranges.covers character.toNat

/-- A covered code point belongs to a listed range. -/
theorem exists_of_covers {ranges : Ranges} {code : Nat}
    (covered : ranges.covers code = true) :
    ∃ range ∈ ranges, range.1 ≤ code ∧ code ≤ range.2 := by
  induction ranges with
  | nil => simp [covers] at covered
  | cons range rest inductionHypothesis =>
      obtain ⟨first, last⟩ := range
      simp only [covers] at covered
      split at covered
      · cases covered
      · rename_i notBefore
        split at covered
        · rename_i notAfter
          exact ⟨(first, last), by simp, Nat.le_of_not_lt notBefore, notAfter⟩
        · obtain ⟨found, member, bounds⟩ := inductionHypothesis covered
          exact ⟨found, List.mem_cons_of_mem _ member, bounds⟩

end Ranges

end TemplateEngine.Unicode
