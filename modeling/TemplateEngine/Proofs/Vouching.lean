import TemplateEngine.Proofs.Clean
import TemplateEngine.Proofs.Contents

/-!
# Vouching for texts

A filter that is given clean safe strings gives clean safe strings, unless it puts into one
of them a text that is neither escaped nor marked safe.  Besides the filter that marks a text as
safe, two filters do so: the one that replaces a part of a text, and the one that joins the
items of a list.  What they mix in decides whether their result is clean.
-/

namespace TemplateEngine

namespace Text

/-! ## Texts in which something is replaced -/

variable {old new characters : List Char}

/-- Where nothing is replaced, the characters stay. -/
theorem replaceFrom_of_absent (absent : occursIn old characters = false) :
    replaceFrom old new 0 characters = characters := by
  induction characters with
  | nil => rfl
  | cons character rest inductionHypothesis =>
      simp only [occursIn, Bool.or_eq_false_iff] at absent
      rw [replaceFrom, absent.1, if_neg Bool.false_ne_true, inductionHypothesis absent.2]

theorem subset_replaceFrom (nonempty : old ≠ []) (present : occursIn old characters = true) :
    new ⊆ replaceFrom old new 0 characters := by
  induction characters with
  | nil => exact absurd (List.isEmpty_iff.1 present) nonempty
  | cons character rest inductionHypothesis =>
      rw [replaceFrom]
      split
      · exact List.subset_append_left _ _
      · rename_i further
        rw [occursIn, Bool.or_eq_true, or_iff_right further] at present
        exact List.subset_cons_of_subset _ (inductionHypothesis present)

theorem cleanList_replaceFrom (skipped : Nat) (replaced : CleanList new)
    (clean : CleanList characters) : CleanList (replaceFrom old new skipped characters) := by
  fun_induction replaceFrom old new skipped characters with
  | case1 => exact cleanList_nil
  | case2 skipped _ rest inductionHypothesis =>
      exact inductionHypothesis (clean.subset (List.subset_cons_self _ _))
  | case3 character rest _ inductionHypothesis =>
      exact cleanList_append.2
        ⟨replaced, inductionHypothesis (clean.subset (List.subset_cons_self _ _))⟩
  | case4 character rest _ inductionHypothesis =>
      have first := cleanList_singleton.2 (clean character List.mem_cons_self)
      have remaining := inductionHypothesis (clean.subset (List.subset_cons_self _ _))
      exact cleanList_append.2 ⟨first, remaining⟩

/-- A clean text in which something is replaced stays clean exactly if what is put into it is
clean, or nothing is put into it. -/
theorem clean_replace_iff {text old new : String} (clean : Clean text) :
    Clean (replace text old new) ↔ (contains text old = true → Clean new) := by
  unfold replace
  split
  · rename_i empty
    have present : contains text old = true := by
      unfold contains
      rw [List.isEmpty_iff.1 empty]
      cases text.toList <;> rfl
    rw [clean_ofList, cleanList_append]
    constructor
    · exact fun both _ => both.1
    · intro replaced
      have replaced := replaced present
      exact ⟨replaced, cleanList_flatMap clean fun character kept =>
        cleanList_append.2 ⟨cleanList_singleton.2 kept, replaced⟩⟩
  · rename_i nonempty
    rw [List.isEmpty_iff] at nonempty
    rw [clean_ofList]
    constructor
    · exact fun replaced present => replaced.subset (subset_replaceFrom nonempty present)
    · intro replaced
      by_cases present : occursIn old.toList text.toList = true
      · exact cleanList_replaceFrom 0 (replaced present) clean
      · rw [replaceFrom_of_absent (Bool.not_eq_true _ ▸ present)]
        exact clean

end Text

/-! ## Values whose safe strings are clean -/

namespace Value

/-- What says of strings that they are clean if they are marked safe, and nothing of other
values that cannot be called. -/
structure AboutMarks (holds : Value → Prop) : Prop extends Basic holds where
  string : ∀ {content safe}, holds (.string content safe) ↔ (safe = true → Text.Clean content)
  error : ∀ message, holds (.error message)

/-- Whether a string is clean if it is marked safe. -/
def CleanIfSafe : Value → Prop
  | .string content safe => safe = true → Text.Clean content
  | _ => True

theorem aboutMarks_cleanIfSafe : AboutMarks CleanIfSafe where
  nil := True.intro
  bool _ := True.intro
  number _ := True.intro
  plain _ marked := by cases marked
  string := Iff.rfl
  error _ := True.intro

end Value

/-! ## Filters -/

namespace Filter

open Value

/-- The text between the items of a joined list. -/
def separator (arguments : Arguments) : String :=
  ((arguments.get? 0 "d").map Value.display).getD ""

/-- Whether what a filter puts into a safe string without escaping it is clean, beside the safe
strings that it is given: what replaces a text in a safe string, and what stands between or
beside strings that are escaped and joined. -/
def MixesClean (autoescape : Bool) (value : Value) (arguments : Arguments) : Filter → Prop
  | .replace => ∀ content old new, value = .string content true →
      arguments.get? 0 "old" = some old → arguments.get? 1 "new" = some new →
        Text.contains content old.display = true → Text.Clean new.display
  | .join => ∀ items, value = .list items →
      (autoescape && items.any isUnsafeString) = true →
        (∀ item ∈ items, item.isString = false → Text.Clean item.display) ∧
          (1 < items.length → Text.Clean (separator arguments))
  | _ => True

variable {holds : Value → Prop} {value : Value} {arguments : Arguments}

theorem every_onText (marks : AboutMarks holds) {name : String} {change : String → String}
    (changed : ∀ {text}, Text.Clean text → Text.Clean (change text))
    (every : Every holds value) : Every holds (onText name change value) := by
  cases value with
  | string content safe =>
      exact marks.string.2 fun marked => changed (marks.string.1 every marked)
  | nil => exact marks.plain _
  | number value => exact marks.plain _
  | bool value => exact marks.plain _
  | error message => exact marks.error _
  | list items => exact marks.error _
  | map entries => exact marks.error _
  | closure callee => exact marks.error _
  | function callee => exact marks.error _

theorem every_lengthOf (marks : AboutMarks holds) (value : Value) :
    Every holds (lengthOf value) := by
  unfold lengthOf
  split
  · rename_i count _
    exact marks.number (Number.ofNat count)
  · split
    · exact marks.number (Number.ofNat 0)
    · exact marks.error _

theorem every_escapeText (marks : AboutMarks holds) (every : Every holds value) :
    Every holds (escapeText value) := by
  unfold escapeText
  split
  · exact marks.error _
  · exact every
  · exact marks.string.2 fun _ => Text.clean_escapeMarkup _

/-- Unsafe strings and other scalars make plain strings, into which anything may be put. -/
theorem every_replaceText_iff (marks : AboutMarks holds) (every : Every holds value)
    (autoescape : Bool) :
    Every holds (replaceText value arguments) ↔
      MixesClean autoescape value arguments .replace := by
  unfold replaceText MixesClean
  split
  · rename_i old new givenOld givenNew
    cases value with
    | string content safe =>
        cases safe with
        | false => exact iff_of_true (marks.plain _) nofun
        | true =>
            have clean : Text.Clean content := marks.string.1 every rfl
            refine marks.string.trans ?_
            rw [forall_prop_of_true rfl, Text.clean_replace_iff clean]
            constructor
            · rintro replaced _ _ _ ⟨⟩ same otherSame
              rw [givenOld, Option.some.injEq] at same
              rw [givenNew, Option.some.injEq] at otherSame
              subst same
              subst otherSame
              exact replaced
            · exact fun mixes => mixes content old new rfl givenOld givenNew
    | nil => exact iff_of_true (marks.plain _) nofun
    | number value => exact iff_of_true (marks.plain _) nofun
    | bool value => exact iff_of_true (marks.plain _) nofun
    | _ => exact iff_of_true (marks.error _) nofun
  · rename_i missing
    exact iff_of_true (marks.error _) fun _ old new _ givenOld givenNew =>
      (missing old new givenOld givenNew).elim

/-- Strings are escaped or clean; everything else is joined in its displayed form. -/
theorem clean_joinedItem_iff (marks : AboutMarks holds) {item : Value} (every : Every holds item) :
    Text.Clean (joinedItem true item) ↔ (item.isString = false → Text.Clean item.display) := by
  cases item with
  | string content safe =>
      refine iff_of_true ?_ nofun
      cases safe with
      | false => exact Text.clean_escapeMarkup _
      | true => exact marks.string.1 every rfl
  | _ => exact ⟨fun clean _ => clean, fun clean => clean rfl⟩

theorem every_joinItems_iff (marks : AboutMarks holds) (every : Every holds value)
    (autoescape : Bool) :
    Every holds (joinItems autoescape value arguments) ↔
      MixesClean autoescape value arguments .join := by
  cases value with
  | list items =>
      have every := every_list.1 every
      have parts : autoescape = true →
          ((∀ part ∈ items.map (joinedItem autoescape), Text.Clean part) ↔
            ∀ item ∈ items, item.isString = false → Text.Clean item.display) := by
        rintro rfl
        rw [List.forall_mem_map]
        exact forall₂_congr fun item member => clean_joinedItem_iff marks (every item member)
      refine marks.string.trans ?_
      simp only [MixesClean, Value.list.injEq, forall_eq']
      refine imp_congr_right fun escapes => ?_
      rw [Text.clean_intercalate_iff, parts (Bool.and_eq_true_iff.1 escapes).1, List.length_map]
      rfl
  | _ => exact iff_of_true (marks.error _) nofun

/-- What a filter other than `safe` gives is clean where it is marked safe, exactly if that is
so of what it mixes in. -/
theorem every_apply_iff (marks : AboutMarks holds) (autoescape : Bool) {filter : Filter}
    (vouches : filter ≠ .safe) (every : Every holds value)
    (positional : ∀ argument ∈ arguments.positional, Every holds argument)
    (keyword : ∀ argument ∈ arguments.keyword, Every holds argument.2) :
    Every holds (filter.apply autoescape value arguments) ↔
      filter.MixesClean autoescape value arguments := by
  cases filter with
  | upper => exact iff_of_true (every_onText marks Text.Clean.upper every) True.intro
  | lower => exact iff_of_true (every_onText marks Text.Clean.lower every) True.intro
  | capitalize => exact iff_of_true (every_onText marks Text.Clean.capitalize every) True.intro
  | title => exact iff_of_true (every_onText marks Text.Clean.title every) True.intro
  | trim => exact iff_of_true (every_onText marks Text.Clean.trim every) True.intro
  | length => exact iff_of_true (every_lengthOf marks value) True.intro
  | first => exact iff_of_true (every_item_getD marks.toBasic every) True.intro
  | last => exact iff_of_true (every_item_getD marks.toBasic every) True.intro
  | default =>
      exact iff_of_true (every_defaultOf marks.toBasic every positional keyword) True.intro
  | escape => exact iff_of_true (every_escapeText marks every) True.intro
  | replace => exact every_replaceText_iff marks every autoescape
  | join => exact every_joinItems_iff marks every autoescape
  | safe => exact absurd rfl vouches

/-- With autoescaping, a filter other than `safe` that is given clean safe strings only, nested
to any depth, gives clean safe strings exactly if what it mixes into them is clean. -/
theorem safe_strings_clean_iff {filter : Filter} (other : filter ≠ .safe)
    (given : Every CleanIfSafe value)
    (positional : ∀ argument ∈ arguments.positional, Every CleanIfSafe argument)
    (keyword : ∀ argument ∈ arguments.keyword, Every CleanIfSafe argument.2) :
    Every CleanIfSafe (filter.apply true value arguments) ↔
      filter.MixesClean true value arguments :=
  every_apply_iff aboutMarks_cleanIfSafe true other given positional keyword

/-- A delimiter that replaces a letter of an escaped text, or separates the letters of a list,
is in the safe string that results. -/
theorem safe_strings_clean_iff_delimiter :
    Filter.replace.apply true (.safe "ab") ⟨[.plain "a", .plain "<"], []⟩ = .safe "<b" ∧
      ¬ Every CleanIfSafe
        (Filter.replace.apply true (.safe "ab") ⟨[.plain "a", .plain "<"], []⟩) ∧
      Filter.join.apply true (.list [.plain "a", .plain "b"]) ⟨[.plain "<"], []⟩ =
        .safe "a<b" ∧
      ¬ Every CleanIfSafe
        (Filter.join.apply true (.list [.plain "a", .plain "b"]) ⟨[.plain "<"], []⟩) := by
  have plain : ∀ text, Every CleanIfSafe (.plain text) := aboutMarks_cleanIfSafe.plain
  refine ⟨by rfl, fun every => ?_, by rfl, fun every => ?_⟩
  · have escaped : Every CleanIfSafe (.safe "ab") := fun _ => by decide
    have mixes := (safe_strings_clean_iff (by decide) escaped
      (List.forall_mem_cons.2 ⟨plain "a", List.forall_mem_singleton.2 (plain "<")⟩)
      (List.forall_mem_nil _)).1 every
    exact absurd (mixes "ab" (.plain "a") (.plain "<") rfl rfl rfl (by decide)) (by decide)
  · have letters : Every CleanIfSafe (.list [.plain "a", .plain "b"]) :=
      every_list.2 (List.forall_mem_cons.2 ⟨plain "a", List.forall_mem_singleton.2 (plain "b")⟩)
    have mixes := (safe_strings_clean_iff (by decide) letters
      (List.forall_mem_singleton.2 (plain "<")) (List.forall_mem_nil _)).1 every
    exact absurd ((mixes [.plain "a", .plain "b"] rfl (by decide)).2 (by decide)) (by decide)

end Filter

end TemplateEngine
