import TemplateEngine.Natives
import TemplateEngine.Proofs.Resemblance

/-!
# Filters, tests and native functions that look into no callable

What filters and tests make of values that resemble each other resembles each other, and it does
not depend on the callables in them.  Native functions are taken as they come; those that look
into no callable that they are given keep resemblance too.
-/

namespace TemplateEngine

open EvalError

namespace Filter

open Value

variable {calls : Value → Value → Prop} {first second : Value}
variable {arguments others : Arguments}

theorem get?_resembles (given : ArgumentsRelated (Resembles calls) arguments others) (place : Nat)
    (name : String) :
    Option.Rel (Resembles calls) (arguments.get? place name) (others.get? place name) := by
  have positional := getElem?_related given.positional place
  have keyword := given.keyword.lookup name
  unfold Arguments.get? Arguments.at? Arguments.named?
  generalize arguments.positional[place]? = found at positional
  generalize others.positional[place]? = otherFound at positional
  cases positional with
  | some positional => exact .some positional
  | none => exact keyword

/-- What is read in the same way off values that resemble each other. -/
theorem map_eq {β : Type} {found other : Option Value} {read : Value → β}
    (resembles : Option.Rel (Resembles calls) found other)
    (same : ∀ {value alike : Value}, Resembles calls value alike → read value = read alike) :
    found.map read = other.map read := by
  cases resembles with
  | none => rfl
  | some resembles => exact congrArg some (same resembles)

theorem resembles_onText (name : String) (change : String → String)
    (resembles : Resembles calls first second) :
    Resembles calls (onText name change first) (onText name change second) := by
  cases resembles <;> first | exact .string _ _ | exact .error _

theorem resembles_replaceText (resembles : Resembles calls first second)
    (given : ArgumentsRelated (Resembles calls) arguments others) :
    Resembles calls (replaceText first arguments) (replaceText second others) := by
  have old := get?_resembles given 0 "old"
  have new := get?_resembles given 1 "new"
  unfold replaceText
  generalize arguments.get? 0 "old" = found at old
  generalize others.get? 0 "old" = otherFound at old
  generalize arguments.get? 1 "new" = by' at new
  generalize others.get? 1 "new" = otherBy at new
  cases old with
  | none => exact .error _
  | some old =>
      cases new with
      | none => exact .error _
      | some new =>
          simp only [old.display_eq, new.display_eq]
          exact resembles_onText _ _ resembles

theorem resembles_lengthOf (resembles : Resembles calls first second) :
    Resembles calls (lengthOf first) (lengthOf second) := by
  unfold lengthOf
  rw [resembles.length?_eq, resembles.isNil_eq]
  split
  · exact .number _
  · split
    · exact .number _
    · have same : (EvalError.noLength first).message = (EvalError.noLength second).message :=
        congrArg (fun described : String => s!"Object of type {described} has no length")
          resembles.describe_eq
      rw [EvalError.toValue, EvalError.toValue, same]
      exact .error _

theorem resembles_joinItems (autoescape : Bool) (resembles : Resembles calls first second)
    (given : ArgumentsRelated (Resembles calls) arguments others) :
    Resembles calls (joinItems autoescape first arguments)
      (joinItems autoescape second others) := by
  cases resembles with
  | @list items otherItems alike =>
      have alike := itemsResemble_iff.1 alike
      have separators := map_eq (get?_resembles given 0 "d") Resembles.display_eq
      have joined : items.map (joinedItem autoescape) =
          otherItems.map (joinedItem autoescape) := by
        refine List.forall₂_eq_eq_eq ▸ List.forall₂_map_left_iff.2
          (List.forall₂_map_right_iff.2 (alike.imp fun item other same => ?_))
        simp only [joinedItem, same.isUnsafeString_eq, same.escaped_eq, same.display_eq]
      have marked : items.any isUnsafeString = otherItems.any isUnsafeString :=
        Resembles.any_eq alike Resembles.isUnsafeString_eq
      simp only [joinItems, separators, joined, marked]
      exact .string _ _
  | _ =>
      simp only [joinItems]
      exact .error _

theorem resembles_getD {found other : Option Value} {absent : Value}
    (resembles : Option.Rel (Resembles calls) found other) (same : Resembles calls absent absent) :
    Resembles calls (found.getD absent) (other.getD absent) := by
  cases resembles with
  | none => exact same
  | some resembles => exact resembles

theorem resembles_defaultOf (resembles : Resembles calls first second)
    (given : ArgumentsRelated (Resembles calls) arguments others) :
    Resembles calls (defaultOf first arguments) (defaultOf second others) := by
  have fallback := resembles_getD (get?_resembles given 0 "default_value") (.string "" false)
  have demanded : (arguments.get? 1 "boolean").any isTrue =
      (others.get? 1 "boolean").any isTrue := by
    have boolean := get?_resembles given 1 "boolean"
    generalize arguments.get? 1 "boolean" = found at boolean
    generalize others.get? 1 "boolean" = other at boolean
    cases boolean with
    | none => rfl
    | some same => exact same.isTrue_eq
  simp only [defaultOf, resembles.isNil_eq, resembles.isTrue_eq, demanded]
  split
  · exact fallback
  · exact resembles

theorem resembles_markSafe (resembles : Resembles calls first second) :
    Resembles calls (markSafe first) (markSafe second) := by
  have shown := resembles.display_eq
  cases resembles with
  | error message => exact .error _
  | string content _ => exact .string _ _
  | _ =>
      simp only [markSafe, shown]
      exact .string _ _

theorem resembles_escapeText (resembles : Resembles calls first second) :
    Resembles calls (escapeText first) (escapeText second) := by
  have escaped := resembles.escaped_eq
  cases resembles with
  | error message => exact .error _
  | string content mark => cases mark <;> exact .string _ _
  | _ =>
      simp only [escapeText, escaped]
      exact .string _ _

/-- A filter makes values that resemble each other of such values and arguments. -/
theorem resembles_apply (filter : Filter) (autoescape : Bool)
    (resembles : Resembles calls first second)
    (given : ArgumentsRelated (Resembles calls) arguments others) :
    Resembles calls (filter.apply autoescape first arguments)
      (filter.apply autoescape second others) := by
  cases filter with
  | upper => exact resembles_onText _ _ resembles
  | lower => exact resembles_onText _ _ resembles
  | capitalize => exact resembles_onText _ _ resembles
  | title => exact resembles_onText _ _ resembles
  | trim => exact resembles_onText _ _ resembles
  | replace => exact resembles_replaceText resembles given
  | length => exact resembles_lengthOf resembles
  | first => exact resembles_getD (resembles.item (.number _)) .nil
  | last => exact resembles_getD (resembles.item (.number _)) .nil
  | join => exact resembles_joinItems autoescape resembles given
  | default => exact resembles_defaultOf resembles given
  | safe => exact resembles_markSafe resembles
  | escape => exact resembles_escapeText resembles

end Filter

namespace Predicate

open Value Value.Resembles

variable {calls : Value → Value → Prop} {first second : Value}
variable {arguments others : Arguments}

theorem integerFor_resembles (test : String) (resembles : Resembles calls first second) :
    Alike WordedAlike Eq (first.integerFor test) (second.integerFor test) := by
  have clash : WordedAlike (.notWhole test first) (.notWhole test second) :=
    congrArg (fun described : String => s!"Test '{test}' expects an integer, got {described}")
      resembles.describe_eq
  cases resembles with
  | number value => exact Alike.refl wordedAlike_refl (fun _ => rfl) _
  | _ => exact clash

theorem isDivisible_resembles (resembles : Resembles calls first second)
    (given : ArgumentsRelated (Resembles calls) arguments others) :
    Alike WordedAlike Eq (first.isDivisible arguments) (second.isDivisible others) := by
  have dividends := integerFor_resembles "divisibleby" resembles
  have divisors := Filter.get?_resembles given 0 "num"
  unfold isDivisible
  generalize first.integerFor "divisibleby" = dividend at dividends
  generalize second.integerFor "divisibleby" = otherDividend at dividends
  generalize arguments.get? 0 "num" = divisor at divisors
  generalize others.get? 0 "num" = otherDivisor at divisors
  cases dividend <;> cases otherDividend <;> try cases dividends
  · exact dividends
  · cases divisors with
    | none => rfl
    | @some divisor otherDivisor divisors =>
        have divisors := integerFor_resembles "divisibleby" divisors
        simp only [bind, Except.bind]
        generalize divisor.integerFor "divisibleby" = found at divisors
        generalize otherDivisor.integerFor "divisibleby" = otherFound at divisors
        cases found <;> cases otherFound <;> try cases divisors
        · exact divisors
        · exact Alike.refl wordedAlike_refl (fun _ => rfl) _

/-- A test answers values and arguments that resemble each other in the same way. -/
theorem holds_resembles (predicate : Predicate) (resembles : Resembles calls first second)
    (given : ArgumentsRelated (Resembles calls) arguments others) :
    Alike WordedAlike Eq (predicate.holds first arguments) (predicate.holds second others) := by
  have mapped : ∀ {found other : Except EvalError Int} (read : Int → Bool),
      Alike WordedAlike Eq found other →
        Alike WordedAlike Eq (found.map read) (other.map read) := by
    intro found other read alike
    cases found <;> cases other <;> first
      | exact alike
      | exact congrArg read alike
  have defined : first.isDefined = second.isDefined := by
    rw [isDefined, isDefined, resembles.isNil_eq, resembles.isError_eq]
  cases predicate with
  | defined => exact defined
  | undefined => exact congrArg (!·) defined
  | none => exact resembles.isNil_eq
  | string => cases resembles <;> exact rfl
  | number => cases resembles <;> exact rfl
  | mapping => cases resembles <;> exact rfl
  | sequence => cases resembles <;> exact rfl
  | callable => cases resembles <;> exact rfl
  | odd => exact mapped _ (integerFor_resembles "odd" resembles)
  | even => exact mapped _ (integerFor_resembles "even" resembles)
  | divisibleBy => exact isDivisible_resembles resembles given

end Predicate

namespace Natives

open Value

variable {calls : Value → Value → Prop}

/-- Whether native functions give values that resemble each other for arguments that do, so
that they look into no callable that they are given. -/
def Respects (calls : Value → Value → Prop) (natives : Natives) : Prop :=
  ∀ name {arguments others : Arguments},
    ArgumentsRelated (Resembles calls) arguments others →
      Resembles calls (natives name arguments) (natives name others)

/-- Functions are the same for the same arguments. -/
theorem respects_eq (natives : Natives) : natives.Respects Eq := by
  intro name arguments others given
  have positional : arguments.positional = others.positional :=
    List.forall₂_eq_eq_eq ▸ given.positional.imp fun _ _ => Resembles.eq
  have keyword : arguments.keyword = others.keyword :=
    List.forall₂_eq_eq_eq ▸ given.keyword.imp fun _ _ same => Prod.ext same.1 same.2.eq
  obtain rfl : arguments = others := by
    cases arguments
    cases others
    exact congrArg₂ Arguments.mk positional keyword
  exact resembles_refl (fun _ => rfl) _

theorem standard_respects : standard.Respects calls := by
  intro name arguments others given
  have empty : ∀ {α : Type} {relates : α → α → Prop} {items others : List α},
      List.Forall₂ relates items others → items.isEmpty = others.isEmpty := by
    rintro α relates items others (_ | _) <;> rfl
  unfold standard
  split
  · exact Filter.resembles_getD (getElem?_related given.positional 0) .nil
  · exact Filter.resembles_getD (Filter.get?_resembles given 1 "key") .nil
  · exact .error _
  · have keyword : List.Forall₂ (Resembles calls)
        (arguments.keyword.map fun argument => .list [.plain argument.1, argument.2])
        (others.keyword.map fun argument => .list [.plain argument.1, argument.2]) := by
      refine List.forall₂_map_left_iff.2 (List.forall₂_map_right_iff.2 ?_)
      refine given.keyword.imp fun argument other same => ?_
      rw [same.1]
      exact .list (.cons (.string _ _) (.cons same.2 .nil))
    unfold Arguments.isEmpty
    rw [empty given.positional, empty given.keyword]
    exact .map (.cons _ (.list (itemsResemble_iff.2 given.positional))
      (.cons _ (.list (itemsResemble_iff.2 keyword)) (.cons _ (.bool _) .nil)))
  · exact .nil

end Natives

end TemplateEngine
