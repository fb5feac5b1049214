import Mathlib
import TemplateEngine.Proofs.ScopeTree
import TemplateEngine.Value.Operators

/-!
# Equality as an equivalence

Two maps are compared from one side only: their sizes, and then the value under each key of the
first in the second.  Where each key has one entry, equal sizes leave no key of the second
unmatched, so the comparison is symmetric after all, at every depth of nested values.  The
marks of strings and the order of entries play no part.

What equals nothing is left out: macros, functions and the number that is not one.
-/

namespace TemplateEngine

namespace Number

open Float.Model

/-- Two numbers are equal when both are zero, whatever their signs, or when they are the same. -/
theorem beq_unpacked_iff (left right : UnpackedFloat) :
    left.beq right = true ↔
      ((∃ sign, left = .zero sign) ∧ ∃ sign, right = .zero sign) ∨
        (left = right ∧ left ≠ .notANumber) := by
  unfold UnpackedFloat.beq
  cases left with
  | notANumber => cases right <;> simp [UnpackedFloat.compare]
  | zero sign =>
      cases right with
      | finite other => cases other <;> simp [UnpackedFloat.compare]
      | infinity other => cases other <;> simp [UnpackedFloat.compare]
      | _ => simp [UnpackedFloat.compare]
  | infinity sign =>
      cases right with
      | infinity other => cases sign <;> cases other <;> simp [UnpackedFloat.compare] <;> rfl
      | _ => cases sign <;> simp [UnpackedFloat.compare]
  | finite sign mantissa exponent positive =>
      cases right with
      | zero other => cases sign <;> simp [UnpackedFloat.compare]
      | infinity other => cases other <;> simp [UnpackedFloat.compare]
      | finite other =>
          cases sign <;> cases other <;>
            simp [UnpackedFloat.compare, Ordering.then_eq_eq, Ordering.swap_eq_eq, and_comm]
      | notANumber => simp [UnpackedFloat.compare]

theorem beq_iff (left right : Float) :
    (left == right) = true ↔ left.toModel.unpack.beq right.toModel.unpack = true := Iff.rfl

theorem unpack_eq_of_isNaN {number : Float} (notANumber : number.toModel.unpack = .notANumber) :
    number.isNaN = true := by
  simp only [Float.isNaN, Float.Model.isNaN, notANumber]
  rfl

theorem beq_self {number : Float} (proper : number.isNaN = false) : (number == number) = true := by
  refine (beq_iff _ _).2 ((beq_unpacked_iff _ _).2 (.inr ⟨rfl, fun notANumber => ?_⟩))
  exact Bool.false_ne_true (proper.symm.trans (unpack_eq_of_isNaN notANumber))

theorem beq_symm {left right : Float} (equal : (left == right) = true) :
    (right == left) = true := by
  rw [beq_iff, beq_unpacked_iff] at equal ⊢
  rcases equal with ⟨zero, other⟩ | ⟨same, proper⟩
  · exact .inl ⟨other, zero⟩
  · exact .inr ⟨same.symm, same ▸ proper⟩

theorem beq_trans {left middle right : Float} (first : (left == middle) = true)
    (second : (middle == right) = true) : (left == right) = true := by
  rw [beq_iff, beq_unpacked_iff] at first second ⊢
  rcases first with ⟨zero, middleSign, middleZero⟩ | ⟨same, proper⟩
  · rcases second with ⟨_, other⟩ | ⟨same, _⟩
    · exact .inl ⟨zero, other⟩
    · exact .inl ⟨zero, middleSign, same ▸ middleZero⟩
  · rw [same]
    exact second

end Number

namespace Value

/-- What equality compares: no macro, no function and only proper numbers, at any depth, and each
key of a map once. -/
inductive Comparable : Value → Prop where
  | nil : Comparable .nil
  | bool (value : Bool) : Comparable (.bool value)
  | number (value : Float) (proper : value.isNaN = false) : Comparable (.number value)
  | string (content : String) (safe : Bool) : Comparable (.string content safe)
  | list (items : List Value) (each : ∀ item ∈ items, Comparable item) : Comparable (.list items)
  | map (entries : List (String × Value)) (distinct : (Table.names entries).Nodup)
      (each : ∀ entry ∈ entries, Comparable entry.2) : Comparable (.map entries)
  | error (message : String) : Comparable (.error message)

/-- Whether each item of a list equals the one at its place in another. -/
def EqualItems : List Value → List Value → Prop :=
  List.Forall₂ fun item other => item.equals other = true

/-! ## Lists and maps -/

theorem equalItems_iff {items others : List Value} :
    equalItems items others = true ↔ EqualItems items others := by
  unfold EqualItems
  induction items generalizing others with
  | nil => cases others <;> simp [equalItems]
  | cons item rest inductionHypothesis =>
      cases others <;> simp [equalItems, inductionHypothesis]

theorem equals_list_iff {items : List Value} {value : Value} :
    (Value.list items).equals value = true ↔
      ∃ others, value = .list others ∧ EqualItems items others := by
  cases value <;> simp [equals, equalItems_iff]

theorem equalEntries_iff {entries others : List (String × Value)} :
    equalEntries entries others = true ↔
      ∀ entry ∈ entries, ∃ value,
        others.lookup entry.1 = some value ∧ entry.2.equals value = true := by
  induction entries with
  | nil => simp [equalEntries]
  | cons entry rest inductionHypothesis =>
      simp only [equalEntries, Bool.and_eq_true, inductionHypothesis, List.forall_mem_cons]
      cases others.lookup entry.1 <;> simp

theorem equals_map_iff {entries : List (String × Value)} {value : Value} :
    (Value.map entries).equals value = true ↔
      ∃ others, value = .map others ∧ entries.length = others.length ∧
        ∀ entry ∈ entries, ∃ value,
          others.lookup entry.1 = some value ∧ entry.2.equals value = true := by
  cases value <;> simp [equals, equalEntries_iff]

/-- In a map of the same size as another that has all its keys, nothing is under a further key. -/
theorem names_perm {entries others : Table Value} (distinct : entries.names.Nodup)
    (sizes : entries.length = others.length) (found : ∀ name ∈ entries.names, name ∈ others.names) :
    entries.names.Perm others.names := by
  refine (List.subperm_of_subset distinct found).perm_of_length_le ?_
  exact Nat.le_of_eq (by simp only [Table.names, List.length_map, sizes])

/-! ## The laws -/

theorem Comparable.equals_self {value : Value} (comparable : value.Comparable) :
    value.equals value = true := by
  induction comparable with
  | number _ proper => exact Number.beq_self proper
  | list items _ inductionHypothesis =>
      exact equals_list_iff.2 ⟨items, rfl, List.forall₂_same.2 inductionHypothesis⟩
  | map entries distinct _ inductionHypothesis =>
      refine equals_map_iff.2 ⟨entries, rfl, rfl, fun entry member => ?_⟩
      refine ⟨entry.2, (Table.lookup_eq_some_iff distinct).2 member, ?_⟩
      exact inductionHypothesis entry member
  | _ => simp [equals]

theorem Comparable.equals_symm {left right : Value} (comparable : left.Comparable)
    (others : right.Comparable) (equal : left.equals right = true) :
    right.equals left = true := by
  induction comparable generalizing right with
  | list items _ inductionHypothesis =>
      obtain ⟨items', rfl, pairs⟩ := equals_list_iff.1 equal
      cases others with
      | list _ each =>
          refine equals_list_iff.2 ⟨items, rfl, ?_⟩
          refine List.Forall₂.flip (List.forall₂_iff_get.2 ⟨pairs.length_eq, ?_⟩)
          intro place before before'
          exact inductionHypothesis _ (List.get_mem _ _) (each _ (List.get_mem _ _))
            (pairs.get before before')
  | map entries distinct _ inductionHypothesis =>
      obtain ⟨entries', rfl, sizes, found⟩ := equals_map_iff.1 equal
      cases others with
      | map _ distinct' each =>
          have names := names_perm distinct sizes fun name member => by
            obtain ⟨entry, listed, rfl⟩ := List.mem_map.1 member
            obtain ⟨value, found, _⟩ := found entry listed
            exact Table.mem_names_iff.2 ⟨value, found⟩
          refine equals_map_iff.2 ⟨entries, rfl, sizes.symm, fun entry member => ?_⟩
          obtain ⟨value, held⟩ :=
            Table.mem_names_iff.1 (names.mem_iff.2 (List.mem_map_of_mem member))
          have held' := Table.mem_of_lookup held
          obtain ⟨value', found, equal⟩ := found _ held'
          -- Each key has one entry, so what was compared with the value is this entry's.
          have same : value' = entry.2 :=
            Option.some.inj (found.symm.trans ((Table.lookup_eq_some_iff distinct').2 member))
          subst same
          exact ⟨value, held, inductionHypothesis _ held' (each entry member) equal⟩
  | number =>
      cases others <;> simp only [equals, Bool.false_eq_true] at equal ⊢
      exact Number.beq_symm equal
  | _ => cases others <;> simp_all [equals]

theorem Comparable.equals_trans {left middle right : Value} (comparable : left.Comparable)
    (first : left.equals middle = true) (second : middle.equals right = true) :
    left.equals right = true := by
  induction comparable generalizing middle right with
  | list items _ inductionHypothesis =>
      obtain ⟨items', rfl, pairs⟩ := equals_list_iff.1 first
      obtain ⟨items'', rfl, pairs'⟩ := equals_list_iff.1 second
      refine equals_list_iff.2 ⟨items'', rfl, List.forall₂_iff_get.2 ?_⟩
      refine ⟨pairs.length_eq.trans pairs'.length_eq, fun place before before' => ?_⟩
      have between : place < items'.length := pairs.length_eq ▸ before
      exact inductionHypothesis _ (List.get_mem _ _) (pairs.get before between)
        (pairs'.get between before')
  | map entries _ _ inductionHypothesis =>
      obtain ⟨entries', rfl, sizes, found⟩ := equals_map_iff.1 first
      obtain ⟨entries'', rfl, sizes', found'⟩ := equals_map_iff.1 second
      refine equals_map_iff.2 ⟨entries'', rfl, sizes.trans sizes', fun entry member => ?_⟩
      obtain ⟨value, held, equal⟩ := found entry member
      obtain ⟨value', held', equal'⟩ := found' _ (Table.mem_of_lookup held)
      exact ⟨value', held', inductionHypothesis entry member equal equal'⟩
  | number =>
      cases middle <;> simp only [equals, Bool.false_eq_true] at first
      cases right <;> simp only [equals, Bool.false_eq_true] at second ⊢
      exact Number.beq_trans first second
  | _ =>
      cases middle <;> simp only [equals, Bool.false_eq_true] at first
      cases right <;> simp_all [equals]

/-! ## Membership -/

theorem occursIn_iff {value : Value} {items : List Value} :
    value.occursIn items = true ↔ ∃ item ∈ items, item.equals value = true := List.any_eq_true

theorem EqualItems.symm {items others : List Value} (comparable : (Value.list items).Comparable)
    (comparableOthers : (Value.list others).Comparable) (equal : EqualItems items others) :
    EqualItems others items := by
  have symmetric := comparable.equals_symm comparableOthers (equals_list_iff.2 ⟨others, rfl, equal⟩)
  obtain ⟨items', same, pairs⟩ := equals_list_iff.1 symmetric
  cases same
  exact pairs

theorem EqualItems.exists_mem {items others : List Value} {other : Value}
    (pairs : EqualItems items others) (member : other ∈ others) :
    ∃ item ∈ items, item.equals other = true := by
  induction pairs with
  | nil => cases member
  | cons equal _ inductionHypothesis =>
      rcases List.mem_cons.1 member with rfl | member
      · exact ⟨_, List.mem_cons_self, equal⟩
      · obtain ⟨item, listed, equal⟩ := inductionHypothesis member
        exact ⟨item, List.mem_cons_of_mem _ listed, equal⟩

/-- What equals an item of a list equals one of every list with equal items. -/
theorem EqualItems.occursIn {value other : Value} {items others : List Value}
    (pairs : EqualItems others items) (comparable : ∀ item ∈ others, item.Comparable)
    (equal : value.equals other = true) (occurs : value.occursIn items = true) :
    other.occursIn others = true := by
  obtain ⟨item, member, found⟩ := occursIn_iff.1 occurs
  obtain ⟨item', listed, same⟩ := pairs.exists_mem member
  have comparable := comparable item' listed
  exact occursIn_iff.2
    ⟨item', listed, comparable.equals_trans (comparable.equals_trans same found) equal⟩

/-- Equality is an equivalence relation on what it compares, and whether a value is in a list
depends on neither but up to equality. -/
theorem equality_equivalence :
    Equivalence (fun left right : { value : Value // value.Comparable } =>
        BinaryOperator.equal.apply left.1 right.1 = .ok (.bool true)) ∧
      ∀ {value other : Value} {items others : List Value},
        value.Comparable → other.Comparable →
          (Value.list items).Comparable → (Value.list others).Comparable →
            value.equals other = true → EqualItems items others →
              BinaryOperator.isIn.apply value (.list items) =
                  BinaryOperator.isIn.apply other (.list others) ∧
                BinaryOperator.notIn.apply value (.list items) =
                  BinaryOperator.notIn.apply other (.list others) := by
  have answers (left right : Value) :
      BinaryOperator.equal.apply left right = .ok (.bool true) ↔ left.equals right = true := by
    simp [BinaryOperator.apply]
  simp only [answers]
  refine ⟨⟨fun value => value.2.equals_self, fun {left right} => left.2.equals_symm right.2,
    fun {left _ _} => left.2.equals_trans⟩, ?_⟩
  intro value other items others comparable comparableOther comparableItems comparableOthers
    equal pairs
  have forth : value.occursIn items = true → other.occursIn others = true := by
    cases comparableOthers with
    | list _ each =>
        exact (pairs.symm comparableItems (.list _ each)).occursIn each equal
  have back : other.occursIn others = true → value.occursIn items = true := by
    cases comparableItems with
    | list _ each => exact pairs.occursIn each (comparable.equals_symm comparableOther equal)
  have same : value.occursIn items = other.occursIn others := Bool.eq_iff_iff.2 ⟨forth, back⟩
  simp only [BinaryOperator.apply, isIn, same, and_self]

/-- A map equals the one with its entries the other way round and another mark on its string, so
both are in the list of either. -/
theorem reordered_map_isIn :
    let first : Value := .map [("size", .number 2.5), ("name", .safe "box")]
    let second : Value := .map [("name", .plain "box"), ("size", .number 2.5)]
    BinaryOperator.equal.apply first second = .ok (.bool true) ∧
      BinaryOperator.isIn.apply first (.list [first, .nil]) =
        BinaryOperator.isIn.apply second (.list [second, .nil]) := by
  intro first second
  have proper : (2.5 : Float).isNaN = false := by decide +kernel
  have equal : first.equals second = true := by
    refine equals_map_iff.2 ⟨_, rfl, rfl, ?_⟩
    simp only [List.forall_mem_cons, List.not_mem_nil, false_implies, implies_true, and_true]
    exact ⟨⟨_, rfl, Number.beq_self proper⟩, _, rfl, by decide⟩
  have comparable : first.Comparable :=
    .map _ (by decide) (by
      simpa using ⟨.number _ proper, .string _ _⟩)
  have comparable' : second.Comparable :=
    .map _ (by decide) (by
      simpa using ⟨.string _ _, .number _ proper⟩)
  have listed : (Value.list [first, .nil]).Comparable :=
    .list _ (by simpa using ⟨comparable, .nil⟩)
  have listed' : (Value.list [second, .nil]).Comparable :=
    .list _ (by simpa using ⟨comparable', .nil⟩)
  refine ⟨by simp [BinaryOperator.apply, equal], ?_⟩
  exact (equality_equivalence.2 comparable comparable' listed listed' equal
    (.cons equal (.cons (by simp [equals]) .nil))).1

end Value

end TemplateEngine
