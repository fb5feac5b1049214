import TemplateEngine.Proofs.Likeness
import TemplateEngine.Proofs.Resemblance.Stores

/-!
# Stores that differ in the environments of values

Alike stores have the same frames, in which the same names have alike values.  All that is
done to stores keeps them alike, and opens the same scopes in both.
-/

namespace TemplateEngine

variable {relates : Environment → Environment → Prop}

/-- Frames of one tree with alike bindings. -/
structure Frame.Like (relates : Environment → Environment → Prop) (first second : Frame) :
    Prop where
  tree : first.tree = second.tree
  bindings : EntriesRelated (Value.Like relates) first.bindings second.bindings

/-- Stores with alike frames. -/
structure Store.Like (relates : Environment → Environment → Prop) (first second : Store) :
    Prop where
  trees : first.trees = second.trees
  frames : ∀ number : Nat,
    Option.Rel (Frame.Like relates) first.frames[number]? second.frames[number]?

namespace Store.Like

variable {first second : Store}

/-- Alike stores are stores with alike bindings. -/
theorem like_iff_related :
    first.Like relates second ↔ first.Related (EntriesRelated (Value.Like relates)) second := by
  have frames : Frame.Like relates = Frame.Related (EntriesRelated (Value.Like relates)) := by
    funext frame other
    exact propext ⟨fun ⟨tree, bindings⟩ => ⟨tree, bindings⟩,
      fun ⟨tree, bindings⟩ => ⟨tree, bindings⟩⟩
  constructor
  · rintro ⟨trees, related⟩
    exact ⟨trees, frames ▸ related⟩
  · rintro ⟨trees, related⟩
    exact ⟨trees, frames ▸ related⟩

theorem bindings (like : first.Like relates second) (frame : Nat) :
    EntriesRelated (Value.Like relates) (first.bindings frame) (second.bindings frame) :=
  (like_iff_related.1 like).bindings .nil frame

theorem lookup (like : first.Like relates second) (scope : Scope) (name : String) :
    Option.Rel (Value.Like relates) (first.lookup scope name) (second.lookup scope name) :=
  Related.lookup scope fun frame => (like.bindings frame).lookup name

theorem childScope (like : first.Like relates second) (scope : Scope) :
    (first.childScope scope).1 = (second.childScope scope).1 ∧
      (first.childScope scope).2.Like relates (second.childScope scope).2 :=
  ((like_iff_related.1 like).childScope .nil scope).imp_right like_iff_related.2

theorem detachedScope (like : first.Like relates second) (scope : Scope) :
    (first.detachedScope scope).1 = (second.detachedScope scope).1 ∧
      (first.detachedScope scope).2.Like relates (second.detachedScope scope).2 :=
  ((like_iff_related.1 like).detachedScope .nil scope).imp_right like_iff_related.2

theorem newScope (like : first.Like relates second) :
    first.newScope.1 = second.newScope.1 ∧
      first.newScope.2.Like relates second.newScope.2 :=
  ((like_iff_related.1 like).newScope .nil).imp_right like_iff_related.2

theorem bind (like : first.Like relates second) (scope : Scope) (name : String)
    {value other : Value} (values : Value.Like relates value other) :
    (first.bind scope name value).Like relates (second.bind scope name other) :=
  like_iff_related.2
    ((like_iff_related.1 like).bind (fun entries => entries.store name values) scope)

theorem bindAll (like : first.Like relates second) (scope : Scope)
    {entries others : List (String × Value)}
    (alike : EntriesRelated (Value.Like relates) entries others) :
    (first.bindAll scope entries).Like relates (second.bindAll scope others) :=
  like_iff_related.2
    ((like_iff_related.1 like).bindAll (fun values entries => entries.store _ values) scope alike)

theorem release (like : first.Like relates second) (root : Scope) :
    (first.release root).Like relates (second.release root) :=
  like_iff_related.2 ((like_iff_related.1 like).release .nil root)

/-- Every store is like itself if environments are related to themselves. -/
theorem refl {store : Store} (reflexive : ∀ environment, relates environment environment) :
    store.Like relates store :=
  like_iff_related.2 (.refl fun _ =>
    List.forall₂_same.2 fun entry _ => ⟨rfl, .refl reflexive entry.2⟩)

end Store.Like

end TemplateEngine
