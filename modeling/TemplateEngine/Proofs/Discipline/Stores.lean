import TemplateEngine.Proofs.Discipline.Uses

/-!
# Disciplines of stores

A discipline of stores speaks only of the frames of the store and of the scopes in which
names are bound, and of nothing that is stored or written.
-/

namespace TemplateEngine

/-- What holds of the store along a run, and is kept by opening scopes and binding
names. -/
structure StoreDiscipline where
  World : Type
  Later : World → World → Prop
  vocabulary : Vocabulary
  store : World → Store → Prop
  scope : World → Scope → Prop
  later_refl : ∀ world, Later world world
  later_trans : ∀ {first second third},
    Later first second → Later second third → Later first third
  scope_later : ∀ {world later kept}, Later world later → scope world kept → scope later kept
  openChild : ∀ {world kept frames}, scope world kept → store world frames →
    ∃ later, Later world later ∧ store later (frames.childScope kept).2 ∧
      scope later (frames.childScope kept).1
  bind : ∀ {world kept frames name} bound, scope world kept → vocabulary.target name →
    store world frames → store world (frames.bind kept name bound)
  bindModule : ∀ {world kept frames} (inContext : Bool) entries, scope world kept →
    store world frames →
      let opened := if inContext then frames.childScope kept else frames.detachedScope kept
      store world (opened.2.bindAll opened.1 entries)

namespace StoreDiscipline

/-- The discipline in which everything but the store is free. -/
def toDiscipline (kept : StoreDiscipline) : Discipline where
  World := kept.World
  Later := kept.Later
  vocabulary := kept.vocabulary
  store := kept.store
  scope := kept.scope
  sink _ _ := True
  value _ _ := True
  setting _ _ := True
  context _ _ := True
  imported _ _ := True
  later_refl := kept.later_refl
  later_trans := kept.later_trans
  scope_later := kept.scope_later
  sink_later _ _ := True.intro
  value_later _ _ := True.intro
  setting_later _ _ := True.intro
  context_later _ _ := True.intro
  sink_unlimited _ := True.intro
  literal _ _ := True.intro
  list _ := True.intro
  map _ := True.intro
  member _ _ := True.intro
  item _ _ := True.intro
  operation _ _ _ _ := True.intro
  items _ _ _ _ _ _ := True.intro
  bindings _ _ _ _ _ := True.intro
  within _ _ := True.intro
  context_setting _ := True.intro
  lenient _ := True.intro
  filter _ _ _ _ _ _ := True.intro
  closure _ _ _ := True.intro
  rendered _ _ := True.intro
  refer _ _ _ := True.intro
  write _ _ _ := True.intro
  writeBox _ _ _ := True.intro
  openChild := kept.openChild
  bind scope known _ store := kept.bind _ scope known store
  bindModule := by
    intro world scope environment frames inContext keptScope _ keptStore
    exact ⟨world, kept.later_refl world, kept.bindModule inContext _ keptScope keptStore,
      fun _ _ => True.intro⟩

/-- What is used by its name keeps a discipline of stores if scopes may be opened
anywhere, and those with a tree of their own released again. -/
def uses (kept : StoreDiscipline) (natives : Natives)
    (free : kept.vocabulary = .unrestricted)
    (openChild : ∀ {world frames} outer, kept.store world frames →
      ∃ later, kept.Later world later ∧ kept.store later (frames.childScope outer).2 ∧
        kept.scope later (frames.childScope outer).1)
    (root : kept.World → Scope → Prop)
    (root_scope : ∀ {world scope}, root world scope → kept.scope world scope)
    (root_later : ∀ {world later scope}, kept.Later world later → root world scope →
      root later scope)
    (newScope : ∀ {world frames}, kept.store world frames →
      ∃ later, kept.Later world later ∧ kept.store later frames.newScope.2 ∧
        root later frames.newScope.1)
    (release : ∀ {world scope frames}, root world scope → kept.store world frames →
      kept.store world (frames.release scope)) :
    kept.toDiscipline.Uses natives where
  outer _ _ := True
  lookup _ _ _ _ _ := True.intro
  native _ _ _ _ := True.intro
  closure_setting _ := True.intro
  closure_outer _ := True.intro
  closure_within _ :=
    show Definition.Within kept.vocabulary _ from free ▸ Definition.within_unrestricted _
  super_setting _ := True.intro
  super_outer _ := True.intro
  super_within _ _ _ :=
    show Node.AllWithin kept.vocabulary _ from free ▸ Node.allWithin_unrestricted _
  super _ _ _ := True.intro
  bindable := show kept.vocabulary.target "super" from free ▸ True.intro
  outer_scope _ := True.intro
  outer_later _ _ := True.intro
  blocks _ _ _ :=
    show Node.AllWithin kept.vocabulary _ from free ▸ Node.allWithin_unrestricted _
  included_setting _ := True.intro
  included_within _ :=
    show Lineage.Within kept.vocabulary _ from free ▸ Lineage.within_unrestricted _
  openChild _ := openChild _
  root := root
  root_scope := root_scope
  root_later := root_later
  newScope := newScope
  release := release

end StoreDiscipline

end TemplateEngine
