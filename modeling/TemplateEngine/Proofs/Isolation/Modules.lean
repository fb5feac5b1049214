import TemplateEngine.Proofs.Matching
import TemplateEngine.Proofs.Retention
import TemplateEngine.Proofs.ScopeTree
import TemplateEngine.Proofs.Truncation

/-!
# Modules of their own

Two renderings may open frames that match although their stores have nothing else in common.
The macros of a template that is imported without context are bound in such a frame.  Made
of the same template, two of these modules match, and calls of their macros have the same
result for as long as the stores retain the two frames.
-/

namespace TemplateEngine

/-! ## Renderings in frames of their own -/

namespace Matching

open Comparison

/-- The matching of renderings that differ in nothing but the frames of their scopes. -/
def isolated : Matching where
  absence := .matched
  forgives := False
  sink := Eq
  native _ := False
  vocabulary := { Vocabulary.unrestricted with name := (· ≠ "super") }
  setting _ _ := False
  sink_unlimited := rfl
  sink_text same := congrArg Sink.text same
  sink_takes same text := congrArg (fun sink => Sink.takes sink text) same
  sink_add same text := congrArg (fun sink => Sink.add sink text) same
  name known := known
  target _ := True.intro
  macros := True.intro
  setting_within _ _ never := never
  setting_config never := never.elim
  setting_registries never := never.elim
  refer _ _ never := never.elim

theorem isolated_interprets (natives : Natives) (bound : Nat) :
    isolated.Interprets (Interpreter.bounded natives bound)
      (Interpreter.bounded natives bound) := by
  induction bound with
  | zero =>
      intro kind depth
      exact Correspondence.interprets_exhausted Absence.noConfusion depth depth
  | succ bound inductionHypothesis =>
      intro kind depth
      exact (handles inductionHypothesis (fun never => never.elim) (fun never => never.elim)
        kind).interprets

theorem isolated_stores_empty (first second : Store) :
    isolated.Stores .empty first second where
  frames _ member := by cases member
  trees _ member := by cases member
  firstAside _ member := by cases member
  secondAside _ member := by cases member

end Matching

/-! ## Modules -/

namespace Environment

/-- The environment of a module of its own, made of a template beside a scope. -/
def moduleIn (included : Environment) (store : Store) (scope : Scope) : Environment :=
  included.within (store.detachedScope scope).1

end Environment

namespace Store

/-- The store with the macros of a template bound in a module of its own. -/
def withModule (store : Store) (scope : Scope) (included : Environment) : Store :=
  (store.detachedScope scope).2.bindAll (store.detachedScope scope).1
    (included.moduleIn store scope).closures

theorem size_withModule (store : Store) (scope : Scope) (included : Environment) :
    (store.withModule scope included).frames.size = store.frames.size + 1 := by
  simp [withModule, detachedScope, addFrame]

end Store

namespace Matching

variable {firstStore secondStore : Store} {firstScope secondScope : Scope}
variable {included other : Environment}

/-- Modules that are made of one template match for as long as their frames are retained,
whatever else the two stores hold. -/
theorem isolated_modules (firstOld : firstScope.tree < firstStore.trees)
    (secondOld : secondScope.tree < secondStore.trees) (agrees : included.Agrees other)
    (lineages : included.lineage = other.lineage) :
    ∃ pairing : Pairing,
      pairing.pairs = [⟨.plain, firstStore.frames.size, secondStore.frames.size⟩] ∧
      EntriesRelated (isolated.Values pairing) (included.moduleIn firstStore firstScope).closures
        (other.moduleIn secondStore secondScope).closures ∧
      ∀ firstLater secondLater,
        (firstStore.withModule firstScope included).Retains firstStore.frames.size firstLater →
        (secondStore.withModule secondScope other).Retains secondStore.frames.size secondLater →
          isolated.Stores pairing firstLater secondLater := by
  -- Nothing is paired but the trees of the two scopes, and then the frames of the modules.
  have older : ∀ tree ∈ Pairing.empty.trees,
      tree.1 < firstScope.tree ∧ tree.2 < secondScope.tree := nofun
  have around : isolated.Stores (Pairing.empty.addTree older) firstStore secondStore := by
    refine ⟨nofun, fun tree member => ?_, nofun, nofun⟩
    obtain rfl := List.mem_singleton.1 member
    exact ⟨firstOld, secondOld⟩
  have trees : (firstScope.tree, secondScope.tree) ∈ (Pairing.empty.addTree older).trees :=
    List.mem_cons_self
  let pairing := (Pairing.empty.addTree older).addPair .plain around.older
  have paired : ⟨.plain, firstStore.frames.size, secondStore.frames.size⟩ ∈ pairing.pairs :=
    List.mem_cons_self
  have scopes : pairing.Scopes .plain (firstStore.detachedScope firstScope).1
      (secondStore.detachedScope secondScope).1 :=
    ⟨⟨trees, .pair paired .nil⟩, paired⟩
  have settings : isolated.settings .plain included other := agrees
  have closures : EntriesRelated (isolated.Values pairing)
      (included.moduleIn firstStore firstScope).closures
      (other.moduleIn secondStore secondScope).closures :=
    values_closures (settings_within _ _ settings) lineages (Lineage.within_unrestricted _)
      scopes
  have bound : isolated.Stores pairing (firstStore.withModule firstScope included)
      (secondStore.withModule secondScope other) :=
    (around.addPair .plain trees).bindAll scopes closures
  refine ⟨pairing, rfl, closures, fun firstLater secondLater firstKept secondKept =>
    bound.retain ?_ nofun nofun firstKept.trees secondKept.trees⟩
  intro pair member
  obtain rfl := List.mem_singleton.1 member
  exact ⟨firstKept.frame, secondKept.frame⟩

end Matching

/-! ## Imports -/

/-- What an import binds: a module, or macros of it under names of their own. -/
inductive Importing where
  | module (target : String)
  | macros (selection : List (String × String))

namespace Importing

/-- The statement that imports from a file without context. -/
def statement : Importing → Expression → Statement Node
  | .module target, filename => .importModule filename target (some false)
  | .macros selection, filename => .importNames filename selection (some false)

/-- The value of a macro by its name in the module, or by the name that it is bound to. -/
def bound? (importing : Importing) (store : Store) (scope : Scope) (name : String) :
    Option Value :=
  match importing with
  | .module target => (store.lookup scope target).bind (·.member? name)
  | .macros selection =>
      if name ∈ selection.map Prod.fst then store.lookup scope name else none

/-- What is bound where the statement stands. -/
def entries (importing : Importing) (closures : Table Value) : Table Value :=
  match importing with
  | .module target => [(target, .map closures)]
  | .macros selection =>
      selection.filterMap fun (target, name) =>
        (closures.lookup name).map fun closure => (target, closure)

/-- Whether a template has all macros that are imported. -/
def Available (importing : Importing) (included : Environment) : Prop :=
  match importing with
  | .module _ => True
  | .macros selection => included.missingMacro? selection = none

theorem Available.within {importing : Importing} {included : Environment}
    (available : importing.Available included) (scope : Scope) :
    importing.Available (included.within scope) := by
  cases importing <;> exact available

end Importing

/-! ## What imports bind -/

namespace Store

variable {first second : Store} {firstScope secondScope : Scope} {relates : Value → Value → Prop}

/-- Two tables in which a name has related values. -/
def BindsRelated (relates : Value → Value → Prop) (table other : Table Value) (name : String) :
    Prop :=
  ∃ value otherValue, table.lookup name = some value ∧ other.lookup name = some otherValue ∧
    relates value otherValue

theorem bindings_bindAll_related {entries others : Table Value}
    (firstPresent : firstScope.frame < first.frames.size)
    (secondPresent : secondScope.frame < second.frames.size)
    (related : EntriesRelated relates entries others) {name : String}
    (bound : name ∈ entries.names ∨ BindsRelated relates (first.bindings firstScope.frame)
      (second.bindings secondScope.frame) name) :
    BindsRelated relates ((first.bindAll firstScope entries).bindings firstScope.frame)
      ((second.bindAll secondScope others).bindings secondScope.frame) name := by
  unfold EntriesRelated at related
  induction related generalizing first second with
  | nil => exact bound.resolve_left nofun
  | @cons entry other rest otherRest same _ inductionHypothesis =>
      rw [bindAll, bindAll, List.foldl_cons, List.foldl_cons]
      refine inductionHypothesis (by simpa using firstPresent) (by simpa using secondPresent) ?_
      unfold BindsRelated
      rw [bindings_bind_self first firstScope entry.1 entry.2 firstPresent,
        bindings_bind_self second secondScope other.1 other.2 secondPresent, Table.lookup_store,
        Table.lookup_store, ← same.1]
      by_cases nearest : name = entry.1
      · exact .inr ⟨entry.2, other.2, if_pos nearest, if_pos nearest, same.2⟩
      · rw [if_neg nearest, if_neg nearest]
        refine bound.imp_left fun member => ?_
        exact (List.mem_cons.1 member).resolve_left nearest

/-- A name has related values in two scopes where related entries are bound. -/
theorem lookup_bindAll_related {entries others : Table Value}
    (firstPresent : firstScope.frame < first.frames.size)
    (secondPresent : secondScope.frame < second.frames.size)
    (related : EntriesRelated relates entries others) {name : String}
    (bound : name ∈ entries.names) :
    ∃ value other, (first.bindAll firstScope entries).lookup firstScope name = some value ∧
      (second.bindAll secondScope others).lookup secondScope name = some other ∧
        relates value other := by
  obtain ⟨value, other, found, otherFound, values⟩ :=
    bindings_bindAll_related firstPresent secondPresent related (.inl bound)
  refine ⟨value, other, ?_, ?_, values⟩
  · rw [lookup, lookupChain, Scope.chain, List.findSome?_cons, found]
  · rw [lookup, lookupChain, Scope.chain, List.findSome?_cons, otherFound]

end Store

namespace Environment

variable {environment : Environment}

/-- The macros of a template are bound under their names. -/
theorem lookup_closures {name : String} (has : Table.has environment.lineage.layer.macros name) :
    ∃ value, environment.closures.lookup name = some value := by
  have present : name ∈ environment.lineage.layer.macros.names :=
    Table.mem_names_iff.2 (Option.isSome_iff_exists.1 has)
  obtain ⟨entry, member, rfl⟩ := List.mem_map.1 present
  refine Table.mem_names_iff.1 (List.mem_map.2 ⟨_, List.mem_map.2 ⟨entry, ?_, rfl⟩, rfl⟩)
  exact List.mem_mergeSort.2 member

/-- If no macro is missing, the names are those of macros. -/
theorem has_of_missingMacro? {selection : List (String × String)}
    (available : environment.missingMacro? selection = none) {selected : String × String}
    (member : selected ∈ selection) :
    Table.has environment.lineage.layer.macros selected.2 = true := by
  have none_found := List.find?_eq_none.1 (Option.map_eq_none_iff.1 available)
  simpa using none_found selected member

end Environment

namespace Importing

variable {relates : Value → Value → Prop} {included : Environment} {importing : Importing}

theorem names_macros {selection : List (String × String)}
    (available : included.missingMacro? selection = none) {name : String}
    (member : name ∈ selection.map Prod.fst) :
    name ∈ ((macros selection).entries included.closures).names := by
  obtain ⟨selected, present, rfl⟩ := List.mem_map.1 member
  obtain ⟨value, found⟩ := Environment.lookup_closures
    (Environment.has_of_missingMacro? available present)
  refine List.mem_map.2 ⟨(selected.1, value), List.mem_filterMap.2 ⟨selected, present, ?_⟩, rfl⟩
  simp only [found, Option.map_some]

/-- What one import binds from related modules is related. -/
theorem bound?_related {first second : Store} {firstScope secondScope : Scope}
    {other : Environment} {pairing : Pairing}
    (firstPresent : firstScope.frame < first.frames.size)
    (secondPresent : secondScope.frame < second.frames.size)
    (available : importing.Available included)
    (related : EntriesRelated (Matching.isolated.Values pairing) included.closures
      other.closures) (name : String) :
    Option.Rel (Matching.isolated.Values pairing)
      (importing.bound? (first.bindAll firstScope (importing.entries included.closures))
        firstScope name)
      (importing.bound? (second.bindAll secondScope (importing.entries other.closures))
        secondScope name) := by
  cases importing with
  | module target =>
      have map : Matching.isolated.Values pairing (.map included.closures)
          (.map other.closures) := (Matching.isolated.correspondence .plain).map related
      have entries : EntriesRelated (Matching.isolated.Values pairing)
          ((module target).entries included.closures)
          ((module target).entries other.closures) := .cons ⟨rfl, map⟩ .nil
      have member : target ∈ ((module target).entries included.closures).names :=
        List.mem_cons_self
      obtain ⟨found, otherFound, sees, otherSees, values⟩ :=
        Store.lookup_bindAll_related firstPresent secondPresent entries member
      simp only [bound?, sees, otherSees, Option.bind_some]
      exact (Matching.isolated.correspondence .plain).member name values
  | macros selection =>
      have selected : EntriesRelated ((Matching.isolated.correspondence .plain).value pairing)
          ((macros selection).entries included.closures)
          ((macros selection).entries other.closures) :=
        Correspondence.selected_related selection related
      simp only [bound?]
      split
      · rename_i member
        obtain ⟨found, otherFound, sees, otherSees, values⟩ :=
          Store.lookup_bindAll_related firstPresent secondPresent selected
            (names_macros available member)
        rw [sees, otherSees]
        exact .some values
      · exact .none

end Importing

/-! ## Calls of macros that are imported -/

/-- Arguments that hold nothing that can be called. -/
structure Arguments.Inert (arguments : Arguments) : Prop where
  positional : ∀ argument ∈ arguments.positional,
    argument.Every fun value => value.isCallable = false
  keyword : ∀ argument ∈ arguments.keyword,
    argument.2.Every fun value => value.isCallable = false

namespace Matching

open Comparison

variable {pairing : Pairing} {first second : RunState} {arguments : Arguments}

theorem isolated_arguments (inert : arguments.Inert) :
    ArgumentsRelated (isolated.Values pairing) arguments arguments :=
  ⟨List.forall₂_same.2 fun argument member => values_of_every (inert.positional argument member),
    List.forall₂_same.2 fun argument member =>
      ⟨rfl, values_of_every (inert.keyword argument member)⟩⟩

theorem results_eq_of_ends {outcome other : Option (Except EvalError Value × RunState)}
    (ended : isolated.comparison.Ends pairing Eq (fun _ => Eq) outcome other) :
    outcome.map Prod.fst = other.map Prod.fst := by
  match outcome, other with
  | none, none => rfl
  | none, some _ => cases ended
  | some _, none => exact ended.elim
  | some (result, _), some (otherResult, _) =>
      obtain ⟨_, _, _, alike⟩ := ended
      match result, otherResult, alike with
      | .ok _, .ok _, rfl => rfl
      | .error _, .error _, rfl => rfl

/-- Calls of macros that match have the same result. -/
theorem isolated_call (stores : isolated.Stores pairing first.store second.store)
    {closure other : Closure}
    (values : isolated.Values pairing (.closure closure) (.closure other))
    (inert : arguments.Inert) (natives : Natives) (bound depth : Nat) (callee : Expression) :
    (Interpreter.callValue natives (Interpreter.bounded natives bound) depth callee
        (.closure closure) arguments first).map Prod.fst =
      (Interpreter.callValue natives (Interpreter.bounded natives bound) depth callee
        (.closure other) arguments second).map Prod.fst := by
  cases values.like with
  | @closure definition firstEnvironment secondEnvironment relates =>
      obtain ⟨kind, settings, scopes⟩ := relates
      cases kind with
      | guarded => exact settings.elim
      | plain =>
          have called : isolated.comparison.Related pairing Eq (fun _ => Eq)
              (Interpreter.callValue natives (Interpreter.bounded natives bound) depth callee
                (.closure ⟨definition, firstEnvironment⟩) arguments)
              (Interpreter.callValue natives (Interpreter.bounded natives bound) depth callee
                (.closure ⟨definition, secondEnvironment⟩) arguments) := by
            have entered : isolated.comparison.Renders pairing
                (fun _ inner otherInner => (isolated.correspondence .plain).Interprets
                  (Interpreter.bounded natives bound) inner (Interpreter.bounded natives bound)
                  otherInner)
                (Interpreter.enter depth definition.name)
                (Interpreter.enter depth definition.name) :=
              related_enter (isolated_interprets natives bound) .plain definition.name
            have rendered := (isolated.correspondence .plain).callClosure_related
              (Definition.within_unrestricted definition) settings (isolated_arguments inert)
              entered fun _ grown => related_openChild (scopes.toOuter.grow grown)
            refine Related.mono (rendered.mapError fun _ _ same =>
              congrArg (EvalError.macroFailed definition.name)
                (TemplateError.message_eq_of_told same)) ?_
            rintro _ _ _ _ ⟨_, _, ⟨sink, _, rfl, rfl, rfl⟩, rfl, rfl⟩
            simp only [Interpreter.renderedValue, settings_config settings]
          obtain ⟨firstStore, firstSink⟩ := first
          obtain ⟨secondStore, secondSink⟩ := second
          rw [Interpreter.callValue_quiet _ _ _ _ _ _ firstStore firstSink,
            Interpreter.callValue_quiet _ _ _ _ _ _ secondStore secondSink, Option.map_map,
            Option.map_map]
          exact results_eq_of_ends (called.ends not_false ⟨stores, rfl⟩)

end Matching

end TemplateEngine
