import Mathlib.Logic.Relation
import TemplateEngine.Natives
import TemplateEngine.Proofs.Extending
import TemplateEngine.Proofs.Grammar
import TemplateEngine.Proofs.References

/-!
# How far templates extend each other

Templates in memory extend each other as their extends tags say, and a template is read with all
that it extends, up to a limit.  Following the tags either comes to an end within the limit, and
then the template is read with exactly what was passed, or it goes on beyond it.  Then reading
fails with an error that says so and nothing else, however deep it arises.
-/

namespace TemplateEngine

namespace Lineage

variable (config : Config) (statements : Registry StatementKind) (templates : Table String)

/-- Whether a template in memory extends another one: reading it gets to an extends tag that has
the name of the other. -/
def Extends (name parent : String) : Prop :=
  ∃ source, templates.lookup name = some source ∧
    asked? config statements (.memory templates) name source = some parent

/-- Whether a template in memory describes a layer, whatever it extends: all of it can be
read. -/
def Describes (name : String) (layer : Layer) : Prop :=
  ∃ source described, templates.lookup name = some source ∧
    outline config statements (.memory templates) name source = .ok described ∧
      described.layer = layer

/-- Whether following extends tags from a template passes some ancestors. -/
def Passes (name : String) (ancestors : List String) : Prop :=
  (name :: ancestors).IsChain (Extends config statements templates)

/-- Whether following extends tags passes some ancestors and ends at the last of them. -/
structure Ends (name : String) (ancestors : List String) : Prop where
  passes : Passes config statements templates name ancestors
  last : ∀ parent, ¬ Extends config statements templates (ancestors.getLast?.getD name) parent

variable {config statements templates} {name parent source : String} {ancestors : List String}
  {lineage : Lineage}

theorem Describes.identifier {layer : Layer}
    (describes : Describes config statements templates name layer) : layer.identifier = name := by
  obtain ⟨source, described, -, outlined, rfl⟩ := describes
  exact identifier_of_read outlined

theorem exists_layers {names : List String}
    (described : ∀ other ∈ names, ∃ layer, Describes config statements templates other layer) :
    ∃ layers, List.Forall₂ (Describes config statements templates) names layers := by
  induction names with
  | nil => exact ⟨[], .nil⟩
  | cons first rest inductionHypothesis =>
      obtain ⟨layer, describes⟩ := described first List.mem_cons_self
      obtain ⟨layers, others⟩ :=
        inductionHypothesis fun other member => described other (.tail first member)
      exact ⟨layer :: layers, .cons describes others⟩

theorem map_identifier {names : List String} {layers : List Layer}
    (describe : List.Forall₂ (Describes config statements templates) names layers) :
    layers.map Layer.identifier = names := by
  induction describe with
  | nil => rfl
  | cons describes _ inductionHypothesis =>
      rw [List.map_cons, describes.identifier, inductionHypothesis]

/-! ## Reading one template -/

theorem extends_iff (held : templates.lookup name = some source) :
    Extends config statements templates name parent ↔
      asked? config statements (.memory templates) name source = some parent := by
  constructor
  · rintro ⟨_, same, asked⟩
    cases held.symm.trans same
    exact asked
  · exact fun asked => ⟨source, held, asked⟩

theorem describes_iff (held : templates.lookup name = some source) {layer : Layer} :
    Describes config statements templates name layer ↔
      ∃ described, outline config statements (.memory templates) name source = .ok described ∧
        described.layer = layer := by
  constructor
  · rintro ⟨_, described, same, outlined, rfl⟩
    cases held.symm.trans same
    exact ⟨described, outlined, rfl⟩
  · rintro ⟨described, outlined, rfl⟩
    exact ⟨source, described, held, outlined, rfl⟩

/-- A template that extends nothing is read to one layer. -/
theorem layers_of_read_alone (held : templates.lookup name = some source)
    (asked : asked? config statements (.memory templates) name source = none)
    (loadParent : Loading) (layers : List Layer) :
    List.Forall₂ (Describes config statements templates) [name] layers ↔
      ∃ lineage, read config statements (.memory templates) name source loadParent =
        .ok lineage ∧ lineage.layers = layers := by
  rw [List.forall₂_cons_left_iff]
  constructor
  · rintro ⟨layer, _, describes, ends, rfl⟩
    cases ends
    obtain ⟨described, outlined, rfl⟩ := (describes_iff held).1 describes
    exact ⟨_, read_eq_ok_iff.2 ⟨described, outlined, .inl ⟨asked, rfl⟩⟩, rfl⟩
  · rintro ⟨lineage, given, rfl⟩
    obtain ⟨described, outlined, ⟨-, rfl⟩ | ⟨parent, loaded, extended, -⟩⟩ :=
      read_eq_ok_iff.1 given
    · exact ⟨described.layer, [], (describes_iff held).2 ⟨described, outlined, rfl⟩, .nil, rfl⟩
    · cases asked.symm.trans extended

/-- A template that extends another one is read to one layer and those of the other. -/
theorem layers_of_read (held : templates.lookup name = some source)
    (asked : asked? config statements (.memory templates) name source = some parent)
    {loadParent : Loading} {others : List String}
    (loads : ∀ layers, List.Forall₂ (Describes config statements templates) others layers ↔
      ∃ lineage, loadParent parent = .ok lineage ∧ lineage.layers = layers)
    (layers : List Layer) :
    List.Forall₂ (Describes config statements templates) (name :: others) layers ↔
      ∃ lineage, read config statements (.memory templates) name source loadParent =
        .ok lineage ∧ lineage.layers = layers := by
  rw [List.forall₂_cons_left_iff]
  constructor
  · rintro ⟨layer, above, describes, parents, rfl⟩
    obtain ⟨described, outlined, rfl⟩ := (describes_iff held).1 describes
    obtain ⟨lineage, loaded, rfl⟩ := (loads above).1 parents
    exact ⟨_, read_eq_ok_iff.2 ⟨described, outlined, .inr ⟨parent, lineage, asked, loaded, rfl⟩⟩,
      rfl⟩
  · rintro ⟨lineage, given, rfl⟩
    obtain ⟨described, outlined, ⟨alone, -⟩ | ⟨other, above, extended, loaded, rfl⟩⟩ :=
      read_eq_ok_iff.1 given
    · cases alone.symm.trans asked
    · cases asked.symm.trans extended
      exact ⟨described.layer, above.layers, (describes_iff held).2 ⟨described, outlined, rfl⟩,
        (loads above.layers).2 ⟨above, loaded, rfl⟩, rfl⟩

/-- A template cannot be read if its parent cannot be loaded. -/
theorem read_eq_error
    (asked : asked? config statements (.memory templates) name source = some parent)
    {loadParent : Loading} {error : TemplateError} (failed : loadParent parent = .error error) :
    read config statements (.memory templates) name source loadParent = .error error := by
  rw [read_eq, asked, Option.mapM_some, failed]
  rfl

/-- A parent in memory is read with the same loader.  An error in it is one of the parent, but
for the one that says that templates nest too deep. -/
theorem loadParent_memory (held : templates.lookup parent = some source)
    (read : Loader → String → String → Except TemplateError Lineage) :
    loadParent read (.memory templates) parent =
      match read (.memory templates) parent source with
      | .ok lineage => .ok lineage
      | .error (.recursion name limit) => .error (.recursion name limit)
      | .error error => .error (.load parent error) := by
  have listed : Table.has templates parent = true := by simp [Table.has, held]
  have inherited : (Loader.memory templates).inherit parent = .ok (.memory templates) :=
    if_pos listed
  have resolved : (Loader.memory templates).resolve parent = .ok parent := if_pos listed
  have present : (Loader.memory templates).read parent = .ok source := by
    simp only [Loader.read, held]
  cases given : read (.memory templates) parent source with
  | ok lineage =>
      simp only [loadParent, inherited, resolved, present, Except.mapError, bind, Except.bind,
        given]
  | error error =>
      cases error <;>
        simp only [loadParent, inherited, resolved, present, Except.mapError, bind, Except.bind,
          given]

/-! ## Ways along extends tags -/

theorem Passes.tail (passes : Passes config statements templates name (parent :: ancestors)) :
    Extends config statements templates name parent ∧
      Passes config statements templates parent ancestors :=
  List.isChain_cons_cons.1 passes

theorem Passes.reached {other : String}
    (passes : Passes config statements templates name ancestors) (member : other ∈ ancestors) :
    Relation.ReflTransGen (Extends config statements templates) name other := by
  induction ancestors generalizing name with
  | nil => cases member
  | cons parent ancestors inductionHypothesis =>
      rcases List.mem_cons.1 member with rfl | member
      · exact .single passes.tail.1
      · exact .head passes.tail.1 (inductionHypothesis passes.tail.2 member)

theorem ends_nil (alone : ¬ ∃ parent, Extends config statements templates name parent) :
    Ends config statements templates name [] :=
  ⟨.singleton name, not_exists.1 alone⟩

theorem Ends.cons (extended : Extends config statements templates name parent)
    (ends : Ends config statements templates parent ancestors) :
    Ends config statements templates name (parent :: ancestors) := by
  refine ⟨.cons_cons extended ends.passes, ?_⟩
  rw [List.getLast?_cons]
  exact ends.last

theorem Ends.tail (ends : Ends config statements templates name (parent :: ancestors)) :
    Extends config statements templates name parent ∧
      Ends config statements templates parent ancestors := by
  refine ⟨ends.passes.tail.1, ends.passes.tail.2, ?_⟩
  have last := ends.last
  rwa [List.getLast?_cons] at last

/-- Following extends tags comes to an end within any limit or goes on beyond it. -/
theorem exists_ends_or_passes (limit : Nat) (name : String) :
    ∃ ancestors,
      Ends config statements templates name ancestors ∧ ancestors.length ≤ limit ∨
      Passes config statements templates name ancestors ∧ limit < ancestors.length := by
  induction limit generalizing name with
  | zero =>
      by_cases further : ∃ parent, Extends config statements templates name parent
      · obtain ⟨parent, extended⟩ := further
        exact ⟨[parent], .inr ⟨.cons_cons extended (.singleton parent), Nat.one_pos⟩⟩
      · exact ⟨[], .inl ⟨ends_nil further, Nat.le_refl 0⟩⟩
  | succ limit inductionHypothesis =>
      by_cases further : ∃ parent, Extends config statements templates name parent
      · obtain ⟨parent, extended⟩ := further
        obtain ⟨ancestors, ⟨ends, short⟩ | ⟨passes, long⟩⟩ := inductionHypothesis parent
        · exact ⟨parent :: ancestors, .inl ⟨Ends.cons extended ends, Nat.succ_le_succ short⟩⟩
        · exact ⟨parent :: ancestors, .inr ⟨.cons_cons extended passes, Nat.succ_lt_succ long⟩⟩
      · exact ⟨[], .inl ⟨ends_nil further, Nat.zero_le _⟩⟩

/-- Extends tags that lead to a cycle can be followed on and on. -/
theorem exists_passes_of_cycle {other : String}
    (reached : Relation.ReflTransGen (Extends config statements templates) name other)
    (cycle : Relation.TransGen (Extends config statements templates) other other) (count : Nat) :
    ∃ ancestors, Passes config statements templates name ancestors ∧
      ancestors.length = count := by
  induction count generalizing name with
  | zero => exact ⟨[], .singleton name, rfl⟩
  | succ count inductionHypothesis =>
      have onward : Relation.TransGen (Extends config statements templates) name other :=
        .trans_right reached cycle
      obtain ⟨parent, extended, reaches⟩ := Relation.TransGen.head'_iff.1 onward
      obtain ⟨ancestors, passes, length⟩ := inductionHypothesis reaches
      exact ⟨parent :: ancestors, .cons_cons extended passes, congrArg Nat.succ length⟩

/-! ## Reading all of them -/

/-- Where extends tags come to an end below the limit, a template is read to the layers of what
they lead to. -/
theorem layers_of_ofSource (ends : Ends config statements templates name ancestors)
    (present : ∀ other ∈ ancestors, Table.has templates other)
    (held : templates.lookup name = some source) {depth : Nat} (short : ancestors.length ≤ depth)
    (layers : List Layer) :
    List.Forall₂ (Describes config statements templates) (name :: ancestors) layers ↔
      ∃ lineage, ofSource config statements depth (.memory templates) name source =
        .ok lineage ∧ lineage.layers = layers := by
  induction ancestors generalizing name source depth layers with
  | nil =>
      have asked : asked? config statements (.memory templates) name source = none :=
        Option.eq_none_iff_forall_not_mem.2 fun parent asked =>
          ends.last parent ((extends_iff held).2 asked)
      cases depth with
      | zero => exact layers_of_read_alone held asked _ layers
      | succ depth => exact layers_of_read_alone held asked _ layers
  | cons parent ancestors inductionHypothesis =>
      obtain ⟨depth, rfl⟩ := Nat.exists_eq_add_of_le' (Nat.lt_of_lt_of_le ancestors.length.succ_pos
        short)
      obtain ⟨extended, rest⟩ := ends.tail
      obtain ⟨text, parentHeld⟩ := Option.isSome_iff_exists.1 (present parent List.mem_cons_self)
      refine layers_of_read held ((extends_iff held).1 extended) (fun others => ?_) layers
      rw [inductionHypothesis rest (fun other member => present other (.tail parent member))
        parentHeld (Nat.le_of_succ_le_succ short) others, loadParent_memory parentHeld]
      -- Only a success matters here, and no error is one, however it is attributed.
      cases ofSource config statements depth (.memory templates) parent text with
      | ok lineage => rfl
      | error error => cases error <;> simp

/-- Where extends tags lead beyond the limit, reading fails at the first template beyond it. -/
theorem ofSource_of_passes {depth : Nat} {other : String}
    (passes : Passes config statements templates name ancestors)
    (present : ∀ other ∈ ancestors, Table.has templates other)
    (held : templates.lookup name = some source) (beyond : ancestors[depth]? = some other) :
    ofSource config statements depth (.memory templates) name source =
      .error (.recursion other maxDepth) := by
  induction depth generalizing name source ancestors with
  | zero =>
      cases ancestors with
      | nil => cases beyond
      | cons parent ancestors =>
          cases beyond
          exact read_eq_error ((extends_iff held).1 passes.tail.1) rfl
  | succ depth inductionHypothesis =>
      cases ancestors with
      | nil => cases beyond
      | cons parent ancestors =>
          obtain ⟨text, parentHeld⟩ := Option.isSome_iff_exists.1
            (present parent List.mem_cons_self)
          refine read_eq_error ((extends_iff held).1 passes.tail.1) ?_
          -- The error from further up is the one kind that is not attributed to the parent.
          rw [loadParent_memory parentHeld, inductionHypothesis passes.tail.2
            (fun other member => present other (.tail parent member)) parentHeld beyond]

end Lineage

namespace Template

variable {config : Config} {registries : Registries} {templates : Table String}
  {name source : String}

theorem load_memory (held : templates.lookup name = some source) :
    load name config registries (.memory templates) =
      (Lineage.ofSource config registries.statements Lineage.maxDepth (.memory templates) name
        source).map fun lineage => ⟨name, lineage, config, registries, .memory templates⟩ := by
  have present : (Loader.memory templates).read name = .ok source := by
    simp only [Loader.read, held]
  simp only [load, Lineage.load, present, Except.mapError, bind, Except.bind]
  cases Lineage.ofSource config registries.statements Lineage.maxDepth (.memory templates) name
    source <;> rfl

/-- A template in memory whose extends tags only lead to templates that are there either comes
to an end within the limit or goes beyond it, and on every cycle it does.  If it comes to an end
and all templates passed can be read, then it is loaded with the layers of exactly these, in
order; and if it goes beyond the limit, then the error says so itself and has the name of the
first template beyond. -/
theorem ancestors_limited (config : Config) (registries : Registries) (templates : Table String)
    (name : String)
    (present : ∀ other, Relation.ReflTransGen
      (Lineage.Extends config registries.statements templates) name other →
        Table.has templates other) :
    (∃ ancestors,
      Lineage.Ends config registries.statements templates name ancestors ∧
          ancestors.length ≤ Lineage.maxDepth ∨
        Lineage.Passes config registries.statements templates name ancestors ∧
          Lineage.maxDepth < ancestors.length) ∧
    (∀ ancestors, Lineage.Ends config registries.statements templates name ancestors →
      ancestors.length ≤ Lineage.maxDepth →
        ((∀ other ∈ name :: ancestors,
            ∃ layer, Lineage.Describes config registries.statements templates other layer) →
          ∃ template, load name config registries (.memory templates) = .ok template) ∧
        ∀ template, load name config registries (.memory templates) = .ok template →
          template.lineage.layers.map Layer.identifier = name :: ancestors ∧
            List.Forall₂ (Lineage.Describes config registries.statements templates)
              (name :: ancestors) template.lineage.layers) ∧
    (∀ ancestors, Lineage.Passes config registries.statements templates name ancestors →
      Lineage.maxDepth < ancestors.length →
        ∃ other, ancestors[Lineage.maxDepth]? = some other ∧
          load name config registries (.memory templates) =
            .error (.recursion other Lineage.maxDepth)) ∧
    ∀ other,
      Relation.ReflTransGen (Lineage.Extends config registries.statements templates) name other →
      Relation.TransGen (Lineage.Extends config registries.statements templates) other other →
        ∃ ancestors, Lineage.Passes config registries.statements templates name ancestors ∧
          Lineage.maxDepth < ancestors.length := by
  obtain ⟨source, held⟩ := Option.isSome_iff_exists.1 (present name .refl)
  refine ⟨Lineage.exists_ends_or_passes Lineage.maxDepth name, fun ancestors ends short => ?_,
    fun ancestors passes long => ?_, fun other reached cycle => ?_⟩
  · have layers := Lineage.layers_of_ofSource ends
      (fun other member => present other (ends.passes.reached member)) held short
    rw [load_memory held]
    constructor
    · intro described
      obtain ⟨others, describe⟩ := Lineage.exists_layers described
      obtain ⟨lineage, given, -⟩ := (layers others).1 describe
      exact ⟨_, congrArg (Except.map _) given⟩
    · intro template loaded
      obtain ⟨lineage, given, rfl⟩ := Token.exists_of_map_eq_ok loaded
      have describe := (layers lineage.layers).2 ⟨lineage, given, rfl⟩
      exact ⟨Lineage.map_identifier describe, describe⟩
  · refine ⟨ancestors[Lineage.maxDepth], List.getElem?_eq_getElem long, ?_⟩
    rw [load_memory held, Lineage.ofSource_of_passes passes
      (fun other member => present other (passes.reached member)) held
      (List.getElem?_eq_getElem long)]
    rfl
  · obtain ⟨ancestors, passes, length⟩ :=
      Lineage.exists_passes_of_cycle reached cycle (Lineage.maxDepth + 1)
    exact ⟨ancestors, passes, length ▸ Nat.lt_succ_self _⟩

/-- A page with a base, and two templates that extend each other. -/
def linked : Table String :=
  [("page", "\x7b% extends 'base' %\x7d"), ("base", "text"),
    ("one", "\x7b% extends 'two' %\x7d"), ("two", "\x7b% extends 'one' %\x7d")]

/-- The template that one of them extends. -/
def linkedTo? (name : String) : Option String :=
  (linked.lookup name).bind
    (Lineage.asked? .default Registries.standardStatements (.memory linked) name)

theorem linked_extends_iff {name parent : String} :
    Lineage.Extends .default Registries.standard.statements linked name parent ↔
      linkedTo? name = some parent :=
  Option.bind_eq_some_iff.symm

/-- Every template that one of them extends is among them. -/
theorem linked_present {name other : String} (named : Table.has linked name)
    (reached : Relation.ReflTransGen
      (Lineage.Extends .default Registries.standard.statements linked) name other) :
    Table.has linked other := by
  induction reached with
  | refl => exact named
  | tail _ extended _ =>
      have links : ∀ entry ∈ linked, (linkedTo? entry.1).all (Table.has linked) := by
        decide +kernel
      have found := linked_extends_iff.1 extended
      obtain ⟨source, held, -⟩ := Option.bind_eq_some_iff.1 found
      have linkedWell := links _ (Table.mem_of_lookup held)
      rw [found] at linkedWell
      exact linkedWell

/-- The page is loaded with its base, and neither of the two that extend each other. -/
theorem ancestors_limited_linked :
    (∃ template, load "page" .default .standard (.memory linked) = .ok template ∧
      template.lineage.layers.map Layer.identifier = ["page", "base"]) ∧
    ∃ other, load "one" .default .standard (.memory linked) =
      .error (.recursion other Lineage.maxDepth) := by
  constructor
  · have ends : Lineage.Ends .default Registries.standard.statements linked "page" ["base"] := by
      refine .cons (linked_extends_iff.2 (by decide +kernel)) (Lineage.ends_nil ?_)
      rintro ⟨parent, extended⟩
      have alone : linkedTo? "base" = none := by decide +kernel
      cases alone.symm.trans (linked_extends_iff.1 extended)
    have outlined : ∀ other ∈ ["page", "base"], (linked.lookup other).any fun source =>
        (Lineage.outline .default Registries.standardStatements (.memory linked) other
          source).isOk := by decide +kernel
    obtain ⟨loads, layers⟩ := (ancestors_limited .default .standard linked "page"
      fun other reached => linked_present rfl reached).2.1 ["base"] ends (by decide)
    obtain ⟨template, loaded⟩ := loads fun other member => by
      obtain ⟨source, held, outlined⟩ := (Option.any_eq_true _ _).1 (outlined other member)
      cases given : Lineage.outline .default Registries.standardStatements (.memory linked) other
          source with
      | error error =>
          rw [given] at outlined
          cases outlined
      | ok described => exact ⟨described.layer, source, described, held, given, rfl⟩
    exact ⟨template, loaded, (layers template loaded).1⟩
  · have onward : Lineage.Extends .default Registries.standard.statements linked "one" "two" :=
      linked_extends_iff.2 (by decide +kernel)
    have back : Lineage.Extends .default Registries.standard.statements linked "two" "one" :=
      linked_extends_iff.2 (by decide +kernel)
    obtain ⟨-, -, beyond, cycles⟩ := ancestors_limited .default .standard linked "one"
      fun other reached => linked_present rfl reached
    obtain ⟨ancestors, passes, long⟩ := cycles "one" .refl (.tail (.single onward) back)
    obtain ⟨other, -, failed⟩ := beyond ancestors passes long
    exact ⟨other, failed⟩

end Template

end TemplateEngine
