import TemplateEngine.Proofs.Forwarding.Simulation

/-!
# Templates that add nothing

A template may extend another one and override any of its blocks with nothing but a call of
`super`.  Such a template renders as the other one does: with the same data one of them succeeds
if the other one does, and then both write the same text.  The conditions are that the blocks are
overridden under the name `block`, and that the native functions in the data do not look into
what can be called.  The last section shows that neither can be left out.
-/

namespace TemplateEngine

namespace Matching

open Comparison

/-! ## Renderings -/

variable {repertoire : Repertoire} {natives : Natives} {bound greater : Nat} {pairing : Pairing}
variable {data : Scope}
variable {first second : Template} {lineage : Lineage}

/-- Renderings of templates whose pages are those of one lineage. -/
theorem forwarding_render (indifferent : natives.Indifferent) (enough : 2 * bound ≤ greater)
    (inside : lineage.Within repertoire.vocabulary)
    (pairs : ∀ scope other, repertoire.Pairs (first.environment scope) (second.environment other))
    (paired : ⟨.plain, data.frame, data.frame⟩ ∈ pairing.pairs)
    (page : ∀ scope, (Interpreter.bounded natives bound).execute (first.environment scope) 0 =
      do
        Interpreter.prepare (Interpreter.bounded natives bound) (first.environment scope) 0
          lineage.derived
        (Interpreter.bounded natives bound).render (first.environment scope) 0
          lineage.root.nodes)
    (otherPage : ∀ scope,
      (Interpreter.bounded natives greater).execute (second.environment scope) 0 =
        do
          Interpreter.prepare (Interpreter.bounded natives greater) (second.environment scope) 0
            lineage.derived
          (Interpreter.bounded natives greater).render (second.environment scope) 0
            lineage.root.nodes) :
    (forwarding repertoire).comparison.Renders pairing (forwarding repertoire).comparison.done
      (first.render (Interpreter.bounded natives bound) data)
      (second.render (Interpreter.bounded natives greater) data) := by
  refine Correspondence.render_related_of_execute ((forwarding repertoire).roots .guarded) ?_ ?_
  · intro later grown scope other scopes
    exact related_modifyGet fun _ _ stores sinks =>
      ⟨later, .refl later, stores.bindAll scopes (stores.bindings (grown.pairs paired)), sinks,
        True.intro⟩
  · intro later scope other scopes
    rw [page, otherPage]
    exact Correspondence.page_related (forwarding_interprets indifferent enough .guarded 0)
      ⟨pairs scope other, scopes⟩ inside

end Matching

/-! ## Pages of texts, names and blocks -/

/-- Whether a macro has no parameters and nothing in its body. -/
private def Definition.isHollow (definition : Definition Node) : Bool :=
  definition.parameters.isEmpty && definition.body.nodes.isEmpty

private theorem Definition.within_of_isHollow {listed : String → Prop}
    {definition : Definition Node} (hollow : definition.isHollow = true) :
    definition.Within (.withoutSuper listed) := by
  rcases definition with ⟨name, parameters, ⟨nodes, endTag, position⟩, defined⟩
  obtain ⟨noParameters, noNodes⟩ := Bool.and_eq_true_iff.1 hollow
  cases List.isEmpty_iff.1 noParameters
  cases List.isEmpty_iff.1 noNodes
  exact ⟨True.intro, List.forall_mem_nil _, True.intro⟩

/-- Whether a node is a literal text, writes a name other than `super` or what a function makes
of one, places a block, or defines such a macro. -/
private def Node.isSimple : Node → Bool
  | .data _ _ _ => true
  | .output ⟨.name identifier _, none, none, _⟩ => identifier != "super"
  | .output ⟨.call (.name callee _) ⟨[.name argument _], []⟩ _, none, none, _⟩ =>
      callee != "super" && argument != "super"
  | .statement _ (.block _) _ => true
  | .statement _ (.definition definition) _ => definition.isHollow
  | _ => false

private theorem Node.within_of_isSimple {listed : String → Prop} {node : Node}
    (simple : node.isSimple = true) : node.Within (.withoutSuper listed) := by
  unfold isSimple at simple
  split at simple
  · exact True.intro
  · exact ⟨bne_iff_ne.1 simple, True.intro, True.intro⟩
  · obtain ⟨callee, argument⟩ := Bool.and_eq_true_iff.1 simple
    exact ⟨⟨bne_iff_ne.1 callee, ⟨bne_iff_ne.1 argument, True.intro⟩, True.intro⟩, True.intro,
      True.intro⟩
  · exact ⟨fun _ => False.elim, True.intro⟩
  · rename_i definition _
    have within : definition.Within (.withoutSuper listed) := Definition.within_of_isHollow simple
    exact ⟨fun _ => False.elim, within.1, fun _ => within.2⟩
  · cases simple

/-- Whether this is so of all nodes of a lineage, and its macros are such. -/
private def Lineage.isSimple (lineage : Lineage) : Bool :=
  lineage.layers.all fun layer =>
    layer.nodes.all Node.isSimple && layer.blocks.all (fun entry => entry.2.nodes.all Node.isSimple)
      && layer.macros.all fun entry => entry.2.isHollow

private theorem Lineage.within_of_isSimple {listed : String → Prop} {lineage : Lineage}
    (simple : lineage.isSimple = true) : lineage.Within (.withoutSuper listed) := by
  intro layer member
  have simple := List.all_eq_true.1 simple layer member
  simp only [Bool.and_eq_true, List.all_eq_true] at simple
  obtain ⟨⟨nodes, blocks⟩, macros⟩ := simple
  refine ⟨?_, fun entry listed => ?_, fun entry listed => ?_⟩
  · exact (Node.allWithin_iff _ _).2 fun node present =>
      Node.within_of_isSimple (nodes node present)
  · exact (Node.allWithin_iff _ _).2 fun node present =>
      Node.within_of_isSimple (blocks entry listed node present)
  · exact Definition.within_of_isHollow (macros entry listed)

/-! ## Templates -/

namespace Template

/-- Whether a template succeeds with some data and writes a text, under some bound. -/
def Renders (template : Template) (natives : Natives) (store : Store) (data : Scope)
    (text : String) : Prop :=
  ∃ bound after,
    template.render (Interpreter.bounded natives bound) data ⟨store, Sink.unlimited⟩ =
        some (.ok (), after) ∧ after.sink.text = text

variable {repertoire : Repertoire} {natives : Natives} {child parent : Template}

/-- A template renders as another one to which its lineage adds nothing. -/
theorem renders_iff_of_forwards (indifferent : natives.Indifferent)
    (serves : ∀ scope, repertoire.Serves (child.environment scope))
    (parentServes : ∀ scope, repertoire.Serves (parent.environment scope))
    (forwards : child.lineage.Forwards parent.lineage)
    (inside : parent.lineage.Within repertoire.vocabulary) {store : Store} {data : Scope}
    (closed : store.Closed) (lies : data.Lies store) (text : String) :
    child.Renders natives store data text ↔ parent.Renders natives store data text := by
  have paired := lies.scopes.frames
  have pages : ∀ bound scope,
      (Interpreter.bounded natives bound).execute (child.environment scope) 0 =
        (do
          Interpreter.prepare (Interpreter.bounded natives bound) (child.environment scope) 0
            parent.lineage.derived
          (Interpreter.bounded natives bound).render (child.environment scope) 0
            parent.lineage.root.nodes) :=
    fun bound scope => Interpreter.execute_of_forwards natives bound forwards
  constructor
  · rintro ⟨bound, after, ran, rfl⟩
    have related := Matching.forwarding_render indifferent (Nat.le_refl (2 * bound)) inside
      (fun scope other => ⟨serves scope, parentServes other, .child forwards inside⟩) paired
      (pages bound) fun _ => rfl
    obtain ⟨other, otherRan, shown, _⟩ :=
      Matching.exists_of_related related (Matching.stores_of_closed (fun _ => True.intro) closed)
        ran
    exact ⟨_, other, otherRan, shown.symm⟩
  · rintro ⟨bound, after, ran, rfl⟩
    have related := Matching.forwarding_render indifferent (Nat.le_refl (2 * bound)) inside
      (fun scope other => ⟨parentServes scope, serves other, .parent forwards inside⟩) paired
      (fun _ => rfl) (pages (2 * bound))
    obtain ⟨other, otherRan, shown, _⟩ :=
      Matching.exists_of_related related (Matching.stores_of_closed (fun _ => True.intro) closed)
        ran
    exact ⟨_, other, otherRan, shown.symm⟩

/-- Whether a template extends a file and adds nothing to it, but for overrides of blocks along
its chain whose whole body is a call of `super`. -/
structure AddsNothing (child : Template) (filename : String) : Prop where
  extending : ∃ tag position,
    .statement tag (.parent filename) position ∈ child.lineage.layer.nodes
  nodes : ∀ node ∈ child.lineage.layer.nodes, node.AddsNothing
  blocks : ∀ entry ∈ child.lineage.layer.blocks, entry.2.Forwards ∧
    ∃ layer ∈ child.lineage.ancestors, Table.has layer.blocks entry.1 = true

theorem addsNothing_iff (child : Template) (filename : String) :
    ((∃ node ∈ child.lineage.layer.nodes, node.parent? = some filename) ∧
      (∀ node ∈ child.lineage.layer.nodes, node.AddsNothing) ∧
      ∀ entry ∈ child.lineage.layer.blocks, entry.2.Forwards ∧
        ∃ layer ∈ child.lineage.ancestors, Table.has layer.blocks entry.1 = true) ↔
      child.AddsNothing filename := by
  constructor
  · rintro ⟨⟨node, member, declared⟩, nodes, blocks⟩
    obtain ⟨tag, position, rfl⟩ := Node.parent?_eq_some_iff.1 declared
    exact ⟨⟨tag, position, member⟩, nodes, blocks⟩
  · rintro ⟨⟨tag, position, member⟩, nodes, blocks⟩
    exact ⟨⟨_, member, rfl⟩, nodes, blocks⟩

instance (child : Template) (filename : String) : Decidable (child.AddsNothing filename) :=
  decidable_of_iff _ (addsNothing_iff child filename)

/-- A template that adds nothing to the one it extends has a lineage that adds nothing. -/
theorem AddsNothing.forwards {filename : String} (adds : child.AddsNothing filename)
    {lineage : Lineage} (extended : child.lineage.ancestors = lineage.layers) :
    child.lineage.Forwards lineage := by
  refine ⟨extended, adds.nodes, fun entry member => ?_⟩
  obtain ⟨forward, layer, ancestor, defined⟩ := adds.blocks entry member
  obtain ⟨body, held⟩ := Option.isSome_iff_exists.1 defined
  refine ⟨forward, List.ne_nil_of_mem (List.mem_filterMap.2 ⟨layer, ?_, held⟩)⟩
  exact extended ▸ ancestor

theorem exists_of_ofSource {identifier source : String} {config : Config}
    {registries : Registries} {loader : Loader}
    (loaded : ofSource identifier source config registries loader = .ok child) :
    ∃ lineage,
      Lineage.ofSource config registries.statements Lineage.maxDepth loader identifier source =
        .ok lineage ∧ child = ⟨identifier, lineage, config, registries, loader⟩ := by
  unfold ofSource at loaded
  cases given : Lineage.ofSource config registries.statements Lineage.maxDepth loader identifier
      source with
  | error error => simp [given, bind, Except.bind] at loaded
  | ok lineage =>
      simp only [given, bind, Except.bind, pure, Except.pure, Except.ok.injEq] at loaded
      exact ⟨lineage, rfl, loaded.symm⟩

/-- Whether a template writes a text for some data in a store of its own. -/
private def tells (template : Template) (natives : Natives) (data : Table Value)
    (text : String) : Bool :=
  match template.execute? natives 5 data none with
  | some (.ok (), written) => written == text
  | _ => false

private theorem renders_of_tells {template : Template} {data : Table Value} {text : String}
    (told : template.tells natives data text = true) :
    template.Renders natives (Store.empty.scopeOf data).2 (Store.empty.scopeOf data).1 text := by
  unfold tells at told
  split at told
  case h_1 written found =>
      obtain ⟨after, ran, same⟩ := exists_of_outcome? found
      exact ⟨5, after, ran, same.trans (beq_iff_eq.1 told)⟩
  case h_2 => cases told

/-- Whether a page that is the only template there is holds nothing but that. -/
private def isSimple (config : Config) (source : String) : Bool :=
  match Lineage.load config Registries.standard.statements (.memory [("base", source)]) "base" with
  | .ok lineage => lineage.isSimple
  | .error _ => false

private theorem within_of_isSimple {config : Config} {source : String}
    (simple : isSimple config source = true) {listed : String → Prop} {lineage : Lineage}
    (loaded : Lineage.load config Registries.standard.statements (.memory [("base", source)])
      "base" = .ok lineage) : lineage.Within (.withoutSuper listed) := by
  rw [isSimple, loaded] at simple
  exact Lineage.within_of_isSimple simple

/-- A page with a block inside of another one. -/
private def nested : String :=
  "<\x7b% block outer %\x7d\x7b\x7b x \x7d\x7d\x7b% block inner %\x7d!\x7b% endblock %\x7d" ++
    "\x7b% endblock %\x7d>"

/-- A template that overrides both blocks of the page with calls of `super`. -/
private def wrapping : String :=
  "\x7b% extends 'base' %\x7d" ++
    "\x7b% block outer %\x7d\x7b\x7b super() \x7d\x7d\x7b% endblock %\x7d" ++
    "\x7b% block inner %\x7d\x7b\x7b super() \x7d\x7d\x7b% endblock %\x7d"

/-- The settings of a page that is escaped. -/
private def escaping : Config :=
  { Config.default with autoescape := true }

private theorem simple_nested : isSimple escaping nested = true := by
  decide +kernel

/-- The page as the only template that there is to refer to. -/
def nestedBlocks : Repertoire where
  config := escaping
  registries := .standard
  templates := [("base", nested)]
  listed := (· = "base")
  within := by
    rintro name lineage rfl loaded
    exact within_of_isSimple simple_nested loaded

/-- Some data that is escaped, in a store of its own. -/
private def ampersand : Scope × Store :=
  Store.empty.scopeOf [("x", .plain "&")]

private theorem wrapping_renders :
    (match ofSource "page" wrapping escaping .standard (.memory [("base", nested)]) with
      | .ok child =>
          decide (child.AddsNothing "base") && child.tells .standard [("x", .plain "&")] "<&amp;!>"
      | .error _ => false) = true := by
  decide +kernel

/-- A template that writes a text for some data does nothing else with it under any bound. -/
theorem Renders.eq_of_execute? {template : Template} {data : Table Value} {text : String}
    (renders : template.Renders natives (Store.empty.scopeOf data).2 (Store.empty.scopeOf data).1
      text) {greater : Nat} {outcome : Except TemplateError Unit × String}
    (found : template.execute? natives greater data none = some outcome) :
    outcome = (.ok (), text) := by
  obtain ⟨bound, after, ran, rfl⟩ := renders
  have first := template.execute?_mono data none (Nat.le_max_left bound greater)
    (outcome?_of_render ran)
  have second := template.execute?_mono data none (Nat.le_max_right bound greater) found
  exact Option.some.inj (second.symm.trans first)

/-- Whether a template does something else with some data than to write a text. -/
private def deviates (template : Template) (natives : Natives) (data : Table Value)
    (text : String) : Bool :=
  match template.execute? natives 5 data none with
  | some (.ok (), written) => written != text
  | some (.error _, _) => true
  | none => false

private theorem not_renders_of_deviates {template : Template} {data : Table Value} {text : String}
    (deviant : template.deviates natives data text = true) :
    ¬ template.Renders natives (Store.empty.scopeOf data).2 (Store.empty.scopeOf data).1 text := by
  intro renders
  unfold deviates at deviant
  split at deviant
  case h_1 written found =>
      have same := congrArg Prod.snd (renders.eq_of_execute? found)
      exact bne_iff_ne.1 deviant same
  case h_2 found => cases renders.eq_of_execute? found
  case h_3 => cases deviant

/-- Whether a template does not render as the only one that it can extend: with some data that one
writes a text and this one does not. -/
def TellsApart (registries : Registries) (base source : String) (natives : Natives)
    (data : Table Value) : Prop :=
  ∃ child parent text,
    ofSource "page" source .default registries (.memory [("base", base)]) = .ok child ∧
    load "base" .default registries (.memory [("base", base)]) = .ok parent ∧
    parent.Renders natives (Store.empty.scopeOf data).2 (Store.empty.scopeOf data).1 text ∧
    ¬ child.Renders natives (Store.empty.scopeOf data).2 (Store.empty.scopeOf data).1 text

/-- Whether this can be seen from a text under a bound that is large enough. -/
private def tellsApart (registries : Registries) (base source : String) (natives : Natives)
    (data : Table Value) (text : String) : Bool :=
  match ofSource "page" source .default registries (.memory [("base", base)]),
    load "base" .default registries (.memory [("base", base)]) with
  | .ok child, .ok parent => parent.tells natives data text && child.deviates natives data text
  | _, _ => false

private theorem TellsApart.of_tellsApart {registries : Registries} {base source text : String}
    {data : Table Value} (told : tellsApart registries base source natives data text = true) :
    TellsApart registries base source natives data := by
  unfold tellsApart at told
  split at told
  case h_1 child parent loaded found =>
      obtain ⟨writes, deviant⟩ := Bool.and_eq_true_iff.1 told
      exact ⟨child, parent, text, loaded, found, renders_of_tells writes,
        not_renders_of_deviates deviant⟩
  case h_2 => cases told

/-- The usual capabilities, with another name for the statement of blocks. -/
def renamed : Registries :=
  { Registries.standard with
    statements := Registries.standardStatements.update (.ofEntries "statement" [("part", .block)]) }

/-- A page with a block that calls a macro of the page. -/
private def greeted : String :=
  "\x7b% macro m() %\x7dhi\x7b% endmacro %\x7d" ++
    "\x7b% block a %\x7d\x7b\x7b m() \x7d\x7d\x7b% endblock %\x7d"

/-- A template that overrides the block, by the other name, with a call of `super`. -/
private def parted : String :=
  "\x7b% extends 'base' %\x7d\x7b% part a %\x7d\x7b\x7b super() \x7d\x7d\x7b% endblock %\x7d"

/-- Native functions that tell how many scopes the scope of a macro lies in. -/
def surveying : Natives := fun _ arguments =>
  match arguments.at? 0 with
  | some (.closure closure) => .plain (toString closure.environment.scope.ancestors.length)
  | _ => .nil

/-- A page with a block in which a macro is defined and shown to a native function. -/
private def charted : String :=
  "\x7b% block a %\x7d\x7b% macro m() %\x7d\x7b% endmacro %\x7d\x7b\x7b f(m) \x7d\x7d" ++
    "\x7b% endblock %\x7d"

/-- A template that overrides the block with a call of `super`. -/
private def enclosing : String :=
  "\x7b% extends 'base' %\x7d\x7b% block a %\x7d\x7b\x7b super() \x7d\x7d\x7b% endblock %\x7d"

private theorem simple_charted : isSimple .default charted = true := by
  decide +kernel

/-- This page as the only template that there is to refer to. -/
def chartedBlock : Repertoire where
  config := .default
  registries := .standard
  templates := [("base", charted)]
  listed := (· = "base")
  within := by
    rintro name lineage rfl loaded
    exact within_of_isSimple simple_charted loaded

/-- Data with a native function. -/
private def functional : Table Value :=
  [("f", .function (.native "f"))]

private theorem enclosing_addsNothing :
    (match ofSource "page" enclosing .default .standard (.memory [("base", charted)]) with
      | .ok child => decide (child.AddsNothing "base")
      | .error _ => false) = true := by
  decide +kernel

end Template

end TemplateEngine
