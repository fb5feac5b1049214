import TemplateEngine.Proofs.Loading
import TemplateEngine.Proofs.Nesting
import TemplateEngine.Proofs.Vouching

/-!
# Autoescaping

With autoescaping on, a string is marked safe only if it was escaped or rendered.  So all
safe strings that a rendering comes by are clean, as long as the templates have clean
texts, do without the filters that vouch for what they are given, and start from data that
is not marked.  What output tags write is then clean, unless they write the displayed form
of a list, a map or a callable.
-/

namespace TemplateEngine

/-! ## Templates and data -/

/-- The vocabulary of clean texts and of the filters that do not vouch for a text. -/
def Vocabulary.escaping : Vocabulary :=
  { Vocabulary.unrestricted with
    text := Text.Clean
    filter := fun used => used ∉ ["safe", "join", "replace"]
    registered := False }

/-- The loaders that are derived from a loader, one after the other, for the templates
found with it. -/
inductive Loader.Reaches (origin : Loader) : Loader → Prop where
  | refl : Reaches origin origin
  | inherit {loader derived : Loader} {name : String} :
      Reaches origin loader → loader.inherit name = .ok derived → Reaches origin derived

/-- No other loader is derived from the empty one. -/
theorem Loader.Reaches.eq_empty {loader : Loader} (reached : Loader.empty.Reaches loader) :
    loader = .empty := by
  induction reached with
  | refl => rfl
  | inherit _ inherited same =>
      subst same
      cases inherited

namespace Template

/-- A template within a vocabulary, with every template that it can refer to, directly or
through others. -/
structure Within (vocabulary : Vocabulary) (template : Template) : Prop where
  lineage : template.lineage.Within vocabulary
  referred : ∀ {loader identifier lineage}, template.loader.Reaches loader →
    Lineage.load template.config template.registries.statements loader identifier =
        .ok lineage →
      lineage.Within vocabulary

/-- A template that is rendered with autoescaping and uses nothing that vouches for a
text. -/
structure Escapes (template : Template) : Prop where
  autoescape : template.config.autoescape = true
  registries : template.registries = .standard
  within : template.Within .escaping

/-- An environment in which a template, or one that it refers to, is rendered. -/
structure Serves (template : Template) (environment : Environment) : Prop where
  config : environment.config = template.config
  registries : environment.registries = template.registries
  loader : template.loader.Reaches environment.loader
  lineage : environment.lineage.Within .escaping

theorem Serves.within {template : Template} {environment : Environment}
    (serves : template.Serves environment) (scope : Scope) :
    template.Serves (environment.within scope) :=
  ⟨serves.config, serves.registries, serves.loader, serves.lineage⟩

end Template

/-- A template that is referred to is rendered in such an environment again. -/
theorem Template.Serves.refer {template : Template} {environment included : Environment}
    {filename : String} (within : template.Within .escaping)
    (serves : template.Serves environment)
    (referred : environment.refer filename = .ok included) : template.Serves included := by
  obtain ⟨derived, identifier, lineage, inherited, _, loaded, rfl⟩ :=
    Environment.exists_of_refer referred
  have reached := serves.loader.inherit inherited
  rw [serves.config, serves.registries] at loaded
  exact ⟨serves.config, serves.registries, reached, within.referred reached loaded⟩

/-! ## Values -/

namespace Value

/-- Whether a value is neither marked safe nor callable. -/
def Unmarked : Value → Prop
  | .string _ safe => safe = false
  | .closure _ => False
  | .function _ => False
  | _ => True

mutual

/-- No value of JSON data is marked or callable. -/
theorem unmarked_ofJson : ∀ json, Every Unmarked (ofJson json)
  | .null => True.intro
  | .bool _ => True.intro
  | .integer _ => True.intro
  | .float _ => True.intro
  | .string _ => rfl
  | .array items => unmarked_ofJsonItems items
  | .object members => unmarked_ofJsonMembers members

private theorem unmarked_ofJsonItems : ∀ items, EveryItem Unmarked (ofJsonItems items)
  | [] => True.intro
  | item :: rest => ⟨unmarked_ofJson item, unmarked_ofJsonItems rest⟩

private theorem unmarked_ofJsonMembers :
    ∀ members, EveryEntry Unmarked (ofJsonMembers members)
  | [] => True.intro
  | (_, value) :: rest => ⟨unmarked_ofJson value, unmarked_ofJsonMembers rest⟩

end

/-- Whether a safe string is clean, and a callable renders something that the template
refers to. -/
def Sound (template : Template) : Value → Prop
  | .string content safe => safe = true → Text.Clean content
  | .closure callee =>
      template.Serves callee.environment ∧ callee.definition.Within .escaping
  | .function (.native _) => False
  | .function (.super environment _ bodies) =>
      template.Serves environment ∧ ∀ body ∈ bodies, Node.AllWithin .escaping body.nodes
  | _ => True

variable {template : Template}

theorem aboutMarks_sound (template : Template) : AboutMarks (Sound template) where
  nil := True.intro
  bool _ := True.intro
  number _ := True.intro
  plain _ marked := by cases marked
  string := Iff.rfl
  error _ := True.intro

theorem basic_sound (template : Template) : Basic (Sound template) :=
  (aboutMarks_sound template).toBasic

theorem sound_of_unmarked {value : Value} (unmarked : value.Unmarked) :
    value.Sound template := by
  cases value with
  | string content safe =>
      intro marked
      rw [show safe = false from unmarked] at marked
      cases marked
  | closure callee => exact unmarked.elim
  | function callee => exact unmarked.elim
  | _ => exact True.intro

end Value

/-! ## Filters -/

namespace Filter

open Value

variable {template : Template}

/-- Only the filters that replace and join mix texts into a safe string. -/
theorem mixesClean_of_notMem {filter : Filter} (autoescape : Bool) (value : Value)
    (arguments : Arguments) (vouches : filter ∉ [.safe, .join, .replace]) :
    filter.MixesClean autoescape value arguments := by
  cases filter with
  | join => simp at vouches
  | replace => simp at vouches
  | _ => exact True.intro

/-- The filters that do not vouch for a text. -/
theorem every_apply {filter : Filter} {value : Value} {arguments : Arguments}
    (autoescape : Bool) (vouches : filter ∉ [.safe, .join, .replace])
    (every : Every (Sound template) value)
    (positional : ∀ argument ∈ arguments.positional, Every (Sound template) argument)
    (keyword : ∀ argument ∈ arguments.keyword, Every (Sound template) argument.2) :
    Every (Sound template) (filter.apply autoescape value arguments) :=
  (every_apply_iff (aboutMarks_sound template) autoescape (List.ne_of_not_mem_cons vouches) every
    positional keyword).2 (mixesClean_of_notMem autoescape value arguments vouches)

theorem mem_of_standard {used : String} {found : Filter}
    (listed : Registries.standardFilters.get? used = some found)
    (known : used ∉ ["safe", "join", "replace"]) :
    found ∉ ([.safe, .join, .replace] : List Filter) := by
  have named : ∀ entry ∈ Registries.standardFilters.entries,
      entry.2 ∈ ([.safe, .join, .replace] : List Filter) →
        entry.1 ∈ ["safe", "join", "replace"] := by decide
  exact fun vouches => known (named _ (Table.mem_of_lookup listed) vouches)

end Filter

/-! ## The discipline of escaping -/

namespace Discipline

private theorem clean_trimmedText {text : String} (trim : Trim) (clean : Text.Clean text) :
    Text.Clean (Interpreter.trimmedText text trim) := by
  have dropped : ∀ drops : Char → Bool, Text.CleanList (text.toList.dropWhile drops) :=
    fun drops => Text.CleanList.subset clean (List.dropWhile_subset drops)
  unfold Interpreter.trimmedText
  rw [Text.clean_ofList]
  split
  · refine Text.CleanList.subset ?_ (Text.dropWhileEnd_subset _ _)
    split
    · exact dropped _
    · exact clean
  · split
    · exact dropped _
    · exact clean

private theorem every_closures {template : Template} {environment : Environment}
    (serves : template.Serves environment) :
    ∀ entry ∈ environment.closures, entry.2.Every (Value.Sound template) := by
  intro entry member
  rcases List.mem_map.1 member with ⟨definition, present, rfl⟩
  have listed := List.mem_mergeSort.1 present
  exact ⟨serves,
    (serves.lineage environment.lineage.layer List.mem_cons_self).macros definition listed⟩

/-- The discipline of a rendering in which every safe string is clean. -/
def escaping (template : Template) (escapes : template.Escapes) : Discipline where
  World := Unit
  Later _ _ := True
  vocabulary := .escaping
  store _ frames := frames.Holds (Value.Every (Value.Sound template))
  sink _ sink := Text.Clean sink.text
  value _ value := value.Every (Value.Sound template)
  setting _ environment := template.Serves environment
  context _ environment := environment.registries = template.registries
  scope _ _ := True
  imported _ environment := template.Serves environment
  later_refl _ := True.intro
  later_trans _ _ := True.intro
  sink_later _ clean := clean
  value_later _ every := every
  setting_later _ serves := serves
  context_later _ same := same
  scope_later _ _ := True.intro
  sink_unlimited _ := Text.clean_empty
  literal _ literal := (Value.basic_sound template).every_literal literal
  list every := Value.every_list.2 every
  map every := Value.every_map.2 every
  member every selected := every.member selected
  item every selected := (Value.basic_sound template).every_item every selected
  operation _ left right applied :=
    (Value.basic_sound template).every_operation left right applied
  items _ _ every iterated := (Value.basic_sound template).every_items every iterated
  bindings _ every given := every.bindings given
  within scope serves := serves.within scope
  context_setting serves := serves.registries
  lenient same := same
  filter := by
    intro world environment used target result arguments same known every positional keyword
      applied
    refine Expression.every_of_applyFilter (fun filter listed _ => ?_) applied
    rw [same, escapes.registries] at listed
    exact Filter.every_apply _ (Filter.mem_of_standard listed known) every positional keyword
  closure serves _ within := ⟨serves, within True.intro⟩
  rendered serves clean := fun _ => clean
  refer _ serves referred := serves.refer escapes.within referred
  write := by
    intro world sink text trim clean written
    rw [Sink.text_add, Text.clean_append]
    exact ⟨written, clean_trimmedText trim clean⟩
  writeBox _ known _ := known.elim
  openChild _ held := ⟨(), True.intro, held.addFrame _, True.intro⟩
  bind _ _ every held := held.bind every _
  bindModule := by
    intro world scope environment frames inContext _ serves held
    have sound := every_closures (serves.within
      (if inContext then frames.childScope scope else frames.detachedScope scope).1)
    refine ⟨(), True.intro, Store.Holds.bindAll ?_ sound _, sound⟩
    cases inContext with
    | true => exact held.addFrame _
    | false => exact held.addFrame _

/-- What a template uses by its name keeps every safe string clean. -/
def escapingUses (template : Template) (escapes : template.Escapes) (natives : Natives) :
    (escaping template escapes).Uses natives where
  outer _ _ := True
  lookup _ _ held looked _ := held.lookup looked
  native called _ _ _ := called.elim
  closure_setting sound := sound.1
  closure_outer _ := True.intro
  closure_within sound := sound.2
  super_setting sound := sound.1
  super_outer _ := True.intro
  super_within sound := sound.2
  super serves _ within := ⟨serves, within⟩
  bindable := True.intro
  outer_scope _ := True.intro
  outer_later _ _ := True.intro
  blocks serves _ member := by
    rcases List.mem_filterMap.1 member with ⟨layer, listed, found⟩
    exact (serves.lineage layer listed).blocks _ (Table.mem_of_lookup found)
  included_setting serves := serves
  included_within serves := serves.lineage
  openChild _ held := ⟨(), True.intro, held.addFrame _, True.intro⟩
  root _ _ := True
  root_scope _ := True.intro
  root_later _ _ := True.intro
  newScope held := ⟨(), True.intro, held.addFrame _, True.intro⟩
  release _ held := held.release _

end Discipline

/-! ## What is written -/

namespace Value

/-- Whether a value is a list, a map, or can be called. -/
def isStructured (value : Value) : Bool :=
  value.isList || value.isMap || value.isCallable

/-- Everything else is written clean. -/
theorem clean_writtenText {template : Template} {value : Value}
    (every : Every (Sound template) value) (scalar : value.isStructured = false)
    (present : value.isError = false) : Text.Clean (Interpreter.writtenText true value) := by
  cases value with
  | nil => exact Text.clean_empty
  | bool value => cases value <;> decide
  | number value => exact Number.clean_text value
  | string content safe =>
      cases safe with
      | false => exact Text.clean_escapeMarkup content
      | true => exact every rfl
  | list items => cases scalar
  | map entries => cases scalar
  | closure callee => cases scalar
  | function callee => cases scalar
  | error message => cases present

end Value

namespace Interpreter

/-- Write the value of an output tag unless it is a list, a map or callable. -/
def scalarOutput (alarm : TemplateError) (environment : Environment) (value : Value) :
    Run TemplateError Unit :=
  if value.isStructured then throw alarm else writeOutput environment value

end Interpreter

namespace Discipline

theorem scalarOutput_related {template : Template} (escapes : template.Escapes)
    (absence : Absence) (alarm : TemplateError) {environment : Environment} {value : Value}
    (serves : template.Serves environment) (every : value.Every (Value.Sound template))
    (present : value.isError = false) :
    ((escaping template escapes).comparison absence).Renders ()
      ((escaping template escapes).comparison absence).done
      (Interpreter.scalarOutput alarm environment value)
      (Interpreter.scalarOutput alarm environment value) := by
  have autoescape : environment.config.autoescape = true := by
    rw [serves.config, escapes.autoescape]
  unfold Interpreter.scalarOutput Interpreter.writeOutput
  rw [autoescape]
  split
  · exact Comparison.related_throw rfl
  · rename_i scalar
    apply related_write
    intro sink clean
    have written := Value.clean_writtenText every (Bool.eq_false_iff.2 scalar) present
    change Text.Clean (sink.add _).text
    rw [Sink.text_add, Text.clean_append]
    exact ⟨clean, written⟩

end Discipline

namespace Template

/-- Whether no output tag of a rendering has a list, a map or a callable as its value, so
that the rendering is the same where that is an error, whichever it is. -/
def WritesScalars (natives : Natives) (bound : Nat) (template : Template)
    (data : Table Value) (limit : Option Nat) : Prop :=
  ∀ alarm,
    template.outcome? (Interpreter.emitting natives (Interpreter.scalarOutput alarm) bound)
        data limit =
      template.execute? natives bound data limit

variable {natives : Natives} {template : Template}

/-- Wherever a list, a map or a callable is not written, the text is clean. -/
theorem clean_of_outcome? {bound : Nat} {data : Table Value} {limit : Option Nat}
    {result : Except TemplateError Unit} {text : String} (escapes : template.Escapes)
    (unmarked : ∀ entry ∈ data, entry.2.Every Value.Unmarked) (alarm : TemplateError)
    (ran : template.outcome?
        (Interpreter.emitting natives (Interpreter.scalarOutput alarm) bound) data limit =
      some (result, text)) :
    Text.Clean text := by
  have interprets := (Discipline.escapingUses template escapes natives).emitting_interprets
    (Discipline.scalarOutput_related escapes .matched alarm) (by simp) bound 0
  have setting : ∀ scope, template.Serves (template.environment scope) := fun scope =>
    ⟨rfl, rfl, .refl, escapes.within.lineage⟩
  have rendered :
      ((Discipline.escaping template escapes).comparison .matched).Renders ()
        ((Discipline.escaping template escapes).comparison .matched).done
        (template.render
          (Interpreter.emitting natives (Interpreter.scalarOutput alarm) bound)
          (Store.empty.scopeOf data).1)
        (template.render
          (Interpreter.emitting natives (Interpreter.scalarOutput alarm) bound)
          (Store.empty.scopeOf data).1) :=
    (Discipline.escapingUses template escapes natives).related_render interprets template _
      (fun _ => setting) escapes.within.lineage fun _ held => held.bindAll (held _) _
  have stored : (Store.empty.scopeOf data).2.Holds (Value.Every (Value.Sound template)) :=
    Store.holds_scopeOf fun entry member =>
      Value.Every.mono (fun _ => Value.sound_of_unmarked) _ (unmarked entry member)
  rcases exists_of_outcome? ran with ⟨after, outcome, rfl⟩
  have start : ((Discipline.escaping template escapes).comparison .matched).state ()
      ⟨(Store.empty.scopeOf data).2, ⟨#[], limit⟩⟩
      ⟨(Store.empty.scopeOf data).2, ⟨#[], limit⟩⟩ :=
    ⟨⟨stored, rfl⟩, ⟨Text.clean_empty, rfl⟩⟩
  have ended := Discipline.ends_of_related rendered start
  rw [outcome] at ended
  rcases ended with ⟨_, _, ⟨_, ⟨clean, _⟩⟩, _⟩
  exact clean

/-- With autoescaping, what a rendering writes is clean, also if it fails: templates with
clean texts and without the filters that vouch for a text, and unmarked data, bring no
delimiter of markup into the output unless a list, a map or a callable is written. -/
theorem autoescape_sound {bound : Nat} {data : Table Value} {limit : Option Nat}
    {result : Except TemplateError Unit} {text : String} (escapes : template.Escapes)
    (unmarked : ∀ entry ∈ data, entry.2.Every Value.Unmarked)
    (scalars : template.WritesScalars natives bound data limit)
    (ran : template.execute? natives bound data limit = some (result, text)) :
    Text.Clean text :=
  clean_of_outcome? escapes unmarked .output ((scalars .output).trans ran)

/-- A template that writes a name between two words, with autoescaping. -/
def greeting : Template where
  identifier := "greeting"
  lineage :=
    ⟨⟨"greeting",
      [.data "Hello " ⟨false, false⟩ .start, .output ⟨.name "name" .start, none, none, .start⟩,
        .data ", bye" ⟨false, false⟩ .start], [], []⟩, []⟩
  config := { Config.default with autoescape := true }
  registries := .standard
  loader := .empty

theorem greeting_escapes : greeting.Escapes where
  autoescape := rfl
  registries := rfl
  within := by
    constructor
    · intro layer member
      rw [List.mem_singleton.1 member]
      constructor
      · have before : Text.Clean "Hello " := by decide
        have after : Text.Clean ", bye" := by decide
        exact ⟨before, ⟨True.intro, True.intro, True.intro⟩, after, True.intro⟩
      · intro entry member
        cases member
      · intro entry member
        cases member
    · intro loader identifier lineage reached loaded
      rw [reached.eq_empty] at loaded
      cases loaded

/-- Markup in the data is written escaped. -/
theorem autoescape_sound_greeting :
    greeting.Escapes ∧
      (∀ entry ∈ [("name", Value.plain "<b>")], entry.2.Every Value.Unmarked) ∧
      greeting.WritesScalars (fun _ _ => .nil) 1 [("name", .plain "<b>")] none ∧
      greeting.execute? (fun _ _ => .nil) 1 [("name", .plain "<b>")] none =
        some (.ok (), "Hello &lt;b&gt;, bye") ∧
      Text.Clean "Hello &lt;b&gt;, bye" := by
  have written :
      "Hello " ++ Interpreter.writtenText true (.plain "<b>") ++ ", bye" =
        "Hello &lt;b&gt;, bye" := by
    decide
  have unmarked :
      ∀ entry ∈ [("name", Value.plain "<b>")], entry.2.Every Value.Unmarked :=
    List.forall_mem_singleton.2 rfl
  have ran : greeting.execute? (fun _ _ => .nil) 1 [("name", .plain "<b>")] none =
      some (.ok (), "Hello &lt;b&gt;, bye") := by
    rw [← written]
    rfl
  have scalars :
      greeting.WritesScalars (fun _ _ => .nil) 1 [("name", .plain "<b>")] none := by
    intro alarm
    rw [ran, ← written]
    rfl
  exact ⟨greeting_escapes, unmarked, scalars, ran,
    autoescape_sound greeting_escapes unmarked scalars ran⟩

end Template

end TemplateEngine
