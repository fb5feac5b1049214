import TemplateEngine.Proofs.Capturing

/-!
# Less deep renderings

A rendering that succeeds at a depth succeeds at every lesser one.  It writes the same there,
and all scopes that existed before bind the same afterwards.  So the limit of the depth can make
a rendering fail, but it changes nothing about one that succeeds.

This is about renderings in which all statements are built in, and native functions do not look
into what can be called: a registered statement may show the depth, and a native function the
depth of the `super` that it is given.  That all statements are built in is a property of the
rendering at the greater depth.  It is one of the templates alone if none of them has another
one, and no callable in the data leads to one.
-/

namespace TemplateEngine

/-! ## Pages and nodes -/

/-- What is rendered in an environment: the page of its template, or some nodes. -/
inductive Passage where
  | page
  | fragment (nodes : List Node)

namespace Passage

/-- Render a passage in an environment at a depth. -/
def render (interpreter : Interpreter) (environment : Environment) (depth : Nat) :
    Passage → Run TemplateError Unit
  | .page => interpreter.execute environment depth
  | .fragment nodes => interpreter.render environment depth nodes

/-- Whether a passage is within a vocabulary. -/
def Within (vocabulary : Vocabulary) (environment : Environment) : Passage → Prop
  | .page => environment.lineage.Within vocabulary
  | .fragment nodes => Node.AllWithin vocabulary nodes

theorem within_unrestricted (environment : Environment) :
    ∀ passage : Passage, passage.Within .unrestricted environment
  | .page => environment.lineage.within_unrestricted
  | .fragment nodes => Node.allWithin_unrestricted nodes

/-- A passage is rendered in corresponding ways by interpreters that correspond. -/
theorem render_related {comparison : Comparison} {correspondence : Correspondence comparison}
    {world : comparison.World} {first second : Interpreter} {firstDepth secondDepth : Nat}
    {environment : Environment}
    (interprets : correspondence.Interprets first firstDepth second secondDepth)
    (environments : correspondence.Environments world environment environment) (passage : Passage)
    (inside : passage.Within correspondence.vocabulary environment) :
    comparison.Renders world comparison.done (passage.render first environment firstDepth)
      (passage.render second environment secondDepth) := by
  cases passage with
  | page => exact Correspondence.execute_related interprets environments rfl inside
  | fragment nodes => exact interprets.render inside environments

/-- Whether a passage, rendered at a depth, keeps to a vocabulary with all that is rendered for it:
there is an outcome although pieces outside the vocabulary have none. -/
def KeepsTo (natives : Natives) (vocabulary : Vocabulary) (bound : Nat) (environment : Environment)
    (depth : Nat) (passage : Passage) (state : RunState) : Prop :=
  passage.render (Interpreter.keeping natives vocabulary bound) environment depth state ≠ none

variable {natives : Natives} {bound depth lesser : Nat} {environment : Environment}
variable {state after : RunState} {passage : Passage} {vocabulary : Vocabulary}

theorem KeepsTo.keeping_eq
    (keeps : passage.KeepsTo natives vocabulary bound environment depth state) :
    passage.render (Interpreter.keeping natives vocabulary bound) environment depth state =
      passage.render (Interpreter.bounded natives bound) environment depth state := by
  refine Interpreter.keeping_eq_bounded (passage.render · environment depth) ?_ keeps
  exact render_related (Discipline.keeping_interprets natives vocabulary bound depth)
    (Discipline.unrestricted_environments .excused environment) passage
    (passage.within_unrestricted environment)

/-- A passage within a vocabulary that is about macros, too, keeps to it if the templates and the
callables do to which it can lead. -/
theorem keepsTo_of_confined (macros : vocabulary.macros) (bindable : vocabulary.target "super")
    (keeps : natives.Keeps (Value.Confined vocabulary))
    (confined : environment.Confined vocabulary)
    (held : state.store.Holds (Value.Every (Value.Confined vocabulary)))
    (inside : passage.Within vocabulary environment)
    (ran : passage.render (Interpreter.bounded natives bound) environment depth state ≠ none) :
    passage.KeepsTo natives vocabulary bound environment depth state := by
  have environments :
      ((Discipline.confining vocabulary macros).correspondence .matched).Environments ()
        environment environment :=
    ⟨⟨confined, rfl⟩, ⟨True.intro, rfl⟩⟩
  have related := render_related
    (Discipline.confining_interprets macros bindable keeps bound depth) environments passage inside
  rcases Discipline.outcome_of_ends (Discipline.ends_of_related related
      ⟨⟨held, rfl⟩, ⟨True.intro, rfl⟩⟩) with ⟨_, impossible⟩ | ⟨same, _⟩
  · cases impossible
  · rw [KeepsTo, same]
    exact ran

end Passage

/-! ## Depths -/

/-- Two ends of renderings that started in the same state: they have written the same, and the
frames that there were bind the same.  Newer frames may differ in the depths that calls of `super`
have recorded. -/
structure RunState.Agree (before first second : RunState) : Prop where
  writes : first.sink.writes = second.sink.writes
  bindings : ∀ frame < before.store.frames.size,
    first.store.bindings frame = second.store.bindings frame
  stores : first.store.Lifts .builtIn second.store

namespace Passage

variable {natives : Natives} {bound depth lesser : Nat} {environment : Environment}
variable {state after : RunState} {passage : Passage}

/-- Depth is transparent.  A page or nodes that are rendered at a depth are rendered at every
lesser one: they write the same, and leave the same bindings in the scope that they are rendered
in and in all others that there were.  So the limit of the depth only ever makes a rendering
fail.  This is for renderings in which all statements are built in. -/
theorem depth_transparent (respects : natives.Respects (Value.Lifts .builtIn))
    (present : ∀ frame ∈ environment.scope.chain, frame < state.store.frames.size)
    (less : lesser ≤ depth)
    (builtIn : passage.KeepsTo natives .builtIn bound environment depth state)
    (ran : passage.render (Interpreter.bounded natives bound) environment depth state =
      some (.ok (), after)) :
    ∃ final,
      passage.render (Interpreter.bounded natives bound) environment lesser state =
          some (.ok (), final) ∧
        RunState.Agree state after final := by
  have related := render_related
    (Correspondence.keeping_lifts respects bound (Vocabulary.builtIn_lowers less) true)
    ⟨rfl, rfl, .of_present present⟩ passage (passage.within_unrestricted environment)
  have states : (Comparison.lifting .builtIn).state
      (List.replicate state.store.frames.size true) state state :=
    ⟨.refl List.length_replicate, rfl, .inr rfl⟩
  rw [← builtIn.keeping_eq] at ran
  obtain ⟨later, final, grown, ended, stores, writes, _⟩ :=
    Comparison.lifting_ok related states ran
  exact ⟨final, ended, writes, fun frame => stores.bindings_eq grown, stores.lifts⟩

/-- A page that greets with a macro, without any other template. -/
def doorway : Environment :=
  { Interpreter.solitary with
    lineage := ⟨⟨"doorway",
      Node.defineAndCall "m" Interpreter.welcome .start .start .start .start .start, [],
      [("m", ⟨"m", [], Interpreter.welcome, .start⟩)]⟩, []⟩ }

theorem doorway_confined : doorway.Confined .builtIn where
  lineage := by
    have body : Node.AllWithin .builtIn Interpreter.welcome.nodes :=
      ⟨True.intro, ⟨True.intro, True.intro, True.intro⟩, True.intro⟩
    have parameters : Expression.ParametersWithin .builtIn [] := List.forall_mem_nil _
    have nodes : Node.AllWithin .builtIn doorway.lineage.layer.nodes :=
      ⟨⟨True.intro, True.intro, fun _ => ⟨parameters, body⟩⟩,
        ⟨⟨True.intro, True.intro, True.intro⟩, True.intro, True.intro⟩, True.intro⟩
    exact List.forall_mem_singleton.2 ⟨nodes, List.forall_mem_nil _,
      List.forall_mem_singleton.2 ⟨True.intro, parameters, body⟩⟩
  referred reached loaded := by
    rw [reached.eq_empty] at loaded
    cases loaded

/-- A macro is called at the greatest depth at which it may be, and at none. -/
theorem depth_transparent_doorway :
    let state : RunState := ⟨(Store.empty.scopeOf [("user", .plain "<Ada>")]).2, .unlimited⟩
    let run (depth : Nat) := page.render (Interpreter.bounded .standard 2) doorway depth state
    (∀ frame ∈ doorway.scope.chain, frame < state.store.frames.size) ∧
      page.KeepsTo .standard .builtIn 2 doorway 31 state ∧
      (∃ error after, run 32 = some (.error error, after)) ∧
      ∃ after final, run 31 = some (.ok (), after) ∧ run 0 = some (.ok (), final) ∧
        after.sink.text = "Hi &lt;Ada&gt;" ∧ RunState.Agree state after final := by
  intro state run
  have written : "Hi " ++ Interpreter.writtenText true (.plain "<Ada>") = "Hi &lt;Ada&gt;" := by
    decide
  have ran : ∃ after, run 31 = some (.ok (), after) ∧ after.sink.text = "Hi &lt;Ada&gt;" := by
    rw [← written]
    exact ⟨_, rfl, rfl⟩
  have present : ∀ frame ∈ doorway.scope.chain, frame < state.store.frames.size := by decide
  obtain ⟨after, ran, text⟩ := ran
  have natives : Natives.standard.Keeps (Value.Confined .builtIn) :=
    Natives.standard_indifferent.keeps _ (Value.aboutCallables_confined _) fun _ => True.intro
  have held : state.store.Holds (Value.Every (Value.Confined .builtIn)) :=
    Store.holds_scopeOf (List.forall_mem_singleton.2 True.intro)
  have keeps : page.KeepsTo .standard .builtIn 2 doorway 31 state :=
    keepsTo_of_confined True.intro True.intro natives doorway_confined held
      doorway_confined.lineage (Option.ne_none_iff_exists'.2 ⟨_, ran⟩)
  obtain ⟨final, ended, agree⟩ := depth_transparent Natives.standard_respects present
    (Nat.zero_le 31) keeps ran
  exact ⟨present, keeps, ⟨_, _, rfl⟩, after, final, ran, ended, text, agree⟩

/-- Whether a passage that is rendered in a state shows the depth: it writes another text at no
depth than at the first one. -/
def ShowsDepth (natives : Natives) (bound : Nat) (environment : Environment) (state : RunState)
    (passage : Passage) : Prop :=
  ∃ after final,
    passage.render (Interpreter.bounded natives bound) environment 1 state =
        some (.ok (), after) ∧
      passage.render (Interpreter.bounded natives bound) environment 0 state =
          some (.ok (), final) ∧
        final.sink.text ≠ after.sink.text

theorem showsDepth_of_texts {text other : String}
    (deeper : ∃ after,
      passage.render (Interpreter.bounded natives bound) environment 1 state =
        some (.ok (), after) ∧ after.sink.text = text)
    (shallower : ∃ final,
      passage.render (Interpreter.bounded natives bound) environment 0 state =
        some (.ok (), final) ∧ final.sink.text = other)
    (distinct : other ≠ text) : passage.ShowsDepth natives bound environment state := by
  obtain ⟨after, ran, shown⟩ := deeper
  obtain ⟨final, ended, shownLess⟩ := shallower
  exact ⟨after, final, ran, ended, by rwa [shown, shownLess]⟩

/-- A registered statement shows the depth, and so does a native function that looks into `super`
in a page whose statements are built in. -/
theorem passage_shows_depth :
    (fragment Interpreter.tracer.nodes).ShowsDepth .standard 1 Interpreter.solitary
        ⟨(Store.empty.scopeOf []).2, .unlimited⟩ ∧
      page.KeepsTo .sounding .builtIn 2 Interpreter.overriding 1 Interpreter.looking ∧
      page.ShowsDepth .sounding 2 Interpreter.overriding Interpreter.looking := by
  refine ⟨?_, ?_, ?_⟩
  · exact showsDepth_of_texts ⟨_, rfl, (by decide : _ = "[box:page@1:]")⟩
      ⟨_, rfl, (by decide : _ = "[box:page@0:]")⟩ (by decide)
  · have placed : Node.AllWithin .builtIn Interpreter.placing.nodes :=
      Interpreter.placing_within True.intro True.intro
    have confined : Interpreter.overriding.Confined .builtIn :=
      Interpreter.overriding_confined True.intro True.intro placed
    exact keepsTo_of_confined True.intro True.intro
      (Natives.sounding_keeps (Value.aboutCallables_confined _)) confined
      (Interpreter.looking_holds .builtIn) confined.lineage (Option.some_ne_none _)
  · exact showsDepth_of_texts ⟨_, rfl, (by decide : _ = "1")⟩ ⟨_, rfl, (by decide : _ = "0")⟩
      (by decide)

end Passage

end TemplateEngine
