import TemplateEngine.Proofs.Confining
import TemplateEngine.Proofs.Termination
import TemplateEngine.Proofs.Truncation

/-!
# Bodies that are rendered in place, captured, or called

A body can be rendered in a scope inside the current one, its text can be captured under a
name that is then written, and it can be made a macro without parameters that is then called.
The three differ in the depth at which the body is rendered, in the sink that it writes to, in
whether its name is bound meanwhile, and in where the text is marked safe.  The text that is
written in the end is the same.

It is compared with the text of the body at the depth inside a macro call.  A macro is called at
that depth, but its name is bound while its body is rendered, so that nothing may read it.  The
other two ways are one level less deep, so that nothing may show the depth: no statement that a
program registers, and no native function that looks into the `super` that it is given.  A
captured text is bound after its body is rendered, so that its name does not matter.
-/

namespace TemplateEngine

/-! ## Runs that write a text -/

namespace Sink

theorem utf8ByteSize_text (texts : List String) (room : Option Nat) :
    (Sink.text ⟨texts.toArray, room⟩).utf8ByteSize = byteCount texts := by
  induction texts with
  | nil => rfl
  | cons text rest inductionHypothesis =>
      have joined := text_append #[text] rest room
      have alone : Sink.text ⟨#[text], room⟩ = text := by simp [Sink.text]
      rw [alone, show #[text] ++ rest.toArray = (text :: rest).toArray by simp] at joined
      rw [joined, String.utf8ByteSize_append, inductionHypothesis, byteCount]

/-- A sink with room for the text of some writes takes them in turn. -/
theorem offer_of_takes {sink : Sink} {texts : List String} {room : Option Nat}
    (takes : sink.takes (Sink.text ⟨texts.toArray, room⟩) = true) :
    ∃ left, sink.offer texts = .ok ⟨sink.writes ++ texts.toArray, left⟩ := by
  rcases sink with ⟨before, limit⟩
  cases limit with
  | none => exact ⟨none, offer_of_unlimited before texts⟩
  | some limit =>
      have fits : byteCount texts ≤ limit := by
        rw [← utf8ByteSize_text texts room]
        simpa [Sink.takes] using takes
      exact ⟨_, offer_of_le before fits⟩

end Sink

namespace Run

/-- Whether a run succeeds and adds a text to what the sink holds. -/
def Writes (run : Run TemplateError Unit) (state : RunState) (text : String) : Prop :=
  ∃ after, run state = some (.ok (), after) ∧ after.sink.text = state.sink.text ++ text

variable {run : Run TemplateError Unit} {store : Store} {text : String}

/-- A run writes one text only. -/
theorem Writes.unique {state : RunState} {other : String} (writes : run.Writes state text)
    (others : run.Writes state other) : text = other := by
  obtain ⟨after, ran, written⟩ := writes
  obtain ⟨_, again, rewritten⟩ := others
  rw [ran] at again
  cases again
  rw [written] at rewritten
  exact (String.append_right_inj _).1 rewritten

/-- What a run that may be cut writes to one sink without a limit it writes to every sink with
room for it, and it leaves the same store behind. -/
theorem Truncates.ran_of_ran (truncates : run.Truncates) {before : Array String}
    {after : RunState} (ran : run ⟨store, ⟨before, none⟩⟩ = some (.ok (), after))
    (written : after.sink.text = Sink.text ⟨before, none⟩ ++ text) {sink : Sink}
    (takes : sink.takes text = true) :
    ∃ taken, run ⟨store, sink⟩ = some (.ok (), ⟨after.store, taken⟩) ∧
      taken.text = sink.text ++ text := by
  obtain ⟨texts, offered, cut⟩ := truncates ran
  rw [offered, Sink.text_append] at written
  have joined : Sink.text ⟨texts.toArray, none⟩ = text := (String.append_right_inj _).1 written
  subst joined
  obtain ⟨left, taken⟩ := Sink.offer_of_takes takes
  have cut := cut sink
  rw [taken] at cut
  exact ⟨_, cut.of_ok, Sink.text_append sink.writes texts left⟩

/-- A write to a sink with room for it. -/
theorem write_writes {sink : Sink} (takes : sink.takes text = true) :
    (write text).Writes ⟨store, sink⟩ text := by
  refine ⟨⟨store, sink.add text⟩, ?_, Sink.text_add sink text⟩
  change (if sink.takes text then _ else _) = _
  rw [if_pos takes]

/-- The text of a run is what it writes to a sink of its own. -/
theorem capture_of_ran {after : RunState}
    (ran : run ⟨store, Sink.unlimited⟩ = some (.ok (), after)) (sink : Sink) :
    capture run ⟨store, sink⟩ = some (.ok after.sink.text, ⟨after.store, sink⟩) := by
  rw [capture_apply, ran]
  rfl

end Run

/-! ## Bodies in place -/

namespace Interpreter

/-- Render nodes in a scope inside that of the environment. -/
def renderInside (interpreter : Interpreter) (environment : Environment) (depth : Nat)
    (nodes : List Node) : Run TemplateError Unit := do
  let scope ← Run.openChild environment.scope
  interpreter.render (environment.within scope) depth nodes

/-- A block with a single definition renders its body inside the current scope. -/
theorem renderBlock_singleton (interpreter : Interpreter) (environment : Environment)
    (depth : Nat) (body : Body Node) :
    renderBlock interpreter environment depth [body] =
      renderInside interpreter environment depth body.nodes :=
  rfl

theorem renderInside_truncates (natives : Natives) (bound depth : Nat)
    (environment : Environment) (body : Body Node) :
    (renderInside (bounded natives bound) environment depth body.nodes).Truncates := by
  rw [← renderBlock_singleton]
  exact renderBlock_truncates (bounded_truncates natives bound) environment depth [body]

theorem renderInside_extends (natives : Natives) (bound depth : Nat)
    (environment : Environment) (body : Body Node) :
    (renderInside (bounded natives bound) environment depth body.nodes).Extends := by
  rw [← renderBlock_singleton]
  exact renderBlock_extends natives bound depth environment [body]

end Interpreter

/-! ## What is rendered at a lesser depth -/

namespace Interpreter

/-- Whether some nodes, rendered in a scope inside the current one, keep to a vocabulary with all
that is rendered for them: there is an outcome although pieces outside the vocabulary have none. -/
def KeepsTo (natives : Natives) (vocabulary : Vocabulary) (bound : Nat) (environment : Environment)
    (depth : Nat) (nodes : List Node) (state : RunState) : Prop :=
  renderInside (keeping natives vocabulary bound) environment depth nodes state ≠ none

variable {natives : Natives} {bound depth lesser : Nat} {environment : Environment}
variable {body : Body Node} {vocabulary : Vocabulary} {first second : Store}

/-- A body within a vocabulary is rendered as far as it uses something by its name. -/
theorem renderInside_keeping (within : Node.AllWithin vocabulary body.nodes) :
    renderInside (keeping natives vocabulary (bound + 1)) environment depth body.nodes =
      renderInside (ofEffects (effects natives (keeping natives vocabulary bound))) environment
        depth body.nodes := by
  simp only [renderInside, keeping, restrict_render within]

/-- What keeps to a vocabulary has the same outcome where pieces outside it have none. -/
theorem KeepsTo.keeping_eq {state : RunState}
    (keeps : KeepsTo natives vocabulary bound environment depth body.nodes state) :
    renderInside (keeping natives vocabulary bound) environment depth body.nodes state =
      renderInside (bounded natives bound) environment depth body.nodes state := by
  refine keeping_eq_bounded (renderInside · environment depth body.nodes) ?_ keeps
  exact Correspondence.openChild_bind_related
    (Discipline.unrestricted_environments .excused environment) fun _ _ _ _ inner =>
      (Discipline.keeping_interprets natives vocabulary bound depth).render
        (Node.allWithin_unrestricted body.nodes) inner

/-- A body within a vocabulary that is also about macros keeps to it if the templates and the
callables do to which it can lead. -/
theorem keepsTo_of_confined {state : RunState} (macros : vocabulary.macros)
    (bindable : vocabulary.target "super") (keeps : natives.Keeps (Value.Confined vocabulary))
    (confined : environment.Confined vocabulary)
    (held : state.store.Holds (Value.Every (Value.Confined vocabulary)))
    (inside : Node.AllWithin vocabulary body.nodes)
    (ran : renderInside (bounded natives bound) environment depth body.nodes state ≠ none) :
    KeepsTo natives vocabulary bound environment depth body.nodes state := by
  have environments :
      ((Discipline.confining vocabulary macros).correspondence .matched).Environments ()
        environment environment :=
    ⟨⟨confined, rfl⟩, ⟨True.intro, rfl⟩⟩
  have related := Correspondence.openChild_bind_related environments fun _ _ _ _ inner =>
    (Discipline.confining_interprets macros bindable keeps bound depth).render inside inner
  rcases Discipline.outcome_of_ends (Discipline.ends_of_related related
      ⟨⟨held, rfl⟩, ⟨True.intro, rfl⟩⟩) with ⟨_, impossible⟩ | ⟨same, _⟩
  · cases impossible
  · rw [KeepsTo, renderInside, same]
    exact ran

/-- What is rendered at a depth is rendered in the same way at a lesser depth, where names outside
the vocabulary may be bound differently. -/
theorem renderInside_lifts (respects : natives.Respects (Value.Lifts vocabulary))
    (lowers : vocabulary.Lowers depth lesser) (stores : first.Lifts vocabulary second)
    {before : Sink} {after : RunState}
    (ran : renderInside (keeping natives vocabulary bound) environment depth body.nodes
      ⟨first, before⟩ = some (.ok (), after)) :
    ∃ final,
      renderInside (bounded natives bound) environment lesser body.nodes
          ⟨second, ⟨before.writes, none⟩⟩ = some (.ok (), final) ∧
        final.sink.writes = after.sink.writes := by
  have related : (Comparison.lifting vocabulary).Renders
      (List.replicate first.frames.size false) (Comparison.lifting vocabulary).done
      (renderInside (keeping natives vocabulary bound) environment depth body.nodes)
      (renderInside (bounded natives bound) environment lesser body.nodes) := by
    apply (Correspondence.lifting_openInside environment.scope).bind
    rintro later _ scope _ ⟨rfl, marked⟩
    exact (Correspondence.keeping_lifts respects bound lowers false).render
      (Node.allWithin_unrestricted body.nodes) ⟨rfl, rfl, marked⟩
  have states : (Comparison.lifting vocabulary).state (List.replicate first.frames.size false)
      ⟨first, before⟩ ⟨second, ⟨before.writes, none⟩⟩ :=
    ⟨.of_lifts stores, rfl, .inl rfl⟩
  obtain ⟨_, final, _, ended, _, written, _⟩ := Comparison.lifting_ok related states ran
  exact ⟨final, ended, written.symm⟩

/-- What a body that keeps to a vocabulary writes inside the current scope it writes at a lesser
depth to every sink with room for it, whatever other names are bound to. -/
theorem KeepsTo.writes {before sink : Sink} {text : String}
    (keeps : KeepsTo natives vocabulary bound environment depth body.nodes ⟨first, before⟩)
    (respects : natives.Respects (Value.Lifts vocabulary))
    (lowers : vocabulary.Lowers depth lesser) (stores : first.Lifts vocabulary second)
    (writes : (renderInside (bounded natives bound) environment depth body.nodes).Writes
      ⟨first, before⟩ text)
    (takes : sink.takes text = true) :
    (renderInside (bounded natives bound) environment lesser body.nodes).Writes ⟨second, sink⟩
      text := by
  obtain ⟨after, ran, written⟩ := writes
  rw [← keeps.keeping_eq] at ran
  obtain ⟨final, finished, same⟩ := renderInside_lifts respects lowers stores ran
  have added : final.sink.text = Sink.text ⟨before.writes, none⟩ ++ text := by
    unfold Sink.text at written ⊢
    rw [same, written]
  obtain ⟨taken, rendered, held⟩ :=
    (renderInside_truncates natives bound lesser environment body).ran_of_ran finished added takes
  exact ⟨_, rendered, held⟩

/-! ## Captured bodies -/

/-- An output tag writes the value of its expression. -/
theorem renderOutput_apply {effects : Effects} {expression : Expression} {value : Value}
    {state after : RunState} (position : Position)
    (evaluated : expression.evaluate effects depth environment state = some (.ok value, after)) :
    renderOutput effects depth environment ⟨expression, none, none, position⟩ state =
      effects.emit environment value after := by
  have found : evaluateAt effects depth environment .output expression state =
      some (.ok value, after) := by
    rw [evaluateAt, Run.mapError_apply, evaluated]
    rfl
  change (evaluateAt effects depth environment .output expression >>= _) state = _
  rw [Run.bind_apply, found]

theorem emit_renderedValue (natives : Natives) (interpreter : Interpreter)
    (environment : Environment) (text : String) :
    (effects natives interpreter).emit environment (renderedValue environment text) =
      Run.write text := by
  change Run.write (writtenText environment.config.autoescape _) = _
  rw [writtenText_renderedValue]

/-- A node is followed by an output tag, whose value is the text of something rendered. -/
theorem renderNodes_output_writes {interpreter : Interpreter} {node : Node}
    {expression : Expression} {store middle final : Store} {sink : Sink} {text : String}
    (ran : renderNode (effects natives interpreter) depth environment node ⟨store, sink⟩ =
      some (.ok (), ⟨middle, sink⟩))
    (evaluated : expression.evaluate (effects natives interpreter) depth environment
      ⟨middle, sink⟩ = some (.ok (renderedValue environment text), ⟨final, sink⟩))
    (takes : sink.takes text = true) (position : Position) :
    (renderNodes (effects natives interpreter) depth environment
      [node, .output ⟨expression, none, none, position⟩]).Writes ⟨store, sink⟩ text := by
  have shown : renderNode (effects natives interpreter) depth environment
      (.output ⟨expression, none, none, position⟩) ⟨middle, sink⟩ =
        Run.write text ⟨final, sink⟩ := by
    change renderOutput _ depth environment _ _ = _
    rw [renderOutput_apply position evaluated, emit_renderedValue]
  obtain ⟨after, ended, held⟩ : (Run.write text).Writes ⟨final, sink⟩ text :=
    Run.write_writes takes
  refine ⟨after, ?_, held⟩
  change (renderNode (effects natives interpreter) depth environment node >>= fun _ =>
    renderNode (effects natives interpreter) depth environment _ >>= fun _ => pure ()) _ = _
  rw [Run.bind_apply, ran]
  change (renderNode (effects natives interpreter) depth environment _ >>= fun _ => pure ())
    _ = _
  rw [Run.bind_apply, shown, ended]
  rfl

end Interpreter

namespace Node

/-- The nodes that capture a body under a name and write what is captured. -/
def captureAndWrite (name : String) (body : Body Node) (start written read : Position) :
    List Node :=
  [.statement "set" (.capture name body) start, .output ⟨.name name read, none, none, written⟩]

/-- The nodes that make a body a macro without parameters and write what a call of it gives. -/
def defineAndCall (name : String) (body : Body Node)
    (start defined written read called : Position) : List Node :=
  [.statement "macro" (.definition ⟨name, [], body, defined⟩) start,
    .output ⟨.call (.name name read) ⟨[], []⟩ called, none, none, written⟩]

end Node

namespace Interpreter

variable {interpreter : Interpreter} {store : Store} {sink : Sink} {text name : String}

/-- A name that has just been bound has its value. -/
theorem evaluate_name_bound {value : Value}
    (present : environment.scope.frame < store.frames.size) (sound : value.checked = .ok value)
    (read : Position) :
    (Expression.name name read).evaluate (effects natives interpreter) depth environment
        ⟨store.bind environment.scope name value, sink⟩ =
      some (.ok value, ⟨store.bind environment.scope name value, sink⟩) := by
  have found : (store.bind environment.scope name value).lookup environment.scope name =
      some value :=
    store.lookup_bind_self environment.scope name value present
  have looked : (effects natives interpreter).lookup environment.scope name
      ⟨store.bind environment.scope name value, sink⟩ =
        some (.ok (some value), ⟨store.bind environment.scope name value, sink⟩) := by
    change some (Except.ok _, _) = _
    rw [found]
  simp only [Expression.evaluate]
  rw [Run.bind_apply, looked]
  change some (value.checked, _) = _
  rw [sound]

/-- Capturing a body under a name binds the name to its text. -/
theorem renderNode_capture_apply {effects : Effects} {after : RunState} {body : Body Node}
    (ran : renderInside (.ofEffects effects) environment depth body.nodes
      ⟨store, Sink.unlimited⟩ = some (.ok (), after)) (start : Position) :
    renderNode effects depth environment (.statement "set" (.capture name body) start)
        ⟨store, sink⟩ =
      some (.ok (), ⟨after.store.bind environment.scope name
        (renderedValue environment after.sink.text), sink⟩) := by
  rcases body with ⟨nodes, endTag, position⟩
  change Run.mapError _ (Run.capture (renderInside (.ofEffects effects) environment depth nodes)
    >>= fun text => Run.bind environment.scope name (renderedValue environment text)) _ = _
  rw [Run.mapError_apply, Run.bind_apply, Run.capture_of_ran ran]
  rfl

/-- What a body writes inside the current scope is written when it is captured and then
written. -/
theorem captureAndWrite_writes {body : Body Node}
    (present : environment.scope.frame < store.frames.size)
    (writes : (renderInside (bounded natives bound) environment depth body.nodes).Writes
      ⟨store, Sink.unlimited⟩ text) (takes : sink.takes text = true)
    (start written read : Position) :
    ((bounded natives bound).render environment depth
      (Node.captureAndWrite name body start written read)).Writes ⟨store, sink⟩ text := by
  obtain ⟨after, ran, held⟩ := writes
  have held : after.sink.text = text := by simpa using held
  subst held
  cases bound with
  | zero => cases ran
  | succ bound =>
      have kept : environment.scope.frame < after.store.frames.size :=
        Nat.lt_of_lt_of_le present (renderInside_extends natives _ depth environment body ran).size
      exact renderNodes_output_writes (renderNode_capture_apply ran start)
        (evaluate_name_bound kept rfl read) takes written

/-! ## Bodies of macros -/

/-- The body of a macro without parameters is rendered inside the scope of its definition. -/
theorem renderClosure_parameterless (body : Body Node) (defined : Position) :
    renderClosure interpreter ⟨⟨name, [], body, defined⟩, environment⟩ ⟨[], []⟩ depth =
      renderInside interpreter environment depth body.nodes :=
  rfl

/-- A call of a macro without parameters gives the text of its body, one level deeper. -/
theorem callValue_parameterless (natives : Natives) {after : RunState} {body : Body Node}
    (shallow : depth < maxDepth)
    (ran : renderInside interpreter environment (depth + 1) body.nodes
      ⟨store, Sink.unlimited⟩ = some (.ok (), after)) (callee : Expression)
    (defined : Position) :
    callValue natives interpreter depth callee (.closure ⟨⟨name, [], body, defined⟩, environment⟩)
        ⟨[], []⟩ ⟨store, sink⟩ =
      some (.ok (renderedValue environment after.sink.text), ⟨after.store, sink⟩) := by
  have entered : (enter depth name : Run TemplateError Nat) ⟨store, sink⟩ =
      some (.ok (depth + 1), ⟨store, sink⟩) := by
    rw [enter, if_neg (Nat.not_le_of_lt shallow)]
    rfl
  simp only [callValue, callClosure, Closure.name, renderClosure_parameterless]
  rw [Run.mapError_apply, Run.bind_apply, entered]
  simp only []
  rw [Run.bind_apply, Run.capture_of_ran ran]
  rfl

/-- What a body writes inside the scope in which a macro is defined is written when the macro
is called there. -/
theorem defineAndCall_writes {body : Body Node} {defined : Position}
    (present : environment.scope.frame < store.frames.size) (shallow : depth < maxDepth)
    (writes : (renderInside (bounded natives bound) environment (depth + 1) body.nodes).Writes
      ⟨store.bind environment.scope name (.closure ⟨⟨name, [], body, defined⟩, environment⟩),
        Sink.unlimited⟩ text) (takes : sink.takes text = true)
    (start written read called : Position) :
    ((bounded natives (bound + 1)).render environment depth
      (Node.defineAndCall name body start defined written read called)).Writes ⟨store, sink⟩
        text := by
  obtain ⟨after, ran, held⟩ := writes
  have held : after.sink.text = text := by simpa using held
  subst held
  let callee : Value := .closure ⟨⟨name, [], body, defined⟩, environment⟩
  have bind : renderNode (effects natives (bounded natives bound)) depth environment
      (.statement "macro" (.definition ⟨name, [], body, defined⟩) start) ⟨store, sink⟩ =
        some (.ok (), ⟨store.bind environment.scope name callee, sink⟩) :=
    rfl
  have called : (Expression.call (.name name read) ⟨[], []⟩ called).evaluate
      (effects natives (bounded natives bound)) depth environment
        ⟨store.bind environment.scope name callee, sink⟩ =
      some (.ok (renderedValue environment after.sink.text), ⟨after.store, sink⟩) := by
    have sound : callee.checked = .ok callee := rfl
    rw [Expression.evaluate, Run.bind_apply, evaluate_name_bound present sound read]
    exact callValue_parameterless natives shallow ran (.name name read) defined
  exact renderNodes_output_writes bind called takes written

/-! ## The three ways -/

/-- Capturing is transparent.  Take a body that writes some text when it is rendered inside the
current scope at the depth of a macro call.  Whatever the sink holds that has room for it, the same
text is written when a macro with this body is defined and called, as long as nothing that is
rendered reads the name of the macro.  It is also written when the body is rendered inside the
current scope at the depth of that scope, and when its text is captured and then written, as long
as all statements that are rendered are built in.  Native functions do not look into what can be
called. -/
theorem capture_transparent {body : Body Node} {before sink : Sink}
    (respects : ∀ vocabulary, natives.Respects (Value.Lifts vocabulary))
    (shallow : depth < maxDepth) (present : environment.scope.frame < store.frames.size)
    (writes : (renderInside (bounded natives bound) environment (depth + 1) body.nodes).Writes
      ⟨store, before⟩ text)
    (takes : sink.takes text = true) :
    (KeepsTo natives .builtIn bound environment (depth + 1) body.nodes ⟨store, before⟩ →
      (renderInside (bounded natives bound) environment depth body.nodes).Writes ⟨store, sink⟩
        text ∧
      ∀ name start written read,
        ((bounded natives bound).render environment depth
          (Node.captureAndWrite name body start written read)).Writes ⟨store, sink⟩ text) ∧
    ∀ name start defined written read called,
      KeepsTo natives (.without name) bound environment (depth + 1) body.nodes ⟨store, before⟩ →
        ((bounded natives (bound + 1)).render environment depth
          (Node.defineAndCall name body start defined written read called)).Writes ⟨store, sink⟩
            text := by
  have unlimited : Sink.unlimited.takes text = true := rfl
  constructor
  · intro builtIn
    have inside : ∀ {sink : Sink}, sink.takes text = true →
        (renderInside (bounded natives bound) environment depth body.nodes).Writes
          ⟨store, sink⟩ text :=
      builtIn.writes (respects .builtIn) (Vocabulary.builtIn_lowers (Nat.le_succ depth))
        (store.lifts_refl .builtIn) writes
    refine ⟨inside takes, ?_⟩
    intro name start written read
    exact captureAndWrite_writes present (inside unlimited) takes start written read
  · intro name start defined written read called unread
    have stores : store.Lifts (.without name) (store.bind environment.scope name
        (.closure ⟨⟨name, [], body, defined⟩, environment⟩)) :=
      store.lifts_bind (Vocabulary.not_name_without name) _ _
    have inside : (renderInside (bounded natives bound) environment (depth + 1) body.nodes).Writes
        ⟨store.bind environment.scope name (.closure ⟨⟨name, [], body, defined⟩, environment⟩),
          Sink.unlimited⟩ text :=
      unread.writes (respects (.without name)) (.refl _ _) stores writes unlimited
    exact defineAndCall_writes present shallow inside takes start written read called

/-- An environment with autoescaping in which there is no template but an empty one. -/
def solitary : Environment where
  config := { Config.default with autoescape := true }
  registries := .standard
  scope := (Store.empty.scopeOf []).1
  loader := .empty
  lineage := .empty

/-- A body that writes a name after a word. -/
def welcome : Body Node :=
  ⟨[.data "Hi " ⟨false, false⟩ .start, .output ⟨.name "user" .start, none, none, .start⟩], none,
    .start⟩

/-- The name of a user, with markup in it, is written once and escaped once: in place, when it is
captured, and when it is called for. -/
theorem capture_transparent_welcome :
    let store := (Store.empty.scopeOf [("user", .plain "<Ada>")]).2
    let sink : Sink := ⟨#["> "], some 20⟩
    (renderInside (bounded .standard 1) solitary 1 welcome.nodes).Writes ⟨store, .unlimited⟩
        "Hi &lt;Ada&gt;" ∧
      KeepsTo .standard .builtIn 1 solitary 1 welcome.nodes ⟨store, .unlimited⟩ ∧
      KeepsTo .standard (.without "m") 1 solitary 1 welcome.nodes ⟨store, .unlimited⟩ ∧
      (renderInside (bounded .standard 1) solitary 0 welcome.nodes).Writes ⟨store, sink⟩
        "Hi &lt;Ada&gt;" ∧
      ((bounded .standard 1).render solitary 0
        (Node.captureAndWrite "v" welcome .start .start .start)).Writes ⟨store, sink⟩
          "Hi &lt;Ada&gt;" ∧
      ((bounded .standard 2).render solitary 0
        (Node.defineAndCall "m" welcome .start .start .start .start .start)).Writes ⟨store, sink⟩
          "Hi &lt;Ada&gt;" := by
  intro store sink
  have written : "Hi " ++ writtenText true (.plain "<Ada>") = "Hi &lt;Ada&gt;" := by decide
  have rendered :
      (renderInside (bounded .standard 1) solitary 1 welcome.nodes).Writes ⟨store, .unlimited⟩
        "Hi &lt;Ada&gt;" := by
    rw [← written]
    exact ⟨_, rfl, rfl⟩
  have keeps : ∀ vocabulary : Vocabulary, vocabulary.text "Hi " → vocabulary.name "user" →
      KeepsTo .standard vocabulary 1 solitary 1 welcome.nodes ⟨store, .unlimited⟩ := by
    intro vocabulary greets reads
    have within : Node.AllWithin vocabulary welcome.nodes :=
      ⟨greets, ⟨reads, True.intro, True.intro⟩, True.intro⟩
    rw [KeepsTo, renderInside_keeping within]
    exact Option.some_ne_none _
  have distinct : "user" ≠ "m" := by decide
  have builtIn := keeps .builtIn True.intro True.intro
  have unread := keeps (.without "m") True.intro distinct
  have takes : sink.takes "Hi &lt;Ada&gt;" = true := rfl
  obtain ⟨inPlace, called⟩ := capture_transparent (fun _ => Natives.standard_respects)
    (by decide) (by decide) rendered takes
  obtain ⟨inside, captured⟩ := inPlace builtIn
  exact ⟨rendered, builtIn, unread, inside, captured "v" .start .start .start,
    called "m" .start .start .start .start .start unread⟩

/-! ## What shows the depth -/

/-- Whether a body that is rendered in a state shows the depth: in place at no depth, and when it
is captured there, it does not write what it writes in a macro, although nothing that is rendered
reads the name of the macro. -/
structure ShowsDepth (natives : Natives) (bound : Nat) (environment : Environment)
    (body : Body Node) (state : RunState) (shown : Nat → String) : Prop where
  unread : KeepsTo natives (.without "m") bound environment 1 body.nodes state
  inside : (renderInside (bounded natives bound) environment 1 body.nodes).Writes state (shown 1)
  called : ((bounded natives (bound + 1)).render environment 0
    (Node.defineAndCall "m" body .start .start .start .start .start)).Writes state (shown 1)
  inPlace : ¬(renderInside (bounded natives bound) environment 0 body.nodes).Writes state
    (shown 1)
  captured : ¬((bounded natives bound).render environment 0
    (Node.captureAndWrite "v" body .start .start .start)).Writes state (shown 1)

/-- It shows the depth if it writes something else in place and when it is captured. -/
theorem showsDepth_of_writes {body : Body Node} {state : RunState} {shown : Nat → String}
    (unread : KeepsTo natives (.without "m") bound environment 1 body.nodes state)
    (inside : (renderInside (bounded natives bound) environment 1 body.nodes).Writes state
      (shown 1))
    (called : ((bounded natives (bound + 1)).render environment 0
      (Node.defineAndCall "m" body .start .start .start .start .start)).Writes state (shown 1))
    (inPlace : (renderInside (bounded natives bound) environment 0 body.nodes).Writes state
      (shown 0))
    (captured : ((bounded natives bound).render environment 0
      (Node.captureAndWrite "v" body .start .start .start)).Writes state (shown 0))
    (distinct : shown 1 ≠ shown 0) : ShowsDepth natives bound environment body state shown where
  unread := unread
  inside := inside
  called := called
  inPlace writes := distinct (writes.unique inPlace)
  captured writes := distinct (writes.unique captured)

/-- A box that reads no name. -/
def tracer : Body Node :=
  ⟨[.statement "box" (.box "page" none ⟨[], some "endbox", .start⟩ none) .start], none, .start⟩

theorem tracer_shows_depth :
    ShowsDepth .standard 1 solitary tracer ⟨(Store.empty.scopeOf []).2, .unlimited⟩
      fun depth => "[box:page@" ++ toString depth ++ ":]" := by
  have within : Node.AllWithin (.without "m") tracer.nodes :=
    ⟨⟨True.intro, True.intro, True.intro, True.intro, True.intro⟩, True.intro⟩
  have unread : KeepsTo .standard (.without "m") 1 solitary 1 tracer.nodes
      ⟨(Store.empty.scopeOf []).2, .unlimited⟩ := by
    rw [KeepsTo, renderInside_keeping within]
    exact Option.some_ne_none _
  exact showsDepth_of_writes unread ⟨_, rfl, by decide⟩ ⟨_, rfl, by decide⟩ ⟨_, rfl, by decide⟩
    ⟨_, rfl, by decide⟩ (by decide)

end Interpreter

/-- Native functions that tell how deep the block was that a call of `super` belongs to. -/
def Natives.sounding : Natives := fun _ arguments =>
  match arguments.at? 0 with
  | some (.function (.super _ depth _)) => .plain (toString depth)
  | _ => .nil

theorem Natives.sounding_keeps {holds : Value → Prop} (callables : Value.AboutCallables holds) :
    Natives.sounding.Keeps holds := by
  intro name arguments _ _
  unfold sounding
  split
  · exact callables.basic.plain _
  · exact callables.basic.nil

namespace Interpreter

/-- A body that places a block. -/
def placing : Body Node :=
  ⟨[.statement "block" (.block "a") .start], none, .start⟩

/-- A body that shows what a native function makes of `super`. -/
def sounded : Body Node :=
  ⟨[.output ⟨.call (.name "look" .start) ⟨[.name "super" .start], []⟩ .start, none, none,
    .start⟩], none, .start⟩

/-- A template that overrides the block. -/
def overriding : Environment :=
  { solitary with
    lineage := ⟨⟨"page", [], [("a", sounded)], []⟩,
      [⟨"base", placing.nodes, [("a", ⟨[], none, .start⟩)], []⟩]⟩ }

/-- A native function is bound. -/
def looking : RunState :=
  ⟨(Store.empty.scopeOf [("look", .function (.native "look"))]).2, .unlimited⟩

theorem placing_within {vocabulary : Vocabulary} (statement : vocabulary.statement (.block "a"))
    (block : vocabulary.block "a") : Node.AllWithin vocabulary placing.nodes :=
  ⟨⟨statement, block⟩, True.intro⟩

theorem overriding_confined {vocabulary : Vocabulary} (look : vocabulary.name "look")
    (super : vocabulary.name "super") (placed : Node.AllWithin vocabulary placing.nodes) :
    overriding.Confined vocabulary where
  lineage := by
    have arguments : Expression.ArgumentsWithin vocabulary ⟨[.name "super" .start], []⟩ :=
      ⟨⟨super, True.intro⟩, True.intro⟩
    have shown : Node.AllWithin vocabulary sounded.nodes :=
      ⟨⟨⟨look, arguments⟩, True.intro, True.intro⟩, True.intro⟩
    rintro layer (_ | ⟨_, _ | ⟨_, nothing⟩⟩)
    · exact ⟨True.intro, List.forall_mem_singleton.2 shown, List.forall_mem_nil _⟩
    · exact ⟨placed, List.forall_mem_singleton.2 True.intro, List.forall_mem_nil _⟩
    · cases nothing
  referred reached loaded := by
    rw [reached.eq_empty] at loaded
    cases loaded

theorem looking_holds (vocabulary : Vocabulary) :
    looking.store.Holds (Value.Every (Value.Confined vocabulary)) :=
  Store.holds_scopeOf (List.forall_mem_singleton.2 True.intro)

theorem placing_keepsTo {vocabulary : Vocabulary} (macros : vocabulary.macros)
    (bindable : vocabulary.target "super") (look : vocabulary.name "look")
    (super : vocabulary.name "super") (placed : Node.AllWithin vocabulary placing.nodes) :
    KeepsTo .sounding vocabulary 2 overriding 1 placing.nodes looking := by
  exact keepsTo_of_confined macros bindable
    (Natives.sounding_keeps (Value.aboutCallables_confined vocabulary))
    (overriding_confined look super placed) (looking_holds vocabulary) placed
    (Option.some_ne_none _)

theorem placing_shows_depth : ShowsDepth .sounding 2 overriding placing looking toString := by
  have look : "look" ≠ "m" := by decide
  have super : "super" ≠ "m" := by decide
  have unread : KeepsTo .sounding (.without "m") 2 overriding 1 placing.nodes looking :=
    placing_keepsTo True.intro True.intro look super (placing_within True.intro True.intro)
  exact showsDepth_of_writes unread ⟨_, rfl, by decide⟩ ⟨_, rfl, by decide⟩ ⟨_, rfl, by decide⟩
    ⟨_, rfl, by decide⟩ (by decide)

/-- A registered statement may show the depth, and so may a native function that looks into
`super`, where all statements are built in. -/
theorem capture_shows_depth :
    ShowsDepth .standard 1 solitary tracer ⟨(Store.empty.scopeOf []).2, .unlimited⟩
        (fun depth => "[box:page@" ++ toString depth ++ ":]") ∧
      KeepsTo .sounding .builtIn 2 overriding 1 placing.nodes looking ∧
      ShowsDepth .sounding 2 overriding placing looking toString :=
  ⟨tracer_shows_depth,
    placing_keepsTo True.intro True.intro True.intro True.intro
      (placing_within True.intro True.intro),
    placing_shows_depth⟩

end Interpreter

end TemplateEngine
