import TemplateEngine.Natives
import TemplateEngine.Proofs.Correspondence.Interpretation

/-!
# Renderings into a sink with little room

A sink with limited room takes the writes of a rendering in turn, until one of them does not
fit.  That write is dropped and ends the rendering, with an error that is the sink's below
the sites it passes on its way out.  So a limited rendering is an unlimited one that is cut
at the first write without room: up to there both do the same, and where every write fits
they do the same to the end.

What a rendering keeps to itself, the texts of macros, captured bodies and overridden blocks
and the dropped output of derived templates, neither counts nor fails.
-/

namespace TemplateEngine

namespace Sink

/-- The count of bytes of some texts. -/
def byteCount : List String → Nat
  | [] => 0
  | text :: rest => text.utf8ByteSize + byteCount rest

theorem byteCount_append (first second : List String) :
    byteCount (first ++ second) = byteCount first + byteCount second := by
  induction first with
  | nil => simp [byteCount]
  | cons text rest inductionHypothesis =>
      simp [byteCount, inductionHypothesis, Nat.add_assoc]

/-- Offer texts to a sink in turn.  The result is the sink that has taken all of them, or as
an error the one that rejects a text after those it has taken. -/
def offer (sink : Sink) : List String → Except Sink Sink
  | [] => .ok sink
  | text :: rest => if sink.takes text then offer (sink.add text) rest else .error sink

theorem offer_append (sink : Sink) (first second : List String) :
    sink.offer (first ++ second) = sink.offer first >>= fun taken => taken.offer second := by
  induction first generalizing sink with
  | nil => rfl
  | cons text rest inductionHypothesis =>
      simp only [List.cons_append, offer]
      split
      · exact inductionHypothesis (sink.add text)
      · rfl

/-- A limited sink takes texts that do not exceed its room. -/
theorem offer_of_le {texts : List String} {room : Nat} (before : Array String)
    (fits : byteCount texts ≤ room) :
    offer ⟨before, some room⟩ texts =
      .ok ⟨before ++ texts.toArray, some (room - byteCount texts)⟩ := by
  induction texts generalizing before room with
  | nil => simp [offer, byteCount]
  | cons text rest inductionHypothesis =>
      have total : byteCount (text :: rest) = text.utf8ByteSize + byteCount rest := rfl
      have taken : takes ⟨before, some room⟩ text = true := by
        simp only [takes, Option.all_some, decide_eq_true_eq]
        omega
      simp only [offer, taken, if_true, add, Option.map_some]
      rw [inductionHypothesis (before.push text) (by omega), total]
      simp [Nat.sub_sub]

/-- A limited sink stops at the first text that exceeds its room. -/
theorem offer_of_lt {kept rest : List String} {text : String} {room : Nat}
    (before : Array String) (fits : byteCount kept ≤ room)
    (exceeds : room < byteCount (kept ++ [text])) :
    offer ⟨before, some room⟩ (kept ++ text :: rest) =
      .error ⟨before ++ kept.toArray, some (room - byteCount kept)⟩ := by
  have total : byteCount (kept ++ [text]) = byteCount kept + text.utf8ByteSize := by
    rw [byteCount_append]
    rfl
  rw [offer_append, offer_of_le before fits]
  change offer _ (text :: rest) = _
  simp only [offer, takes, Option.all_some, decide_eq_true_eq]
  rw [if_neg (by omega)]

/-- Texts are always taken where room is not limited. -/
theorem offer_of_unlimited (before : Array String) (texts : List String) :
    offer ⟨before, none⟩ texts = .ok ⟨before ++ texts.toArray, none⟩ := by
  induction texts generalizing before with
  | nil => simp [offer]
  | cons text rest inductionHypothesis =>
      change offer ⟨before.push text, none⟩ rest = _
      rw [inductionHypothesis]
      simp

theorem text_append (before : Array String) (texts : List String) (room : Option Nat) :
    Sink.text ⟨before ++ texts.toArray, room⟩ =
      Sink.text ⟨before, room⟩ ++ Sink.text ⟨texts.toArray, room⟩ := by
  have joined : ∀ (texts : List String) (written : String),
      texts.foldl (fun written text => written ++ text) written =
        written ++ texts.foldl (fun written text => written ++ text) "" := by
    intro texts
    induction texts with
    | nil => simp
    | cons text rest inductionHypothesis =>
        intro written
        rw [List.foldl_cons, List.foldl_cons, inductionHypothesis, inductionHypothesis ("" ++ text)]
        simp [String.append_assoc]
  simp only [Sink.text, ← Array.foldl_toList, Array.toList_append, List.foldl_append]
  exact joined _ _

theorem byteCount_mono {kept texts : List String} (beginning : kept <+: texts) :
    byteCount kept ≤ byteCount texts := by
  rcases beginning with ⟨rest, rfl⟩
  rw [byteCount_append]
  exact Nat.le_add_right _ _

/-- Of texts that exceed some room, one is the first that does not fit. -/
theorem exists_first_exceeding {texts : List String} {room : Nat}
    (exceeds : room < byteCount texts) :
    ∃ kept text rest, texts = kept ++ text :: rest ∧ byteCount kept ≤ room ∧
      room < byteCount (kept ++ [text]) := by
  induction texts generalizing room with
  | nil => simp [byteCount] at exceeds
  | cons text rest inductionHypothesis =>
      have total : byteCount (text :: rest) = text.utf8ByteSize + byteCount rest := rfl
      by_cases first : room < text.utf8ByteSize
      · exact ⟨[], text, rest, rfl, Nat.zero_le room, by simpa [byteCount] using first⟩
      · have remaining : room - text.utf8ByteSize < byteCount rest := by omega
        rcases inductionHypothesis remaining with ⟨kept, next, others, rfl, fits, beyond⟩
        refine ⟨text :: kept, next, others, rfl, ?_, ?_⟩
        · simp only [byteCount] at fits ⊢
          omega
        · simp only [byteCount, List.cons_append] at beyond ⊢
          omega

end Sink

namespace Run

variable {ε δ α β : Type}

/-! ## Runs that leave the sink alone -/

/-- Whether a run neither reads nor writes the sink. -/
def Quiet (run : Run ε α) : Prop :=
  ∀ store sink, run ⟨store, sink⟩ =
    (run ⟨store, Sink.unlimited⟩).map fun ended => (ended.1, ⟨ended.2.store, sink⟩)

theorem quiet_exhausted : (exhausted : Run ε α).Quiet :=
  fun _ _ => rfl

theorem quiet_ofExcept (result : Except ε α) : (ofExcept result).Quiet :=
  fun _ _ => rfl

theorem quiet_pure (value : α) : (pure value : Run ε α).Quiet :=
  fun _ _ => rfl

theorem quiet_throw (error : ε) : (throw error : Run ε α).Quiet :=
  fun _ _ => rfl

theorem quiet_lookup (scope : Scope) (name : String) :
    (Run.lookup scope name : Run ε (Option Value)).Quiet :=
  fun _ _ => rfl

/-- A change of the store alone leaves the sink alone. -/
theorem quiet_modify (change : Store → Store) :
    (modify fun state => { state with store := change state.store } : Run ε Unit).Quiet :=
  fun _ _ => rfl

theorem quiet_bind (scope : Scope) (name : String) (value : Value) :
    (Run.bind scope name value : Run ε Unit).Quiet :=
  quiet_modify fun store => store.bind scope name value

theorem quiet_bindAll (scope : Scope) (entries : List (String × Value)) :
    (Run.bindAll scope entries : Run ε Unit).Quiet :=
  quiet_modify fun store => store.bindAll scope entries

theorem quiet_openWith (make : Store → Scope × Store) :
    (Run.openWith make : Run ε Scope).Quiet :=
  fun _ _ => rfl

theorem Quiet.bind {first : Run ε α} {rest : α → Run ε β} (quiet : first.Quiet)
    (restQuiet : ∀ value, (rest value).Quiet) : (first >>= rest).Quiet := by
  intro store sink
  rw [bind_apply, bind_apply, quiet store sink]
  match first ⟨store, Sink.unlimited⟩ with
  | none => rfl
  | some (.error error, after) => rfl
  | some (.ok value, after) =>
      change rest value ⟨after.store, sink⟩ =
        (rest value ⟨after.store, after.sink⟩).map fun ended => (ended.1, ⟨ended.2.store, sink⟩)
      rw [restQuiet value after.store sink, restQuiet value after.store after.sink,
        Option.map_map]
      rfl

theorem Quiet.mapError {run : Run ε α} {change : ε → δ} (quiet : run.Quiet) :
    (run.mapError change).Quiet := by
  intro store sink
  rw [mapError_apply, mapError_apply, quiet store sink, Option.map_map, Option.map_map]
  rfl

/-- A run whose text is captured has a sink of its own. -/
theorem quiet_capture (run : Run ε Unit) : (Run.capture run).Quiet := by
  intro store sink
  rw [capture_apply, capture_apply, Option.map_map]
  rfl

/-! ## Runs that a sink may cut -/

/-- The end of a run that offers some texts to a sink, given the outcome that it has if all
of them are taken, and the store then: that outcome, or an error of the sink. -/
inductive Cut (outcome : Except TemplateError α) (store : Store) :
    Except Sink Sink → Option (Except TemplateError α × RunState) → Prop where
  | whole (taken : Sink) : Cut outcome store (.ok taken) (some (outcome, ⟨store, taken⟩))
  | short {error : TemplateError} (caused : error.rootCause = .output) (kept : Sink)
      (reached : Store) : Cut outcome store (.error kept) (some (.error error, ⟨reached, kept⟩))

theorem Cut.of_ok {outcome : Except TemplateError α} {store : Store} {taken : Sink}
    {ended : Option (Except TemplateError α × RunState)}
    (cut : Cut outcome store (.ok taken) ended) : ended = some (outcome, ⟨store, taken⟩) := by
  cases cut
  rfl

theorem Cut.of_error {outcome : Except TemplateError α} {store : Store} {kept : Sink}
    {ended : Option (Except TemplateError α × RunState)}
    (cut : Cut outcome store (.error kept) ended) :
    ∃ error reached, error.rootCause = .output ∧ ended = some (.error error, ⟨reached, kept⟩) := by
  cases cut with
  | short caused kept reached => exact ⟨_, reached, caused, rfl⟩

/-- A run that offers to every sink, in turn, the texts that it writes to an unlimited one,
and that ends where one of them is rejected. -/
def Truncates (run : Run TemplateError α) : Prop :=
  ∀ ⦃store before outcome after⦄, run ⟨store, ⟨before, none⟩⟩ = some (outcome, after) →
    ∃ texts : List String, after.sink = ⟨before ++ texts.toArray, none⟩ ∧
      ∀ sink : Sink, Cut outcome after.store (sink.offer texts) (run ⟨store, sink⟩)

/-- A run that leaves the sink alone offers nothing to it. -/
theorem Quiet.truncates {run : Run TemplateError α} (quiet : run.Quiet) : run.Truncates := by
  intro store before outcome after ran
  have undisturbed : ∀ sink : Sink, run ⟨store, sink⟩ = some (outcome, ⟨after.store, sink⟩) := by
    intro sink
    rw [quiet] at ran ⊢
    rcases Option.map_eq_some_iff.1 ran with ⟨⟨_, _⟩, ended, same⟩
    cases same
    rw [ended]
    rfl
  have unwritten : after.sink = ⟨before, none⟩ := by
    rw [undisturbed, Option.some.injEq, Prod.mk.injEq] at ran
    rw [← ran.2]
  refine ⟨[], by simp [unwritten], fun sink => ?_⟩
  rw [undisturbed sink]
  exact .whole sink

theorem truncates_exhausted : (exhausted : Run TemplateError α).Truncates :=
  quiet_exhausted.truncates

theorem truncates_write (text : String) : (write text).Truncates := by
  intro store before outcome after ran
  cases ran
  refine ⟨[text], by simp [Sink.add], fun sink => ?_⟩
  change Cut _ _ _ (if sink.takes text then _ else _)
  simp only [Sink.offer]
  split
  · exact .whole (sink.add text)
  · exact .short rfl sink store

/-- A composed run offers what its first part offers, and then what the second one does. -/
theorem Truncates.bind {first : Run TemplateError α} {rest : α → Run TemplateError β}
    (truncates : first.Truncates) (restTruncates : ∀ value, (rest value).Truncates) :
    (first >>= rest).Truncates := by
  intro store before outcome after ran
  rw [bind_apply] at ran
  match firstRan : first ⟨store, ⟨before, none⟩⟩ with
  | none =>
      rw [firstRan] at ran
      cases ran
  | some (.error error, middle) =>
      rw [firstRan] at ran
      cases ran
      rcases truncates firstRan with ⟨texts, written, cut⟩
      refine ⟨texts, written, fun sink => ?_⟩
      have cut := cut sink
      rw [bind_apply]
      generalize sink.offer texts = offered, first ⟨store, sink⟩ = ended at cut ⊢
      cases cut with
      | whole taken => exact .whole taken
      | short caused kept reached => exact .short caused kept reached
  | some (.ok value, ⟨middle, middleSink⟩) =>
      rw [firstRan] at ran
      rcases truncates firstRan with ⟨texts, written, cut⟩
      cases written
      rcases restTruncates value ran with ⟨others, othersWritten, restCut⟩
      refine ⟨texts ++ others, by simp [othersWritten], fun sink => ?_⟩
      have cut := cut sink
      rw [bind_apply, Sink.offer_append]
      generalize sink.offer texts = offered, first ⟨store, sink⟩ = ended at cut ⊢
      cases cut with
      | whole taken => exact restCut taken
      | short caused kept reached => exact .short caused kept reached

/-- An error may be wrapped on its way out. -/
theorem Truncates.mapError {run : Run TemplateError α} {change : TemplateError → TemplateError}
    (truncates : run.Truncates) (wraps : ∀ error, (change error).rootCause = error.rootCause) :
    (run.mapError change).Truncates := by
  intro store before outcome after ran
  rw [mapError_apply] at ran
  rcases Option.map_eq_some_iff.1 ran with ⟨⟨_, _⟩, ended, same⟩
  cases same
  rcases truncates ended with ⟨texts, written, cut⟩
  refine ⟨texts, written, fun sink => ?_⟩
  have cut := cut sink
  rw [mapError_apply]
  generalize sink.offer texts = offered, run ⟨store, sink⟩ = ended at cut ⊢
  cases cut with
  | whole taken => exact .whole taken
  | short caused kept reached => exact .short ((wraps _).trans caused) kept reached

theorem Truncates.releasing {run : Run TemplateError α} (root : Scope)
    (truncates : run.Truncates) : (run.releasing root).Truncates := by
  intro store before outcome after ran
  rw [releasing_apply] at ran
  rcases Option.map_eq_some_iff.1 ran with ⟨⟨_, _⟩, ended, same⟩
  cases same
  rcases truncates ended with ⟨texts, written, cut⟩
  refine ⟨texts, written, fun sink => ?_⟩
  have cut := cut sink
  rw [releasing_apply]
  generalize sink.offer texts = offered, run ⟨store, sink⟩ = ended at cut ⊢
  cases cut with
  | whole taken => exact .whole taken
  | short caused kept reached => exact .short caused kept (reached.release root)

/-- A run that a sink may cut does the same to every sink without a limit. -/
theorem Truncates.exists_texts {α : Type} {run : Run TemplateError α} (truncates : run.Truncates)
    {store : Store} {before : Array String} {outcome : Except TemplateError α} {after : RunState}
    (ran : run ⟨store, ⟨before, none⟩⟩ = some (outcome, after)) :
    ∃ texts : List String, after.sink = ⟨before ++ texts.toArray, none⟩ ∧
      ∀ other : Array String, run ⟨store, ⟨other, none⟩⟩ =
        some (outcome, ⟨after.store, ⟨other ++ texts.toArray, none⟩⟩) := by
  obtain ⟨texts, written, cut⟩ := truncates ran
  refine ⟨texts, written, fun other => ?_⟩
  have cut := cut ⟨other, none⟩
  rw [Sink.offer_of_unlimited] at cut
  exact cut.of_ok

end Run

/-! ## Evaluation -/

/-- Effects at a depth whose evaluations leave the sink alone and whose renderings may be
cut. -/
structure Effects.Truncates (effects : Effects) (depth : Nat) : Prop where
  lookup : ∀ scope name, (effects.lookup scope name).Quiet
  call : ∀ callee value arguments, (effects.call depth callee value arguments).Quiet
  emit : ∀ environment value, (effects.emit environment value).Truncates
  block : ∀ environment name, (effects.block environment depth name).Truncates
  inclusion : ∀ environment included withContext,
    (effects.inclusion environment depth included withContext).Truncates

variable {effects : Effects} {depth : Nat}

namespace Expression

mutual

/-- An evaluation leaves the sink alone. -/
theorem evaluate_quiet (cuts : effects.Truncates depth) (environment : Environment)
    (expression : Expression) : (expression.evaluate effects depth environment).Quiet := by
  match expression with
  | .literal _ _ => exact Run.quiet_pure _
  | .name identifier _ =>
      exact (cuts.lookup environment.scope identifier).bind fun _ => Run.quiet_ofExcept _
  | .list items _ =>
      exact (evaluateItems_quiet cuts environment items).bind fun _ => Run.quiet_pure _
  | .dict entries _ =>
      exact (evaluateEntries_quiet cuts environment [] entries).bind fun _ => Run.quiet_pure _
  | .member target _ _ =>
      exact (evaluate_quiet cuts environment target).bind fun _ => Run.quiet_ofExcept _
  | .item target index _ =>
      apply (evaluate_quiet cuts environment target).bind
      intro value
      exact (evaluate_quiet cuts environment index).bind fun _ => Run.quiet_ofExcept _
  | .call callee arguments _ =>
      apply (evaluate_quiet cuts environment callee).bind
      intro value
      exact (evaluateArguments_quiet cuts environment arguments).bind fun given =>
        cuts.call callee value given
  | .filter target used arguments _ =>
      have given := evaluateArguments_quiet cuts environment arguments
      simp only [evaluate]
      split
      · exact (evaluate_quiet cuts environment.lenient target).bind fun _ =>
          given.bind fun _ => Run.quiet_ofExcept _
      · exact (evaluate_quiet cuts environment target).bind fun _ =>
          given.bind fun _ => Run.quiet_ofExcept _
  | .test target _ arguments _ _ =>
      apply (evaluate_quiet cuts environment.lenient target).bind
      intro value
      exact (evaluateArguments_quiet cuts environment arguments).bind fun _ =>
        Run.quiet_ofExcept _
  | .unary .not operand _ =>
      exact (evaluate_quiet cuts environment operand).bind fun _ => Run.quiet_pure _
  | .unary .negate operand _ =>
      exact (evaluate_quiet cuts environment operand).bind fun _ => Run.quiet_ofExcept _
  | .binary operator left right _ =>
      have second := evaluate_quiet cuts environment right
      cases operator with
      | and | or =>
          apply (evaluate_quiet cuts environment left).bind
          intro value
          split
          all_goals first
            | exact Run.quiet_pure _
            | exact second.bind fun _ => Run.quiet_pure _
      | _ =>
          apply (evaluate_quiet cuts environment left).bind
          exact fun _ => second.bind fun _ => Run.quiet_ofExcept _

theorem evaluateItems_quiet (cuts : effects.Truncates depth) (environment : Environment)
    (items : List Expression) : (evaluateItems effects depth environment items).Quiet := by
  match items with
  | [] => exact Run.quiet_pure _
  | first :: rest =>
      apply (evaluate_quiet cuts environment first).bind
      intro value
      exact (evaluateItems_quiet cuts environment rest).bind fun _ => Run.quiet_pure _

theorem evaluateEntries_quiet (cuts : effects.Truncates depth) (environment : Environment)
    (before : Table Value) (entries : List (Expression × Expression)) :
    (evaluateEntries effects depth environment before entries).Quiet := by
  match entries with
  | [] => exact Run.quiet_pure _
  | (key, value) :: rest =>
      apply (evaluate_quiet cuts environment key).bind
      intro name
      apply (evaluate_quiet cuts environment value).bind
      intro stored
      exact evaluateEntries_quiet cuts environment _ rest

theorem evaluateKeywords_quiet (cuts : effects.Truncates depth) (environment : Environment)
    (keywords : List (String × Expression)) :
    (evaluateKeywords effects depth environment keywords).Quiet := by
  match keywords with
  | [] => exact Run.quiet_pure _
  | (_, expression) :: rest =>
      apply (evaluate_quiet cuts environment expression).bind
      intro value
      exact (evaluateKeywords_quiet cuts environment rest).bind fun _ => Run.quiet_pure _

theorem evaluateArguments_quiet (cuts : effects.Truncates depth) (environment : Environment)
    (arguments : CallArguments Expression) :
    (evaluateArguments effects depth environment arguments).Quiet := by
  match arguments with
  | ⟨positional, keyword⟩ =>
      apply (evaluateItems_quiet cuts environment positional).bind
      intro values
      exact (evaluateKeywords_quiet cuts environment keyword).bind fun _ => Run.quiet_pure _

end

end Expression

/-! ## Rendering -/

namespace Loop

theorem openItem_quiet (environment : Environment) (targets : List String) (item : Value) :
    (openItem environment targets item).Quiet := by
  apply (Run.quiet_openWith _).bind
  intro scope
  refine (Run.quiet_ofExcept (bindings targets item)).mapError.bind ?_
  exact fun bound => (Run.quiet_bindAll scope bound).bind fun _ => Run.quiet_pure _

theorem keep_quiet {passes : Value → Run TemplateError Bool}
    (quiet : ∀ item, (passes item).Quiet) (items : List Value) : (keep passes items).Quiet := by
  induction items with
  | nil => exact Run.quiet_pure _
  | cons item rest inductionHypothesis =>
      apply (quiet item).bind
      exact fun passed => inductionHypothesis.bind fun _ => Run.quiet_pure _

theorem visit_truncates (environment : Environment) (targets : List String) (length : Nat)
    {body : Environment → Run TemplateError Unit} (cuts : ∀ inside, (body inside).Truncates)
    (index : Nat) (items : List Value) :
    (visit environment targets length body index items).Truncates := by
  induction items generalizing index with
  | nil => exact (Run.quiet_pure _).truncates
  | cons item rest inductionHypothesis =>
      apply (openItem_quiet environment targets item).truncates.bind
      intro inside
      apply (Run.quiet_bind inside.scope "loop" (info index length)).truncates.bind
      intro _
      exact (cuts inside).bind fun _ => inductionHypothesis (index + 1)

end Loop

namespace Interpreter

theorem evaluateAt_quiet (cuts : effects.Truncates depth) (environment : Environment)
    (site : Expression → Site) (expression : Expression) :
    (evaluateAt effects depth environment site expression).Quiet :=
  (Expression.evaluate_quiet cuts environment expression).mapError

theorem renderOutput_truncates (cuts : effects.Truncates depth) (environment : Environment)
    (output : Output) : (renderOutput effects depth environment output).Truncates := by
  have chosen : (chosen effects depth environment output).Quiet := by
    rw [chosen]
    split
    · exact Run.quiet_pure _
    · exact (evaluateAt_quiet cuts environment _ _).bind fun _ => Run.quiet_pure _
  apply chosen.truncates.bind
  intro expression
  cases expression with
  | none => exact (Run.quiet_pure _).truncates
  | some expression =>
      exact (evaluateAt_quiet cuts environment _ expression).truncates.bind fun value =>
        cuts.emit environment value

theorem loopItems_quiet (cuts : effects.Truncates depth) (environment : Environment)
    (targets : List String) (iterable : Expression) (condition : Option Expression) :
    (loopItems effects depth environment targets iterable condition).Quiet := by
  apply (evaluateAt_quiet cuts environment _ iterable).bind
  intro value
  refine (Run.quiet_ofExcept (Loop.items targets iterable value)).mapError.bind ?_
  intro items
  cases condition with
  | none => exact Run.quiet_pure _
  | some condition =>
      apply Loop.keep_quiet
      intro item
      apply (Loop.openItem_quiet environment targets item).bind
      exact fun inside =>
        (evaluateAt_quiet cuts inside _ condition).bind fun _ => Run.quiet_pure _

theorem referred_quiet (cuts : effects.Truncates depth) (environment : Environment)
    (filename : Expression) : (referred effects depth environment filename).Quiet :=
  (evaluateAt_quiet cuts environment _ filename).bind fun _ => Run.quiet_ofExcept _

theorem renderInclusion_truncates (cuts : effects.Truncates depth) (environment : Environment)
    (filename : Expression) (ignoreMissing withContext : Bool) :
    (renderInclusion effects depth environment filename ignoreMissing
      withContext).Truncates := by
  apply (evaluateAt_quiet cuts environment _ filename).truncates.bind
  intro name
  split
  · exact cuts.inclusion environment _ withContext
  · split
    · exact (Run.quiet_pure _).truncates
    · exact (Run.quiet_throw _).truncates

theorem bindModule_quiet (scope : Scope) (imported : Environment)
    (withContext : Option Bool) : (bindModule scope imported withContext).Quiet :=
  (Run.quiet_openWith _).bind fun inner =>
    (Run.quiet_bindAll inner _).bind fun _ => Run.quiet_pure _

theorem importNames_quiet (environment imported : Environment)
    (names : List (String × String)) (withContext : Option Bool) :
    (importNames environment imported names withContext).Quiet := by
  rw [importNames]
  split
  · exact Run.quiet_throw _
  · exact (bindModule_quiet environment.scope imported withContext).bind fun _ =>
      Run.quiet_bindAll environment.scope _

theorem boxShows_quiet (cuts : effects.Truncates depth) (environment : Environment)
    (condition : Option Expression) :
    (boxShows effects depth environment condition).Quiet := by
  cases condition with
  | none => exact Run.quiet_pure _
  | some expression =>
      exact (evaluateAt_quiet cuts environment _ expression).bind fun _ => Run.quiet_pure _

mutual

/-- Rendering a node offers its texts to the sink in turn. -/
theorem renderNode_truncates (cuts : effects.Truncates depth) (environment : Environment)
    (node : Node) : (renderNode effects depth environment node).Truncates := by
  match node with
  | .comment _ _ => exact (Run.quiet_pure _).truncates
  | .data _ _ _ => exact Run.truncates_write _
  | .output output => exact renderOutput_truncates cuts environment output
  | .statement tag described _ =>
      exact (renderStatement_truncates cuts environment tag described).mapError fun _ => rfl
  | .wrapper ⟨nodes, _, _⟩ => exact renderNodes_truncates cuts environment nodes

theorem renderNodes_truncates (cuts : effects.Truncates depth) (environment : Environment)
    (nodes : List Node) : (renderNodes effects depth environment nodes).Truncates := by
  match nodes with
  | [] => exact (Run.quiet_pure _).truncates
  | node :: rest =>
      exact (renderNode_truncates cuts environment node).bind fun _ =>
        renderNodes_truncates cuts environment rest

theorem renderOptional_truncates (cuts : effects.Truncates depth) (environment : Environment)
    (body : Option (Body Node)) :
    (renderOptional effects depth environment body).Truncates := by
  match body with
  | none => exact (Run.quiet_pure _).truncates
  | some ⟨nodes, _, _⟩ => exact renderNodes_truncates cuts environment nodes

theorem renderBranches_truncates (cuts : effects.Truncates depth) (environment : Environment)
    (branches : List (Expression × Body Node)) :
    (renderBranches effects depth environment branches).Truncates := by
  match branches with
  | [] => exact (Run.quiet_pure _).truncates
  | (condition, ⟨nodes, _, _⟩) :: rest =>
      have taken := renderNodes_truncates cuts environment nodes
      have others := renderBranches_truncates cuts environment rest
      apply (evaluateAt_quiet cuts environment _ condition).truncates.bind
      intro value
      split
      · exact taken.bind fun _ => (Run.quiet_pure _).truncates
      · exact others

theorem renderStatement_truncates (cuts : effects.Truncates depth) (environment : Environment)
    (tag : String) (described : Statement Node) :
    (renderStatement effects depth environment tag described).Truncates := by
  match described with
  | .conditional branches otherwise =>
      have others := renderOptional_truncates cuts environment otherwise
      apply (renderBranches_truncates cuts environment branches).bind
      intro found
      split
      · exact others
      · exact (Run.quiet_pure _).truncates
  | .loop targets iterable condition ⟨nodes, _, _⟩ empty =>
      apply (loopItems_quiet cuts environment targets iterable condition).truncates.bind
      intro items
      split
      · exact (Run.quiet_openWith _).truncates.bind fun scope =>
          renderOptional_truncates cuts (environment.within scope) empty
      · exact Loop.visit_truncates environment targets items.length
          (fun inside => renderNodes_truncates cuts inside nodes) 0 items
  | .assignment target value =>
      exact ((evaluateAt_quiet cuts environment _ value).bind fun _ =>
        Run.quiet_bind environment.scope target _).truncates
  | .capture target ⟨nodes, _, _⟩ =>
      exact ((Run.quiet_capture _).bind fun _ =>
        Run.quiet_bind environment.scope target _).truncates
  | .block name => exact cuts.block environment name
  | .parent _ => exact (Run.quiet_pure _).truncates
  | .definition definition =>
      exact (Run.quiet_bind environment.scope definition.name _).truncates
  | .importModule filename target withContext =>
      apply Run.Quiet.truncates
      apply (referred_quiet cuts environment filename).bind
      intro imported
      exact (bindModule_quiet environment.scope imported withContext).bind fun _ =>
        Run.quiet_bind environment.scope target _
  | .importNames filename names withContext =>
      apply Run.Quiet.truncates
      apply (referred_quiet cuts environment filename).bind
      exact fun imported => importNames_quiet environment imported names withContext
  | .inclusion filename ignoreMissing withContext =>
      exact renderInclusion_truncates cuts environment filename ignoreMissing withContext
  | .box label condition ⟨nodes, _, _⟩ other =>
      apply (Run.truncates_write _).bind
      intro _
      apply (boxShows_quiet cuts environment condition).truncates.bind
      intro shown
      apply (Run.quiet_openWith _).truncates.bind
      intro scope
      split
      · exact (renderNodes_truncates cuts (environment.within scope) nodes).bind fun _ =>
          Run.truncates_write _
      · exact (renderOptional_truncates cuts (environment.within scope) other).bind fun _ =>
          Run.truncates_write _

end

/-! ## Uses by name -/

theorem enter_quiet (depth : Nat) (name : String) : (enter depth name).Quiet := by
  rw [enter]
  split
  · exact Run.quiet_throw _
  · exact Run.quiet_pure _

/-- The text of a macro is captured before a call gives it. -/
theorem callClosure_quiet (interpreter : Interpreter) (closure : Closure)
    (arguments : Arguments) (depth : Nat) :
    (callClosure interpreter closure arguments depth).Quiet :=
  (enter_quiet depth closure.name).bind fun _ =>
    (Run.quiet_capture _).bind fun _ => Run.quiet_pure _

/-- The text of the definitions behind `super` is captured too. -/
theorem callValue_quiet (natives : Natives) (interpreter : Interpreter) (depth : Nat)
    (callee : Expression) (value : Value) (arguments : Arguments) :
    (callValue natives interpreter depth callee value arguments).Quiet := by
  cases value with
  | closure closure => exact (callClosure_quiet interpreter closure arguments depth).mapError
  | function function =>
      cases function with
      | native name =>
          rw [callValue_native]
          exact Run.quiet_ofExcept _
      | super environment stored bodies =>
          rw [callValue_super]
          exact (Run.quiet_capture _).mapError.bind fun _ => Run.quiet_pure _
  | _ => exact Run.quiet_throw _

/-- An interpreter whose renderings may be cut. -/
def Truncates (interpreter : Interpreter) : Prop :=
  ∀ environment depth nodes, (interpreter.render environment depth nodes).Truncates

variable {interpreter : Interpreter}

theorem renderBlock_truncates (cuts : interpreter.Truncates) (environment : Environment)
    (depth : Nat) (bodies : List (Body Node)) :
    (renderBlock interpreter environment depth bodies).Truncates := by
  cases bodies with
  | nil => exact (Run.quiet_pure _).truncates
  | cons body overridden =>
      have opened : (openBlock environment depth overridden).Quiet := by
        apply (Run.quiet_openWith _).bind
        intro scope
        dsimp only
        split
        · exact (Run.quiet_bind scope "super" _).bind fun _ => Run.quiet_pure _
        · exact (Run.quiet_pure _).bind fun _ => Run.quiet_pure _
      exact opened.truncates.bind fun inside => cuts inside depth body.nodes

/-- What derived templates write is dropped, and the page of the root is offered. -/
theorem execute_truncates (cuts : interpreter.Truncates) (environment : Environment)
    (depth : Nat) : (interpreter.execute environment depth).Truncates := by
  have prepared : ∀ layers : List Layer,
      (prepare interpreter environment depth layers).Quiet := by
    intro layers
    induction layers with
    | nil => exact Run.quiet_pure _
    | cons layer rest inductionHypothesis =>
        exact (Run.quiet_capture _).bind fun _ => inductionHypothesis
  exact (prepared environment.lineage.derived).truncates.bind fun _ =>
    cuts environment depth environment.lineage.root.nodes

theorem includeTemplate_truncates (cuts : interpreter.Truncates)
    (environment included : Environment) (depth : Nat) (withContext : Bool) :
    (includeTemplate interpreter environment depth included withContext).Truncates := by
  apply (enter_quiet depth included.lineage.identifier).truncates.bind
  intro inside
  split
  · exact (Run.quiet_openWith _).truncates.bind fun scope =>
      execute_truncates cuts (included.within scope) inside
  · exact (Run.quiet_openWith _).truncates.bind fun scope =>
      (execute_truncates cuts (included.within scope) inside).releasing scope

theorem effects_truncates (cuts : interpreter.Truncates) (natives : Natives) (depth : Nat) :
    (Interpreter.effects natives interpreter).Truncates depth where
  lookup scope name := Run.quiet_lookup scope name
  call := callValue_quiet natives interpreter depth
  emit _ _ := Run.truncates_write _
  block environment _ := renderBlock_truncates cuts environment depth _
  inclusion environment included := includeTemplate_truncates cuts environment included depth

theorem bounded_truncates (natives : Natives) (bound : Nat) :
    (bounded natives bound).Truncates := by
  induction bound with
  | zero => exact fun _ _ _ => Run.truncates_exhausted
  | succ bound inductionHypothesis =>
      exact fun environment depth nodes =>
        renderNodes_truncates (effects_truncates inductionHypothesis natives depth)
          environment nodes

end Interpreter

namespace Template

theorem render_truncates (template : Template) (natives : Natives) (bound : Nat)
    (data : Scope) : (template.render (Interpreter.bounded natives bound) data).Truncates := by
  apply (Run.quiet_openWith _).truncates.bind
  intro scope
  apply (Run.quiet_modify fun store => store.update scope data).truncates.bind
  intro _
  exact (Interpreter.execute_truncates (Interpreter.bounded_truncates natives bound)
    (template.environment scope) 0).releasing scope

variable {natives : Natives} {bound : Nat}

/-- A limited rendering is an unlimited one up to the first write that does not fit.  Where
every prefix of the writes fits, it has the same result and ends with the same writes and in
the same store.  Where one does not, it fails with an error of the sink, and what is written
are the writes before the first one that does not fit, and nothing else. -/
theorem output_truncated (template : Template) (data : Scope) (store : Store) (limit : Nat)
    {result : Except TemplateError Unit} {after : RunState}
    (ran : template.render (Interpreter.bounded natives bound) data ⟨store, Sink.unlimited⟩ =
      some (result, after)) :
    ((∀ kept, kept <+: after.sink.writes.toList → Sink.byteCount kept ≤ limit) →
      template.render (Interpreter.bounded natives bound) data ⟨store, Sink.limited limit⟩ =
        some (result, ⟨after.store, ⟨after.sink.writes,
          some (limit - Sink.byteCount after.sink.writes.toList)⟩⟩)) ∧
    ((¬ ∀ kept, kept <+: after.sink.writes.toList → Sink.byteCount kept ≤ limit) →
      ∃ kept text rest error stopped,
        after.sink.writes.toList = kept ++ text :: rest ∧
          Sink.byteCount kept ≤ limit ∧ limit < Sink.byteCount (kept ++ [text]) ∧
            template.render (Interpreter.bounded natives bound) data
                ⟨store, Sink.limited limit⟩ = some (.error error, stopped) ∧
              error.rootCause = .output ∧ stopped.sink.writes.toList = kept) := by
  rcases render_truncates template natives bound data ran with ⟨texts, written, cut⟩
  have writes : after.sink.writes = texts.toArray := by
    rw [written]
    simp
  rw [writes]
  constructor
  · intro fits
    have taken := cut (Sink.limited limit)
    rw [Sink.limited, Sink.offer_of_le #[] (fits texts (List.prefix_refl texts)),
      Array.empty_append] at taken
    exact taken.of_ok
  · intro exceeds
    have total : limit < Sink.byteCount texts := by
      by_contra within
      apply exceeds
      intro kept beginning
      exact Nat.le_trans (Sink.byteCount_mono beginning) (Nat.le_of_not_lt within)
    rcases Sink.exists_first_exceeding total with ⟨kept, text, rest, rfl, fits, beyond⟩
    have stopped := cut (Sink.limited limit)
    rw [Sink.limited, Sink.offer_of_lt #[] fits beyond] at stopped
    rcases stopped.of_error with ⟨error, reached, caused, ended⟩
    exact ⟨kept, text, rest, error, _, rfl, fits, beyond, ended, caused, by simp⟩

/-- A template that writes a word, a captured text inside a conditional, and a mark. -/
def letter : Template where
  identifier := "letter"
  lineage :=
    let captured : Body Node := ⟨[.data "Ada Lovelace" ⟨false, false⟩ .start], none, .start⟩
    let shown : Body Node :=
      ⟨[.output ⟨.name "name" .start, none, none, .start⟩], none, .start⟩
    ⟨⟨"letter",
      [.data "Dear " ⟨false, false⟩ .start, .statement "set" (.capture "name" captured) .start,
        .statement "if" (.conditional [(.name "name" .start, shown)] none) .start,
        .data "!" ⟨false, false⟩ .start], [], []⟩, []⟩
  config := .default
  registries := .standard
  loader := .empty

/-- With room for ten bytes the word is written and the captured text, which is longer, is
not; that it was captured has taken no room. -/
theorem output_truncated_letter :
    ∃ after,
      letter.render (Interpreter.bounded Natives.standard 1) (Store.empty.scopeOf []).1
          ⟨(Store.empty.scopeOf []).2, Sink.unlimited⟩ = some (.ok (), after) ∧
        after.sink.writes.toList = ["Dear ", "Ada Lovelace", "!"] ∧
        (¬ ∀ kept, kept <+: after.sink.writes.toList → Sink.byteCount kept ≤ 10) ∧
        ∃ error stopped,
          letter.render (Interpreter.bounded Natives.standard 1) (Store.empty.scopeOf []).1
              ⟨(Store.empty.scopeOf []).2, Sink.limited 10⟩ = some (.error error, stopped) ∧
            error.rootCause = .output ∧ stopped.sink.writes.toList = ["Dear "] := by
  have unlimited : ∃ after,
      letter.render (Interpreter.bounded Natives.standard 1) (Store.empty.scopeOf []).1
          ⟨(Store.empty.scopeOf []).2, Sink.unlimited⟩ = some (.ok (), after) ∧
        after.sink.writes.toList = ["Dear ", "Ada Lovelace", "!"] :=
    ⟨_, rfl, rfl⟩
  rcases unlimited with ⟨after, ran, writes⟩
  have exceeds :
      ¬ ∀ kept, kept <+: after.sink.writes.toList → Sink.byteCount kept ≤ 10 := by
    intro fits
    have whole := fits ["Dear ", "Ada Lovelace", "!"] (writes ▸ List.prefix_refl _)
    exact absurd whole (by decide)
  rcases (output_truncated letter _ _ 10 ran).2 exceeds with
    ⟨kept, text, rest, error, stopped, split, fits, beyond, failed, caused, written⟩
  refine ⟨after, ran, writes, exceeds, error, stopped, failed, caused, ?_⟩
  rw [written]
  rw [writes] at split
  match kept with
  | [] =>
      cases split
      exact absurd beyond (by decide)
  | [word] =>
      cases split
      rfl
  | word :: second :: more =>
      simp only [List.cons_append, List.cons.injEq] at split
      rcases split with ⟨rfl, rfl, _⟩
      have both : Sink.byteCount ["Dear ", "Ada Lovelace"] ≤ 10 :=
        Nat.le_trans (Sink.byteCount_mono (List.prefix_append _ more)) fits
      exact absurd both (by decide)

end Template

end TemplateEngine
