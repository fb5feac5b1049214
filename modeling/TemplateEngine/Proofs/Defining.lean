import TemplateEngine.Proofs.Extending
import TemplateEngine.Proofs.Reading
import TemplateEngine.Proofs.References
import TemplateEngine.Proofs.ScopeTree

/-!
# Macros that are read

No two parameters of a macro have the same name, wherever in a template the macro stands, and a
template lists each of its macros under a name of its own.  So binding the parameters of a macro,
or the macros of a template, binds each name once.
-/

namespace TemplateEngine

/-! ## Headers of macros -/

namespace TagReader

variable {α β : Type}

/-- What a reader gives is known to the one that follows it. -/
theorem Gives.bind {wanted : α → Prop} {last : β → Prop} {reader : TagReader α}
    {continuation : α → TagReader β} (first : reader.Gives wanted)
    (second : ∀ value, wanted value → (continuation value).Gives last) :
    (reader >>= continuation).Gives last := by
  intro cursor value given
  rw [run_bind] at given
  rcases ran : reader.run.run cursor with ⟨_ | middle, after⟩
  · rw [ran] at given
    cases given
  · rw [ran] at given
    exact second middle (first cursor middle (by rw [ran])) after value given

theorem gives_anything (reader : TagReader α) : reader.Gives fun _ => True :=
  fun _ _ _ => True.intro

/-- A parameter has another name than those before it. -/
theorem gives_parameter (definition : String) (before : List (String × Option Expression)) :
    (parameter definition before).Gives fun next => next.1 ∉ Table.names before := by
  refine gives_bind fun token => ?_
  split
  · intro cursor value given
    cases given
  · rename_i unused
    have new : token.text ∉ Table.names before := by
      intro member
      obtain ⟨earlier, listed, same⟩ := List.mem_map.1 member
      exact unused (List.any_eq_true.2 ⟨earlier, listed, beq_iff_eq.2 same⟩)
    refine gives_bind fun defaulted => gives_ite (gives_bind fun value => ?_) ?_
    · exact gives_pure new
    · exact gives_pure new

theorem gives_parametersFrom (definition : String) (bound : Nat)
    {gathered : List (String × Option Expression)} (distinct : (Table.names gathered).Nodup) :
    (parametersFrom definition bound gathered).Gives fun parameters =>
      (Table.names parameters).Nodup := by
  induction bound generalizing gathered with
  | zero => exact gives_fail _
  | succ bound inductionHypothesis =>
      have next : (parameter definition gathered >>= fun next =>
          parametersFrom definition bound (gathered ++ [next])).Gives fun parameters =>
            (Table.names parameters).Nodup := by
        refine (gives_parameter definition gathered).bind fun next new => inductionHypothesis ?_
        rw [Table.names, List.map_append]
        refine List.nodup_append.2 ⟨distinct, List.pairwise_singleton _ _, ?_⟩
        intro name member other last
        rw [List.mem_singleton.1 last]
        exact fun same => new (same ▸ member)
      refine gives_bind fun closed => gives_ite (gives_pure distinct) ?_
      exact gives_ite (gives_bind fun _ => next) next

theorem gives_definitionHeader :
    definitionHeader.Gives fun header => (Table.names header.2).Nodup := by
  refine gives_bind fun token => gives_bind fun _ => gives_bind fun cursor => ?_
  have none_yet : (Table.names ([] : List (String × Option Expression))).Nodup := List.nodup_nil
  refine (gives_parametersFrom token.text _ none_yet).bind fun parameters distinct => ?_
  exact gives_bind fun _ => gives_pure distinct

end TagReader

/-! ## Macros of templates -/

/-- Whether no two parameters of a macro have the same name. -/
def Definition.Distinct (definition : Definition Node) : Prop :=
  (Table.names definition.parameters).Nodup

/-- Whether a statement, if it defines a macro, gives it parameters with distinct names. -/
def Statement.Distinct : Statement Node → Prop
  | .definition defined => defined.Distinct
  | _ => True

/-- Whether the macros that some nodes define, in bodies too, have parameters with distinct
names. -/
def Node.DefineDistinctly (nodes : List Node) : Prop :=
  ∀ described ∈ Node.allStatements nodes, described.Distinct

/-- Whether a macro is defined somewhere in a layer, or listed there. -/
def Layer.Defines (layer : Layer) (definition : Definition Node) : Prop :=
  .definition definition ∈ layer.statements ∨ ∃ name, (name, definition) ∈ layer.macros

/-- Whether the macros of a layer have parameters with distinct names, and each of those that it
lists has a name of its own. -/
structure Layer.DefinesDistinctly (layer : Layer) : Prop where
  distinct : ∀ definition, layer.Defines definition → definition.Distinct
  names : (Table.names layer.macros).Nodup

/-- Whether the macros of all layers of a lineage are distinct in that way. -/
def Lineage.DefinesDistinctly (lineage : Lineage) : Prop :=
  ∀ layer ∈ lineage.layers, layer.DefinesDistinctly

namespace SourceReader

variable {α β : Type}

/-- Whether the macros that have been read are distinct. -/
structure Sound (state : SourceState) : Prop where
  blocks : ∀ entry ∈ state.blocks, Node.DefineDistinctly entry.2.nodes
  macros : ∀ entry ∈ state.macros,
    entry.2.Distinct ∧ Node.DefineDistinctly entry.2.body.nodes
  names : (Table.names state.macros).Nodup

theorem Sound.congr {state other : SourceState} (sound : Sound state)
    (blocks : other.blocks = state.blocks) (macros : other.macros = state.macros) :
    Sound other :=
  ⟨blocks ▸ sound.blocks, macros ▸ sound.macros, macros ▸ sound.names⟩

/-- What has been read is a layer whose macros are distinct. -/
theorem Sound.definesDistinctly {state : SourceState} (sound : Sound state) {nodes : List Node}
    (distinct : Node.DefineDistinctly nodes) (identifier : String) :
    (Layer.mk identifier nodes state.blocks state.macros).DefinesDistinctly where
  names := sound.names
  distinct definition defined := by
    rcases defined with stands | ⟨name, listed⟩
    · simp only [Layer.statements, List.mem_append, List.mem_flatMap] at stands
      rcases stands with (stands | ⟨entry, listed, stands⟩) | ⟨entry, listed, stands⟩
      · exact distinct _ stands
      · exact sound.blocks entry listed _ stands
      · exact (sound.macros entry listed).2 _ stands
    · exact (sound.macros _ listed).1

/-- A reader keeps what has been read sound and gives what is wanted, if it gives anything. -/
def Gathers (reader : SourceReader α) (wanted : α → Prop) : Prop :=
  ∀ before, Sound before →
    Meets (fun _ => True) reader before fun value after => wanted value ∧ Sound after

namespace Gathers

variable {reader : SourceReader α} {continuation : α → SourceReader β} {wanted : α → Prop}
  {last : β → Prop}

theorem bind (first : Gathers reader wanted)
    (second : ∀ value, wanted value → Gathers (continuation value) last) :
    Gathers (reader >>= continuation) last :=
  fun before sound => (first before sound).bind fun value after given =>
    second value given.1 after given.2

theorem pure {value : α} (given : wanted value) : Gathers (Pure.pure value) wanted :=
  fun _ sound => ⟨given, sound⟩

theorem fault (fault : SyntaxFault) (position : Position) :
    Gathers (SourceReader.fault fault position) wanted :=
  fun _ _ => True.intro

/-- What comes next may depend on the state. -/
theorem get {continuation : SourceState → SourceReader β}
    (next : ∀ state, Gathers (continuation state) last) :
    Gathers (MonadState.get >>= continuation) last :=
  fun before sound => .get (next before before sound)

theorem ite {condition : Prop} [Decidable condition] {first second : SourceReader α}
    (holds : Gathers first wanted) (fails : Gathers second wanted) :
    Gathers (if condition then first else second) wanted := by
  split
  · exact holds
  · exact fails

theorem within {reader : TagReader α} (gives : reader.Gives wanted) (cursor : Cursor) :
    Gathers (SourceReader.within cursor reader) wanted := by
  intro before sound
  unfold SourceReader.within
  split
  · exact ⟨gives cursor _ ‹_›, sound⟩
  · exact True.intro

/-- What is read in a tag says nothing about the macros that have been read. -/
theorem inTag (cursor : Cursor) (reader : TagReader α) :
    Gathers (SourceReader.within cursor reader) fun _ => True :=
  within (TagReader.gives_anything reader) cursor

end Gathers

/-! ### Statements -/

section Readers

variable {setting : SourceSetting} {bodies : BodyReader}

/-- A reader of bodies whose macros are distinct. -/
def BodiesGather (bodies : BodyReader) : Prop :=
  ∀ names, Gathers (bodies names) fun result => Node.DefineDistinctly result.1.nodes

/-- Whether the macros in a statement are distinct, the one that it defines included. -/
def DescribesDistinctly (described : Statement Node) : Prop :=
  ∀ inner ∈ described :: Node.innerStatements described, inner.Distinct

theorem branches_gathers (gathers : BodiesGather bodies) (bound : Nat) (condition : Expression) :
    Gathers (branches bodies bound condition) fun result =>
      ∀ inner ∈ Node.branchesStatements result.1 ++ Node.optionStatements result.2,
        inner.Distinct := by
  induction bound generalizing condition with
  | zero => exact .fault _ _
  | succ bound inductionHypothesis =>
      refine (gathers _).bind fun ⟨body, closing⟩ distinct => ?_
      dsimp only
      split
      · refine (Gathers.inTag closing _).bind fun next _ => ?_
        refine (inductionHypothesis next).bind fun ⟨rest, otherwise⟩ others => .pure ?_
        rw [Node.branchesStatements, List.append_assoc]
        exact List.forall_mem_append.2 ⟨distinct, others⟩
      · refine (Gathers.inTag closing _).bind fun _ _ => ?_
        refine (gathers _).bind fun ⟨otherwise, closing⟩ others => ?_
        refine (Gathers.inTag closing _).bind fun _ _ => .pure ?_
        rw [Node.branchesStatements, Node.branchesStatements, List.append_nil]
        exact List.forall_mem_append.2 ⟨distinct, others⟩
      · refine (Gathers.inTag closing _).bind fun _ _ => .pure ?_
        rw [Node.branchesStatements, Node.branchesStatements, Node.optionStatements]
        simpa [Node.DefineDistinctly] using distinct

theorem loop_gathers (gathers : BodiesGather bodies) (cursor : Cursor) :
    Gathers (loop bodies cursor) DescribesDistinctly := by
  refine (Gathers.inTag cursor _).bind fun header _ => ?_
  refine (gathers _).bind fun ⟨body, closing⟩ distinct => ?_
  refine (Gathers.inTag closing _).bind fun _ _ => .ite ?_ (.pure ?_)
  · refine (gathers _).bind fun ⟨empty, closing⟩ others => ?_
    refine (Gathers.inTag closing _).bind fun _ _ => .pure ?_
    exact List.forall_mem_cons.2 ⟨True.intro, List.forall_mem_append.2 ⟨distinct, others⟩⟩
  · exact List.forall_mem_cons.2 ⟨True.intro, List.forall_mem_append.2 ⟨distinct, nofun⟩⟩

theorem assignment_gathers (gathers : BodiesGather bodies) (cursor : Cursor) :
    Gathers (assignment bodies cursor) DescribesDistinctly := by
  refine (Gathers.inTag cursor _).bind fun header _ => ?_
  obtain ⟨target, _ | value⟩ := header
  · refine (gathers _).bind fun ⟨body, closing⟩ distinct => ?_
    refine (Gathers.inTag closing _).bind fun _ _ => .pure ?_
    exact List.forall_mem_cons.2 ⟨True.intro, distinct⟩
  · exact .pure (List.forall_mem_cons.2 ⟨True.intro, nofun⟩)

theorem block_gathers (gathers : BodiesGather bodies) (cursor : Cursor) :
    Gathers (block bodies cursor) DescribesDistinctly := by
  refine (Gathers.inTag cursor _).bind fun name _ => ?_
  refine (gathers _).bind fun ⟨body, closing⟩ distinct => ?_
  refine (Gathers.inTag closing _).bind fun _ _ before sound =>
    .get (.ite (fun _ => True.intro) fun _ => .set ⟨?_, ?_⟩)
  · exact List.forall_mem_cons.2 ⟨True.intro, nofun⟩
  · refine ⟨fun entry member => ?_, sound.macros, sound.names⟩
    rcases Table.mem_of_mem_store member with rfl | member
    · exact distinct
    · exact sound.blocks entry member

theorem parent_gathers (setting : SourceSetting) (cursor : Cursor) :
    Gathers (parent setting cursor) DescribesDistinctly := by
  refine (Gathers.inTag cursor _).bind fun filename _ before sound =>
    .get (.ite (fun _ => True.intro) fun _ => ?_)
  cases setting.loadParent filename with
  | error error => exact True.intro
  | ok lineage =>
      exact ⟨List.forall_mem_cons.2 ⟨True.intro, nofun⟩, sound.congr rfl rfl⟩

theorem definition_gathers (gathers : BodiesGather bodies) (cursor : Cursor) :
    Gathers (definition bodies cursor) DescribesDistinctly := by
  refine (Gathers.within TagReader.gives_definitionHeader cursor).bind
    fun ⟨name, parameters⟩ distinct => ?_
  refine (gathers _).bind fun ⟨body, closing⟩ inside => ?_
  refine (Gathers.inTag closing _).bind fun _ _ before sound => ?_
  refine ⟨List.forall_mem_cons.2 ⟨distinct, inside⟩, sound.blocks, fun entry member => ?_,
    Table.nodup_names_store sound.names _ _⟩
  rcases Table.mem_of_mem_store member with rfl | member
  · exact ⟨distinct, inside⟩
  · exact sound.macros entry member

theorem box_gathers (setting : SourceSetting) (gathers : BodiesGather bodies) (cursor : Cursor) :
    Gathers (box setting bodies cursor) DescribesDistinctly := by
  refine (Gathers.inTag cursor _).bind fun condition _ =>
    .get fun state => ?_
  refine (gathers _).bind fun ⟨body, closing⟩ distinct => ?_
  refine (Gathers.inTag closing _).bind fun _ _ => .ite ?_ (.pure ?_)
  · refine (gathers _).bind fun ⟨other, closing⟩ others => .pure ?_
    exact List.forall_mem_cons.2 ⟨True.intro, List.forall_mem_append.2 ⟨distinct, others⟩⟩
  · exact List.forall_mem_cons.2 ⟨True.intro, List.forall_mem_append.2 ⟨distinct, nofun⟩⟩

theorem statement_gathers (setting : SourceSetting) (gathers : BodiesGather bodies) (bound : Nat)
    (kind : StatementKind) (cursor : Cursor) :
    Gathers (statement setting bound bodies kind cursor) DescribesDistinctly := by
  have alone {described : Statement Node} (plain : described.Distinct)
      (closed : Node.innerStatements described = []) : DescribesDistinctly described :=
    List.forall_mem_cons.2 ⟨plain, closed ▸ nofun⟩
  cases kind with
  | conditional =>
      refine (Gathers.inTag cursor _).bind fun condition _ => ?_
      refine (branches_gathers gathers bound condition).bind fun ⟨branches, otherwise⟩ distinct =>
        .pure ?_
      exact List.forall_mem_cons.2 ⟨True.intro, distinct⟩
  | loop => exact loop_gathers gathers cursor
  | assignment => exact assignment_gathers gathers cursor
  | block => exact block_gathers gathers cursor
  | parent => exact parent_gathers setting cursor
  | definition => exact definition_gathers gathers cursor
  | importModule =>
      exact .within (TagReader.gives_importModuleHeader fun _ _ _ => alone True.intro rfl) cursor
  | importNames =>
      exact .within (TagReader.gives_importNamesHeader fun _ _ _ => alone True.intro rfl) cursor
  | inclusion =>
      exact .within (TagReader.gives_inclusionHeader fun _ _ _ => alone True.intro rfl) cursor
  | box => exact box_gathers setting gathers cursor

/-! ### Nodes -/

/-- Whether the macros in a node are distinct. -/
def NodeDistinct (node : Node) : Prop :=
  ∀ described ∈ node.statements, described.Distinct

theorem next?_gathers : Gathers next? fun _ => True := by
  intro before sound
  refine .get ?_
  split
  · exact .set ⟨True.intro, sound.congr rfl rfl⟩
  · exact ⟨True.intro, sound⟩

theorem tag_gathers (closer : TokenKind) (start : Position) :
    Gathers (tag closer start) fun _ => True := by
  intro before sound
  refine .get ?_
  split
  · exact .set ⟨True.intro, sound.congr rfl rfl⟩
  · exact True.intro

theorem atEnd_gathers : Gathers atEnd fun _ => True := by
  refine .get fun state => ?_
  split <;> exact .pure True.intro

theorem node_gathers (setting : SourceSetting) (gathers : BodiesGather bodies) (bound : Nat) :
    Gathers (node setting bound bodies) NodeDistinct := by
  refine next?_gathers.bind fun taken _ => ?_
  cases taken with
  | none => exact .fault _ _
  | some token =>
      dsimp only
      split
      · exact .pure nofun
      · exact .pure nofun
      · refine (tag_gathers .variableEnd token.position).bind fun cursor _ => ?_
        refine .ite (.fault _ _) ?_
        exact (Gathers.inTag cursor _).bind fun _ _ => .pure nofun
      · refine next?_gathers.bind fun taken _ => ?_
        cases taken with
        | none => exact .fault _ _
        | some name =>
            refine .ite ?_ (.fault _ _)
            split
            · exact .fault _ _
            · rename_i kind _
              refine (tag_gathers .blockEnd name.position).bind fun cursor _ => ?_
              exact (statement_gathers setting gathers bound kind cursor).bind
                fun described distinct => .pure distinct
      · exact .fault _ _

/-- Nodes up to a tag form a body. -/
theorem bodyOf_gathers (setting : SourceSetting)
    {nodes : List String → Position → SourceReader (List Node × String × Cursor)}
    (gathers : ∀ names start, Gathers (nodes names start) fun result =>
      Node.DefineDistinctly result.1) :
    BodiesGather (bodyOf setting nodes) := by
  intro names
  have placed : Gathers (position setting) fun _ => True := by
    refine .get fun state => ?_
    split <;> exact .pure True.intro
  refine placed.bind fun start _ => ?_
  exact (gathers names start).bind fun _ distinct => .pure distinct

theorem nodesUntil_gathers (setting : SourceSetting) (bound : Nat) (names : List String)
    (start : Position) :
    Gathers (nodesUntil setting bound names start) fun result =>
      Node.DefineDistinctly result.1 := by
  induction bound generalizing names start with
  | zero => exact .fault _ _
  | succ bound inductionHypothesis =>
      refine atEnd_gathers.bind fun ended _ => .ite (.fault _ _) (.get fun state => ?_)
      split
      · rename_i name _
        have dropped : Gathers
            (modify fun state => { state with remaining := state.remaining.drop 2 })
            fun _ => True :=
          fun _ sound => ⟨True.intro, sound.congr rfl rfl⟩
        refine dropped.bind fun _ _ => ?_
        exact (tag_gathers .blockEnd name.position).bind fun _ _ => .pure nofun
      · have bodies := bodyOf_gathers setting inductionHypothesis
        refine (node_gathers setting bodies bound).bind fun first distinct => ?_
        refine (inductionHypothesis names start).bind fun ⟨rest, endTag, closing⟩ others => ?_
        exact .pure (List.forall_mem_append.2 ⟨distinct, others⟩)

/-- The macros in the nodes of a source are distinct. -/
theorem nodesToEnd_gathers (setting : SourceSetting) (bound : Nat) :
    Gathers (nodesToEnd setting bound) Node.DefineDistinctly := by
  induction bound with
  | zero => exact .pure nofun
  | succ bound inductionHypothesis =>
      refine atEnd_gathers.bind fun ended _ => .ite (.pure nofun) ?_
      have bodies := bodyOf_gathers setting (nodesUntil_gathers setting bound)
      refine (node_gathers setting bodies bound).bind fun first distinct => ?_
      refine inductionHypothesis.bind fun rest others => .pure ?_
      exact List.forall_mem_append.2 ⟨distinct, others⟩

end Readers

end SourceReader

/-! ## Sources -/

namespace Lineage

variable {config : Config} {statements : Registry StatementKind} {loader : Loader}
  {identifier source : String} {lineage : Lineage}

theorem definesDistinctly_of_outline {described : Lineage}
    (outlined : outline config statements loader identifier source = .ok described) :
    described.layer.DefinesDistinctly := by
  cases lexed : Token.tokenize config source with
  | error error =>
      simp only [outline, read, lexed] at outlined
      cases outlined
  | ok tokens =>
      let setting : SourceSetting := ⟨identifier, config, loader, statements,
        (tokens.getLast?.map Token.position).getD default, Loading.naming⟩
      have gathers := SourceReader.nodesToEnd_gathers setting tokens.length
        ⟨tokens, none, [], []⟩ ⟨List.forall_mem_nil _, List.forall_mem_nil _, List.nodup_nil⟩
      rw [outline, read_of_tokenize lexed] at outlined
      rw [SourceReader.Meets] at gathers
      split at gathers
      · rename_i nodes after ran
        rw [ran] at outlined
        cases outlined
        rw [layer_extending]
        exact gathers.2.definesDistinctly gathers.1 identifier
      · rename_i error ran
        rw [ran] at outlined
        cases outlined

/-- What is read has distinct macros if the parents that are loaded have. -/
theorem definesDistinctly_of_read {loadParent : Loading}
    (parents : ∀ filename lineage, loadParent filename = .ok lineage →
      lineage.DefinesDistinctly)
    (given : read config statements loader identifier source loadParent = .ok lineage) :
    lineage.DefinesDistinctly := by
  obtain ⟨described, outlined, ⟨-, rfl⟩ | ⟨filename, parent, -, loaded, rfl⟩⟩ :=
    read_eq_ok_iff.1 given
  all_goals have own := definesDistinctly_of_outline outlined
  · exact List.forall_mem_singleton.2 own
  · exact List.forall_mem_cons.2 ⟨own, parents filename parent loaded⟩

/-- The macros of all that is read are distinct, in the templates that are extended too. -/
theorem definesDistinctly_of_ofSource {depth : Nat}
    (given : ofSource config statements depth loader identifier source = .ok lineage) :
    lineage.DefinesDistinctly := by
  induction depth generalizing loader identifier source lineage with
  | zero =>
      refine definesDistinctly_of_read (fun filename parent loaded => ?_) given
      cases loaded
  | succ depth inductionHypothesis =>
      refine definesDistinctly_of_read (fun filename parent loaded => ?_) given
      obtain ⟨_, _, _, _, _, _, extended⟩ := loadParent_eq_ok_iff.1 loaded
      exact inductionHypothesis extended

theorem definesDistinctly_of_load
    (given : load config statements loader identifier = .ok lineage) :
    lineage.DefinesDistinctly := by
  unfold load at given
  cases found : loader.read identifier with
  | error error =>
      rw [found] at given
      cases given
  | ok source =>
      rw [found] at given
      exact definesDistinctly_of_ofSource given

end Lineage

/-- The macros of a template that is referred to are distinct. -/
theorem Environment.definesDistinctly_of_refer {environment included : Environment}
    {filename : String} (referred : environment.refer filename = .ok included) :
    included.lineage.DefinesDistinctly := by
  obtain ⟨_, _, lineage, _, _, loaded, rfl⟩ := Environment.exists_of_refer referred
  exact Lineage.definesDistinctly_of_load loaded

end TemplateEngine
