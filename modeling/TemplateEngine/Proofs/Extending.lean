import TemplateEngine.Proofs.Extending.Asking
import TemplateEngine.Template

/-!
# Templates that extend others

What a source describes can be told apart from what it extends: it is read with a parent that is
only named, and the lineage of the parent that it asks for follows.  So the template that a
lineage extends is the one that its own tag names.  And since parents may nest in each other
only so deep, what is read below a limit is read below a higher one.
-/

namespace TemplateEngine

/-- A memory loader serves the templates that it finds, under the same names. -/
theorem Loader.memory_of_inherit {templates : Table String} {name identifier : String}
    {derived : Loader} (inherited : (memory templates).inherit name = .ok derived)
    (resolved : (memory templates).resolve name = .ok identifier) :
    derived = .memory templates ∧ identifier = name := by
  simp only [inherit, resolve] at inherited resolved
  split at inherited
  · rename_i listed
    rw [if_pos listed] at resolved
    cases inherited
    cases resolved
    exact ⟨rfl, rfl⟩
  · cases inherited

/-! ## Sources -/

/-- The statement of a node is among those in the nodes. -/
theorem Node.mem_allStatements {tag : String} {described : Statement Node} {position : Position}
    {nodes : List Node} (member : .statement tag described position ∈ nodes) :
    described ∈ Node.allStatements nodes := by
  induction nodes with
  | nil => cases member
  | cons node rest inductionHypothesis =>
      rcases List.mem_cons.1 member with rfl | member
      · exact List.mem_append_left _ List.mem_cons_self
      · exact List.mem_append_right _ (inductionHypothesis member)

namespace Lineage

variable {config : Config} {statements : Registry StatementKind} {loader : Loader}
  {identifier source : String} {lineage : Lineage}

theorem layer_extending (layer : Layer) (parent : Option Lineage) :
    (extending layer parent).layer = layer := by
  cases parent <;> rfl

/-- What a source describes, with a parent that is only named. -/
def outline (config : Config) (statements : Registry StatementKind) (loader : Loader)
    (identifier source : String) : Except TemplateError Lineage :=
  read config statements loader identifier source Loading.naming

/-- The parent that the reading of a source asks for.  Where no parent can be loaded, reading
stops at the first extends tag. -/
def asked? (config : Config) (statements : Registry StatementKind) (loader : Loader)
    (identifier source : String) : Option String :=
  match read config statements loader identifier source fun filename =>
      .error (.recursion filename maxDepth) with
  | .error (.recursion filename _) => some filename
  | _ => none

/-- Apart from its parents a source can only have faults of its own. -/
theorem exists_fault_of_outline {error : TemplateError}
    (failed : outline config statements loader identifier source = .error error) :
    ∃ fault, error = .parse fault := by
  cases lexed : Token.tokenize config source with
  | error fault =>
      simp only [outline, read, lexed] at failed
      cases failed
      exact ⟨fault, rfl⟩
  | ok tokens =>
      have meets := read_meets statements loader identifier Loading.naming
        (fun error => ∃ fault, error = .parse fault) lexed (fun fault _ => ⟨fault, rfl⟩)
        fun _ _ failed => by cases failed
      rw [outline] at failed
      rw [failed] at meets
      exact meets

/-- Reading a source is loading the parent that it asks for, if any, and finding what it
describes.  It asks for the parent that an extends tag names, in the body of a block too. -/
theorem exists_asked (config : Config) (statements : Registry StatementKind) (loader : Loader)
    (identifier source : String) :
    ∃ asked : Option String,
      (∀ loadParent, read config statements loader identifier source loadParent =
        asked.mapM loadParent >>= fun parent =>
          (outline config statements loader identifier source).map fun described =>
            extending described.layer parent) ∧
      ∀ described, outline config statements loader identifier source = .ok described →
        ∀ filename, asked = some filename ↔
          .parent filename ∈ Node.allStatements described.layer.nodes ∨
            SourceReader.Inside described.layer.blocks filename := by
  cases lexed : Token.tokenize config source with
  | error fault =>
      refine ⟨none, fun loadParent => ?_, fun described given => ?_⟩
      · simp only [outline, read, lexed]
        rfl
      · simp only [outline, read, lexed] at given
        cases given
  | ok tokens =>
      let setting : SourceSetting := ⟨identifier, config, loader, statements,
        (tokens.getLast?.map Token.position).getD default, Loading.naming⟩
      let start : SourceState := ⟨tokens, none, [], []⟩
      have asks : SourceReader.Asks start _ _ :=
        SourceReader.nodesToEnd_asks setting tokens.length
      obtain ⟨asked, -, runs, given⟩ := asks
      have outlined : outline config statements loader identifier source =
          ((SourceReader.nodesToEnd setting tokens.length).run start).map fun result =>
            extending ⟨identifier, result.1, result.2.blocks, result.2.macros⟩
              result.2.parent := read_of_tokenize lexed ..
      refine ⟨asked, fun loadParent => ?_, fun described found filename => ?_⟩
      · rw [read_of_tokenize lexed, outlined]
        change ((SourceReader.nodesToEnd { setting with loadParent := loadParent }
          tokens.length).run (start.under none)).map _ = _
        rw [runs loadParent none rfl]
        cases asked.mapM loadParent with
        | error error => rfl
        | ok loaded =>
            change Except.map _ (Except.map _ ((SourceReader.nodesToEnd setting
              tokens.length).run start)) = Except.map _ (Except.map _ _)
            cases (SourceReader.nodesToEnd setting tokens.length).run start with
            | error error => rfl
            | ok result => simp [Except.map, layer_extending, SourceState.under]
      · rw [outlined] at found
        cases ran : (SourceReader.nodesToEnd setting tokens.length).run start with
        | error error =>
            rw [ran] at found
            cases found
        | ok result =>
            obtain ⟨nodes, after⟩ := result
            rw [ran] at found
            cases found
            obtain ⟨parents, told⟩ := given nodes after ran
            have naming : asked = some filename ↔ after.parent = some (.named filename) := by
              rw [parents]
              cases asked with
              | none => exact iff_of_false (fun none => by cases none) fun none => by cases none
              | some other => simp [Lineage.named_inj]
            rw [naming, layer_extending]
            constructor
            · intro present
              exact (told.found filename present).resolve_left fun before => by cases before
            · rintro (member | inside)
              · exact told.named filename member
              · refine (told.stored filename inside).resolve_left ?_
                rintro ⟨name, body, held, -⟩
                cases held

/-- The parent that a source asks for is the one that it cannot be read without. -/
theorem asked?_spec (config : Config) (statements : Registry StatementKind) (loader : Loader)
    (identifier source : String) :
    (∀ loadParent, read config statements loader identifier source loadParent =
      (asked? config statements loader identifier source).mapM loadParent >>= fun parent =>
        (outline config statements loader identifier source).map fun described =>
          extending described.layer parent) ∧
    ∀ described, outline config statements loader identifier source = .ok described →
      ∀ filename, asked? config statements loader identifier source = some filename ↔
        .parent filename ∈ Node.allStatements described.layer.nodes ∨
          SourceReader.Inside described.layer.blocks filename := by
  obtain ⟨asked, runs, given⟩ := exists_asked config statements loader identifier source
  have same : asked? config statements loader identifier source = asked := by
    rw [asked?, runs]
    cases asked with
    | some filename => rfl
    | none =>
        cases outlined : outline config statements loader identifier source with
        | error error =>
            obtain ⟨fault, rfl⟩ := exists_fault_of_outline outlined
            rfl
        | ok described => rfl
  rw [same]
  exact ⟨runs, given⟩

/-- Reading a source is loading the parent that it asks for, if any, and finding what it
describes. -/
theorem read_eq (config : Config) (statements : Registry StatementKind) (loader : Loader)
    (identifier source : String) (loadParent : Loading) :
    read config statements loader identifier source loadParent =
      (asked? config statements loader identifier source).mapM loadParent >>= fun parent =>
        (outline config statements loader identifier source).map fun described =>
          extending described.layer parent :=
  (asked?_spec config statements loader identifier source).1 loadParent

/-- A source that can be read asks for the parent that an extends tag in it names, wherever the
tag stands. -/
theorem asked?_eq_some_iff {described : Lineage}
    (outlined : outline config statements loader identifier source = .ok described)
    {filename : String} :
    asked? config statements loader identifier source = some filename ↔
      .parent filename ∈ Node.allStatements described.layer.nodes ∨
        SourceReader.Inside described.layer.blocks filename :=
  (asked?_spec config statements loader identifier source).2 described outlined filename

/-- What is read is what the source describes, and extends the parent that it asks for. -/
theorem read_eq_ok_iff {loadParent : Loading} :
    read config statements loader identifier source loadParent = .ok lineage ↔
      ∃ described, outline config statements loader identifier source = .ok described ∧
        ((asked? config statements loader identifier source = none ∧
            lineage = extending described.layer none) ∨
          ∃ filename parent,
            asked? config statements loader identifier source = some filename ∧
            loadParent filename = .ok parent ∧
            lineage = extending described.layer (some parent)) := by
  rw [read_eq]
  cases asked? config statements loader identifier source with
  | none =>
      rw [Option.mapM_none]
      cases outline config statements loader identifier source <;>
        simp [pure, Except.pure, bind, Except.bind, Except.map, eq_comm]
  | some filename =>
      rw [Option.mapM_some]
      cases loaded : loadParent filename <;>
        cases outline config statements loader identifier source <;>
        simp [bind, Except.bind, Except.map, Functor.map, loaded, eq_comm]

/-- A source is read alike in every way to load parents that finds as much.  The lineage that
it is read to extends the one that a tag of it names. -/
theorem of_read {loadParent other : Loading}
    (finds : ∀ filename parent, loadParent filename = .ok parent → other filename = .ok parent)
    (given : read config statements loader identifier source loadParent = .ok lineage) :
    read config statements loader identifier source other = .ok lineage ∧
      ∀ tag filename position,
        .statement tag (.parent filename) position ∈ lineage.layer.nodes →
          ∃ parent, loadParent filename = .ok parent ∧ lineage.ancestors = parent.layers := by
  obtain ⟨described, outlined, follows⟩ := read_eq_ok_iff.1 given
  have asks : ∀ {tag filename position},
      .statement tag (.parent filename) position ∈ described.layer.nodes →
        asked? config statements loader identifier source = some filename := fun member =>
    (asked?_eq_some_iff outlined).2 (.inl (Node.mem_allStatements member))
  rcases follows with ⟨alone, rfl⟩ | ⟨filename, parent, asked, loaded, rfl⟩
  · refine ⟨read_eq_ok_iff.2 ⟨described, outlined, .inl ⟨alone, rfl⟩⟩, ?_⟩
    intro tag filename position member
    cases alone.symm.trans (asks member)
  · refine ⟨read_eq_ok_iff.2 ⟨described, outlined,
      .inr ⟨filename, parent, asked, finds filename parent loaded, rfl⟩⟩, ?_⟩
    intro tag other position member
    cases asked.symm.trans (asks member)
    exact ⟨parent, loaded, rfl⟩

private theorem mapError_ok {ε δ α : Type} (change : ε → δ) (value : α) :
    (Except.ok value : Except ε α).mapError change = .ok value :=
  rfl

private theorem mapError_error {ε δ α : Type} (change : ε → δ) (error : ε) :
    (Except.error error : Except ε α).mapError change = .error (change error) :=
  rfl

/-- A parent is read from what the loader derived for it finds under its name. -/
theorem loadParent_eq_ok_iff
    {read : Loader → String → String → Except TemplateError Lineage} {filename : String} :
    loadParent read loader filename = .ok lineage ↔
      ∃ derived identifier source, loader.inherit filename = .ok derived ∧
        loader.resolve filename = .ok identifier ∧ derived.read identifier = .ok source ∧
          read derived identifier source = .ok lineage := by
  unfold loadParent
  cases loader.inherit filename with
  | error error => simp
  | ok derived =>
      cases loader.resolve filename with
      | error error => simp [mapError_error, bind, Except.bind]
      | ok identifier =>
          cases present : derived.read identifier with
          | error error => simp [present, mapError_ok, mapError_error, bind, Except.bind]
          | ok source =>
              cases given : read derived identifier source with
              | error error =>
                  simp only [present, given, mapError_ok, bind, Except.bind]
                  cases error <;> simp [present, given]
              | ok parent => simp [present, given, mapError_ok, bind, Except.bind]

/-- What is read where parents may nest so deep is read where they may nest deeper. -/
theorem ofSource_mono {depth greater : Nat} (depths : depth ≤ greater)
    (given : ofSource config statements depth loader identifier source = .ok lineage) :
    ofSource config statements greater loader identifier source = .ok lineage := by
  induction depth generalizing greater loader identifier source lineage with
  | zero =>
      cases greater with
      | zero => exact given
      | succ greater =>
          refine (of_read (fun filename parent loaded => ?_) given).1
          cases loaded
  | succ depth inductionHypothesis =>
      obtain ⟨greater, rfl⟩ := Nat.exists_eq_add_of_le' (Nat.lt_of_lt_of_le depth.succ_pos depths)
      refine (of_read (fun filename parent loaded => ?_) given).1
      obtain ⟨derived, name, text, inherited, resolved, present, extended⟩ :=
        loadParent_eq_ok_iff.1 loaded
      exact loadParent_eq_ok_iff.2 ⟨derived, name, text, inherited, resolved, present,
        inductionHypothesis (Nat.le_of_succ_le_succ depths) extended⟩

/-- A lineage that is read with a memory loader extends the template of which one of its own
tags has the name. -/
theorem exists_parent_of_ofSource {templates : Table String} {depth : Nat}
    (shallow : depth ≤ maxDepth)
    (given : ofSource config statements depth (.memory templates) identifier source =
      .ok lineage)
    {tag filename : String} {position : Position}
    (named : .statement tag (.parent filename) position ∈ lineage.layer.nodes) :
    ∃ parent, load config statements (.memory templates) filename = .ok parent ∧
      lineage.ancestors = parent.layers := by
  cases depth with
  | zero =>
      obtain ⟨_, impossible, _⟩ := (of_read (fun _ _ loaded => loaded) given).2 tag filename
        position named
      cases impossible
  | succ depth =>
      obtain ⟨parent, loaded, layers⟩ :=
        (of_read (fun _ _ loaded => loaded) given).2 tag filename position named
      obtain ⟨derived, name, text, inherited, resolved, present, extended⟩ :=
        loadParent_eq_ok_iff.1 loaded
      obtain ⟨rfl, rfl⟩ := Loader.memory_of_inherit inherited resolved
      refine ⟨parent, ?_, layers⟩
      simp only [load, present, mapError_ok, bind, Except.bind]
      exact ofSource_mono (Nat.le_of_succ_le shallow) extended

end Lineage

end TemplateEngine
