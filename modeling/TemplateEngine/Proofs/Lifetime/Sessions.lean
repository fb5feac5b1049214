import TemplateEngine.Proofs.Lifetime

/-!
# Handles and stores

A rendering makes scopes with the functions of the store, and a program makes them by handles.
Both do the same to the bindings.  A session performs the operations of a program with the
functions of the store alone, without any account of what lives; there a release empties all
frames of a tree and not only those that live.  After any operations whose values refer to no
frames, the same scopes are held, and they see the same bindings.
-/

namespace TemplateEngine

/-- The scopes that a program holds by the names of their handles, and the store they are in. -/
structure Session where
  scopes : Table Scope
  store : Store

namespace Session

/-- A session in which nothing is held. -/
def empty : Session := ⟨[], Store.empty⟩

/-- Let a handle hold a scope that a function of the store has made. -/
def hold (session : Session) (handle : String) (made : Scope × Store) : Session :=
  ⟨session.scopes.store handle made.1, made.2⟩

/-- The session after an operation, unless it is about a handle that is not held. -/
def perform (session : Session) : Handles.Operation → Option Session
  | .new handle => some (session.hold handle session.store.newScope)
  | .ofJson handle data =>
      match Table.ofJson data with
      | .ok entries => some (session.hold handle (session.store.scopeOf entries))
      | .error _ => some session
  | .ofEntries handle entries => some (session.hold handle (session.store.scopeOf entries))
  | .inherit handle outer => do
      let scope ← session.scopes.lookup outer
      return session.hold handle (session.store.childScope scope)
  | .detach handle origin => do
      let scope ← session.scopes.lookup origin
      return session.hold handle (session.store.detachedScope scope)
  | .clone handle origin => do
      let scope ← session.scopes.lookup origin
      return session.hold handle (scope, session.store)
  | .drop handle => do
      let _ ← session.scopes.lookup handle
      return { session with scopes := session.scopes.without handle }
  | .set handle name value => do
      let scope ← session.scopes.lookup handle
      return { session with store := session.store.bind scope name value }
  | .update target source => do
      let target ← session.scopes.lookup target
      let source ← session.scopes.lookup source
      return { session with store := session.store.update target source }
  | .release handle => do
      let scope ← session.scopes.lookup handle
      return { session with store := session.store.release scope }

/-- The session after several operations in turn. -/
def performAll (operations : List Handles.Operation) : Option Session :=
  operations.foldlM perform empty

end Session

namespace Store

/-! ## Stores that agree -/

/-- Stores with the same frames in the same trees, where some frames have the same bindings. -/
structure AgreesOn (frames : Nat → Prop) (first second : Store) : Prop where
  trees : first.trees = second.trees
  size : first.frames.size = second.frames.size
  tree? : ∀ frame, first.tree? frame = second.tree? frame
  bindings : ∀ frame, frames frame → first.bindings frame = second.bindings frame

namespace AgreesOn

variable {frames others : Nat → Prop} {first second : Store}

theorem mono (agree : AgreesOn frames first second)
    (fewer : ∀ frame, others frame → frames frame) : AgreesOn others first second :=
  { agree with bindings := fun frame known => agree.bindings frame (fewer frame known) }

/-- A frame that is added has no bindings in either store. -/
theorem addFrame (agree : AgreesOn frames first second) (tree : Nat) :
    AgreesOn (fun frame => frame = first.frames.size ∨ frames frame) (first.addFrame tree).2
      (second.addFrame tree).2 where
  trees := congrArg (max · (tree + 1)) agree.trees
  size := by simp [Store.addFrame, agree.size]
  tree? frame := by rw [tree?_addFrame, tree?_addFrame, agree.size, agree.tree?]
  bindings := by
    rintro frame (rfl | known)
    · rw [bindings_addFrame_self, agree.size, bindings_addFrame_self]
    · rw [bindings_addFrame, bindings_addFrame, agree.bindings frame known]

theorem addTree (agree : AgreesOn frames first second) :
    AgreesOn frames first.addTree second.addTree :=
  ⟨congrArg (· + 1) agree.trees, agree.size, agree.tree?, agree.bindings⟩

/-- The value of a name that is bound goes into the same bindings. -/
theorem bind (agree : AgreesOn frames first second) {scope : Scope} (known : frames scope.frame)
    (name : String) (value : Value) :
    AgreesOn frames (first.bind scope name value) (second.bind scope name value) where
  trees := agree.trees
  size := by rw [size_bind, size_bind, agree.size]
  tree? frame := by rw [tree?_bind, tree?_bind, agree.tree?]
  bindings frame other := by
    by_cases nearest : frame = scope.frame
    · subst nearest
      by_cases present : scope.frame < first.frames.size
      · rw [bindings_bind_self first scope name value present,
          bindings_bind_self second scope name value (agree.size ▸ present),
          agree.bindings _ known]
      · rw [bindings_of_size_le _ (by simpa using present),
          bindings_of_size_le _ (by simpa [← agree.size] using present)]
    · rw [bindings_bind_of_ne first scope name value nearest,
        bindings_bind_of_ne second scope name value nearest, agree.bindings frame other]

theorem bindAll (agree : AgreesOn frames first second) {scope : Scope}
    (known : frames scope.frame) (entries : Table Value) :
    AgreesOn frames (first.bindAll scope entries) (second.bindAll scope entries) := by
  induction entries generalizing first second with
  | nil => exact agree
  | cons entry rest inductionHypothesis =>
      exact inductionHypothesis (agree.bind known entry.1 entry.2)

theorem lookupChain_eq (agree : AgreesOn frames first second) {chain : List Nat}
    (known : ∀ frame ∈ chain, frames frame) (name : String) :
    first.lookupChain chain name = second.lookupChain chain name := by
  induction chain with
  | nil => rfl
  | cons frame rest inductionHypothesis =>
      obtain ⟨nearest, others⟩ := List.forall_mem_cons.1 known
      have further := inductionHypothesis others
      rw [lookupChain, lookupChain] at further ⊢
      rw [List.findSome?_cons, List.findSome?_cons, agree.bindings frame nearest, further]

end AgreesOn

end Store

namespace Handles

/-! ## Handles and sessions that agree -/

/-- Whether a frame is that of a scope that is held, or lies around it. -/
def Reached (scopes : Table Scope) (frame : Nat) : Prop :=
  ∃ entry ∈ scopes, frame ∈ entry.2.chain

/-- Handles and a session that hold the same scopes, with the same bindings to be seen. -/
structure Agrees (handles : Handles) (session : Session) : Prop where
  scopes : handles.scopes = session.scopes
  stores : Store.AgreesOn (Reached handles.scopes) handles.store session.store

namespace Agrees

variable {handles : Handles} {session : Session}

theorem reached_of_scope? {handle : String} {scope : Scope}
    (held : handles.scope? handle = some scope) {frame : Nat} (around : frame ∈ scope.chain) :
    Reached handles.scopes frame :=
  ⟨_, Table.mem_of_lookup held, around⟩

/-- A scope that is made comes to be held, if it is the same one in stores that agree. -/
theorem hold {made : Scope × Handles} {other : Scope × Store} (same : made.1 = other.1)
    (scopes : made.2.scopes = session.scopes)
    (stores : Store.AgreesOn (fun frame => frame ∈ made.1.chain ∨ Reached made.2.scopes frame)
      made.2.store other.2) (handle : String) :
    (Handles.hold handle made).Agrees (session.hold handle other) where
  scopes := congrArg₂ (fun scope table => Table.store handle scope table) same scopes
  stores := stores.mono fun frame => by
    rintro ⟨entry, member, around⟩
    rcases Table.mem_of_mem_store member with rfl | member
    · exact .inl around
    · exact .inr ⟨entry, member, around⟩

/-- The same scope is made in a tree of its own. -/
theorem newScope (agrees : handles.Agrees session) :
    handles.store.newScope.1 = session.store.newScope.1 ∧
      Store.AgreesOn (fun frame => frame ∈ handles.store.newScope.1.chain ∨
        Reached handles.scopes frame) handles.store.newScope.2 session.store.newScope.2 := by
  have stores := agrees.stores
  constructor
  · simp only [Store.newScope, Store.addFrame, Store.addTree, stores.trees, stores.size]
  · have added := stores.addTree.addFrame handles.store.trees
    rw [Store.newScope, Store.newScope, ← stores.trees]
    exact added.mono fun frame known => known.imp_left List.mem_singleton.1

/-- The same scope with some bindings is made in a tree of its own. -/
theorem scopeOf (agrees : handles.Agrees session) (handle : String) (entries : Table Value) :
    (Handles.hold handle (handles.scopeOf entries)).Agrees
      (session.hold handle (session.store.scopeOf entries)) := by
  obtain ⟨same, stores⟩ := agrees.newScope
  have scopes : (handles.scopeOf entries).2.scopes = handles.scopes := scopes_bindAll ..
  have store : (handles.scopeOf entries).2.store = (handles.store.scopeOf entries).2 :=
    store_bindAll ..
  have other : (session.store.scopeOf entries).2 =
      session.store.newScope.2.bindAll handles.store.newScope.1 entries := by
    rw [same]
    rfl
  refine hold same (scopes.trans agrees.scopes) ?_ handle
  rw [store, scopes, other]
  exact stores.bindAll (.inl List.mem_cons_self) entries

/-- The same scope is made inside a scope that is held. -/
theorem childScope (agrees : handles.Agrees session) {outer : String} {scope : Scope}
    (held : handles.scope? outer = some scope) (handle : String) :
    (Handles.hold handle (handles.childScope scope)).Agrees
      (session.hold handle (session.store.childScope scope)) := by
  have same : handles.store.frames.size = session.store.frames.size := agrees.stores.size
  refine hold (congrArg scope.child same) agrees.scopes
    ((agrees.stores.addFrame scope.tree).mono fun frame known => ?_) handle
  rcases known with around | reached
  · exact (List.mem_cons.1 around).imp_right (reached_of_scope? held)
  · exact .inr reached

/-- The same scope is made in the tree of another one. -/
theorem detachedScope (agrees : handles.Agrees session) (scope : Scope) (handle : String) :
    (Handles.hold handle (handles.detachedScope scope)).Agrees
      (session.hold handle (session.store.detachedScope scope)) := by
  have same : handles.store.frames.size = session.store.frames.size := agrees.stores.size
  refine hold (congrArg (fun frame => (⟨scope.tree, frame, []⟩ : Scope)) same) agrees.scopes
    ((agrees.stores.addFrame scope.tree).mono fun frame known => ?_) handle
  exact known.imp_left List.mem_singleton.1

/-- Releasing the live frames of a tree and releasing all of them is the same where the frames
of held scopes are concerned, as all of these live. -/
theorem release (agrees : handles.Agrees session) (tended : handles.Tended []) {handle : String}
    {scope : Scope} (held : handles.scope? handle = some scope) :
    (handles.release scope).Agrees ⟨session.scopes, session.store.release scope⟩ where
  scopes := agrees.scopes
  stores := by
    have stores := agrees.stores
    have known := Store.lt_trees_of_tree? (tended.places_of_held held).tree
    refine ⟨(Store.trees_clear ..).trans stores.trees, ?_, fun frame => ?_, ?_⟩
    · change (handles.store.clear _).frames.size = _
      rw [Store.size_clear, Store.size_release, stores.size]
    · change (handles.store.clear _).tree? frame = _
      rw [Store.tree?_clear, Store.tree?_release, stores.tree?]
    · rintro frame ⟨entry, member, around⟩
      have lives := (tended.keeps_iff.1 ⟨entry, member, rfl, around⟩).2
      have released : frame ∈ handles.liveFrames scope.tree ↔
          session.store.tree? frame = some scope.tree := by
        rw [(tended.liveFrames known).2, tended.keeps_iff, stores.tree?, and_iff_left lives]
      change (handles.store.clear (handles.liveFrames scope.tree)).bindings frame = _
      rw [Store.bindings_clear, Store.bindings_release_eq]
      exact if_congr released rfl (stores.bindings frame ⟨entry, member, around⟩)

/-- What is held sees the same bindings. -/
theorem lookup_eq (agrees : handles.Agrees session) {handle : String} {scope : Scope}
    (held : handles.scope? handle = some scope) (name : String) :
    handles.store.lookup scope name = session.store.lookup scope name :=
  agrees.stores.lookupChain_eq (fun _ around => reached_of_scope? held around) name

theorem names_eq (agrees : handles.Agrees session) {handle : String} {scope : Scope}
    (held : handles.scope? handle = some scope) :
    handles.store.names scope = session.store.names scope := by
  rw [Store.names, Store.names, Store.locals, Store.locals,
    agrees.stores.bindings _ (reached_of_scope? held List.mem_cons_self)]

/-- An operation does the same by handles and in a session. -/
theorem perform (agrees : handles.Agrees session) (tended : handles.Tended [])
    (operation : Operation) :
    Option.Rel Agrees (handles.perform operation) (session.perform operation) := by
  -- The same handles are held, so that either both or neither of the operations are undefined.
  have scope? (handle : String) : session.scopes.lookup handle = handles.scope? handle := by
    rw [Handles.scope?, agrees.scopes]
  cases operation with
  | new handle =>
      obtain ⟨same, stores⟩ := agrees.newScope
      exact .some (hold same agrees.scopes stores handle)
  | ofJson handle data =>
      simp only [Handles.perform, Session.perform]
      cases Table.ofJson data with
      | ok entries => exact .some (agrees.scopeOf handle entries)
      | error error => exact .some agrees
  | ofEntries handle entries => exact .some (agrees.scopeOf handle entries)
  | inherit handle outer =>
      simp only [Handles.perform, Session.perform, scope?]
      cases held : handles.scope? outer with
      | none => exact .none
      | some scope => exact .some (agrees.childScope held handle)
  | detach handle origin =>
      simp only [Handles.perform, Session.perform, scope?]
      cases handles.scope? origin with
      | none => exact .none
      | some scope => exact .some (agrees.detachedScope scope handle)
  | clone handle origin =>
      simp only [Handles.perform, Session.perform, scope?]
      cases held : handles.scope? origin with
      | none => exact .none
      | some scope =>
          have stores : Store.AgreesOn
              (fun frame => frame ∈ scope.chain ∨ Reached handles.scopes frame) handles.store
                session.store :=
            agrees.stores.mono fun frame known => known.elim (reached_of_scope? held) id
          exact .some (hold rfl agrees.scopes stores handle)
  | drop handle =>
      simp only [Handles.perform, Session.perform, scope?]
      cases handles.scope? handle with
      | none => exact .none
      | some scope =>
          refine .some ⟨congrArg (·.without handle) agrees.scopes, agrees.stores.mono ?_⟩
          rintro frame ⟨entry, member, around⟩
          exact ⟨entry, List.mem_of_mem_filter member, around⟩
  | set handle name value =>
      simp only [Handles.perform, Session.perform, scope?]
      cases held : handles.scope? handle with
      | none => exact .none
      | some scope =>
          exact .some ⟨agrees.scopes,
            agrees.stores.bind (reached_of_scope? held List.mem_cons_self) name value⟩
  | update target source =>
      simp only [Handles.perform, Session.perform, scope?]
      cases held : handles.scope? target with
      | none => exact .none
      | some scope =>
          cases given : handles.scope? source with
          | none => exact .none
          | some origin =>
              have locals : session.store.locals origin = handles.store.locals origin :=
                (agrees.stores.bindings _ (reached_of_scope? given List.mem_cons_self)).symm
              have bound := agrees.stores.bindAll (reached_of_scope? held List.mem_cons_self)
                (handles.store.locals origin)
              refine .some ⟨(scopes_bindAll ..).trans agrees.scopes, ?_⟩
              rw [Handles.update, store_bindAll, scopes_bindAll, Store.update, locals]
              exact bound
  | release handle =>
      simp only [Handles.perform, Session.perform, scope?]
      cases held : handles.scope? handle with
      | none => exact .none
      | some scope => exact .some (agrees.release tended held)

end Agrees

/-- After any operations whose values refer to no frames, handles and a session hold the same
scopes with the same bindings to be seen from them. -/
theorem performAll_agrees {operations : List Operation}
    (free : ∀ operation ∈ operations, operation.heldFrames = []) :
    Option.Rel Agrees (performAll operations) (Session.performAll operations) := by
  have run : ∀ (rest : List Operation) (handles : Handles) (session : Session),
      (∀ operation ∈ rest, operation.heldFrames = []) → handles.Tended [] →
        handles.Agrees session →
          Option.Rel Agrees (rest.foldlM Handles.perform handles)
            (rest.foldlM Session.perform session) := by
    intro rest
    induction rest with
    | nil => exact fun handles session _ _ agrees => .some agrees
    | cons operation rest inductionHypothesis =>
        intro handles session free tended agrees
        obtain ⟨first, others⟩ := List.forall_mem_cons.1 free
        rw [List.foldlM_cons, List.foldlM_cons]
        have performed := agrees.perform tended operation
        revert performed
        generalize session.perform operation = other
        cases made : handles.perform operation with
        | none =>
            rintro ⟨⟩
            exact .none
        | some after =>
            rintro (⟨agrees⟩ | _)
            exact inductionHypothesis _ _ others (tended.perform first made) agrees
  refine run operations empty .empty free tended_empty ⟨rfl, rfl, rfl, fun _ => rfl, ?_⟩
  exact fun _ _ => rfl

end Handles

end TemplateEngine
