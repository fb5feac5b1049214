import TemplateEngine.Error
import TemplateEngine.Store

/-!
# Runs

Rendering changes a store of bindings and writes to a sink.  A run either fails or
succeeds, and what it has changed by then remains in both cases.  A run may also have
no outcome at all, when calls nest beyond the bound it is given; nothing in a template
can observe that.
-/

namespace TemplateEngine

/-- What has been written, and how many bytes may still be written if that is
limited. -/
structure Sink where
  writes : Array String
  room : Option Nat

namespace Sink

/-- A sink that takes every write. -/
def unlimited : Sink := ⟨#[], none⟩

/-- A sink that takes a count of bytes. -/
def limited (room : Nat) : Sink := ⟨#[], some room⟩

/-- Whether a text does not exceed the room of a sink. -/
def takes (sink : Sink) (text : String) : Bool :=
  sink.room.all fun room => text.utf8ByteSize ≤ room

/-- The sink after a write. -/
def add (sink : Sink) (text : String) : Sink :=
  ⟨sink.writes.push text, sink.room.map fun room => room - text.utf8ByteSize⟩

/-- All that has been written. -/
def text (sink : Sink) : String :=
  sink.writes.foldl (fun written text => written ++ text) ""

@[simp]
theorem text_unlimited : unlimited.text = "" := rfl

@[simp]
theorem text_add (sink : Sink) (text : String) :
    (sink.add text).text = sink.text ++ text := by
  simp [add, Sink.text]

end Sink

/-- What a run changes. -/
structure RunState where
  store : Store
  sink : Sink

/-- A run that cannot fail. -/
abbrev SafeRun (α : Type) := StateT RunState Option α

/-- A run that fails with an error or gives a result. -/
abbrev Run (ε α : Type) := ExceptT ε (StateT RunState Option) α

namespace Run

variable {ε δ α : Type}

/-- The run without an outcome. -/
def exhausted : Run ε α :=
  ExceptT.mk fun _ => none

/-- The outcome of a run, as a run that cannot fail. -/
def attempt (action : Run ε α) : SafeRun (Except ε α) :=
  action.run

/-- A run with its error changed. -/
def mapError (change : ε → δ) (action : Run ε α) : Run δ α :=
  ExceptT.adapt change action

/-- The result or the error of a pure computation. -/
def ofExcept (result : Except ε α) : Run ε α :=
  ExceptT.mk (pure result)

/-- The value of a name in a scope. -/
def lookup (scope : Scope) (name : String) : Run ε (Option Value) := do
  return (← get).store.lookup scope name

/-- Bind a name in a scope. -/
def bind (scope : Scope) (name : String) (value : Value) : Run ε Unit :=
  modify fun state => { state with store := state.store.bind scope name value }

/-- Bind several names in a scope in turn. -/
def bindAll (scope : Scope) (entries : List (String × Value)) : Run ε Unit :=
  modify fun state => { state with store := state.store.bindAll scope entries }

/-- Make a scope with a function of the store. -/
def openWith (make : Store → Scope × Store) : Run ε Scope :=
  modifyGet fun ⟨store, sink⟩ =>
    let (scope, extended) := make store
    (scope, ⟨extended, sink⟩)

/-- Make a scope inside another one. -/
def openChild (scope : Scope) : Run ε Scope :=
  openWith (·.childScope scope)

/-- A run at whose end a tree of scopes is released, also when the run fails. -/
def releasing (root : Scope) (action : Run ε α) : Run ε α :=
  ExceptT.mk fun state =>
    (action.run state).map fun (outcome, after) =>
      (outcome, { after with store := after.store.release root })

/-- Write a text to the sink, which keeps nothing of it if it exceeds the room. -/
def write (text : String) : Run TemplateError Unit :=
  ExceptT.mk fun ⟨store, sink⟩ =>
    if sink.takes text then some (.ok (), ⟨store, sink.add text⟩)
    else some (.error .output, ⟨store, sink⟩)

/-- The text that a run writes.  It goes to a sink of its own, and the sink of the
surrounding run is as before, also when the run fails. -/
def capture (action : Run ε Unit) : Run ε String :=
  ExceptT.mk fun ⟨store, sink⟩ =>
    match action.run ⟨store, Sink.unlimited⟩ with
    | none => none
    | some (outcome, after) =>
        some (outcome.map fun _ => after.sink.text, ⟨after.store, sink⟩)

end Run

end TemplateEngine
