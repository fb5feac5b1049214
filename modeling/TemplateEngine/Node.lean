import TemplateEngine.Expression
import TemplateEngine.Table

/-!
# The tree of a template

A template is a sequence of nodes: comments, literal texts, output tags, and
statements, which may have bodies of their own.  What one source describes is a
layer; a layer and the layers that it extends, one after the other, form a lineage.
-/

namespace TemplateEngine

/-- An output tag: an expression, written only under a condition if there is one, and
else the alternative if there is one. -/
structure Output where
  expression : Expression
  condition : Option Expression
  alternative : Option Expression
  position : Position

/-- A sequence of nodes together with the name of the tag that closed it. -/
structure Body (ν : Type) where
  nodes : List ν
  endTag : Option String
  position : Position

/-- A macro: a named body with parameters, some of which have default expressions. -/
structure Definition (ν : Type) where
  name : String
  parameters : List (String × Option Expression)
  body : Body ν
  position : Position

/-- The statements of block tags. -/
inductive Statement (ν : Type) where
  /-- The body of the first branch whose condition holds, or else the last body. -/
  | conditional (branches : List (Expression × Body ν)) (otherwise : Option (Body ν))
  /-- A body for each item, or the empty body when there is none. -/
  | loop (targets : List String) (iterable : Expression) (filter : Option Expression)
      (body : Body ν) (empty : Option (Body ν))
  /-- Bind a name to the value of an expression. -/
  | assignment (target : String) (value : Expression)
  /-- Bind a name to the text of a body. -/
  | capture (target : String) (body : Body ν)
  /-- The most derived definition of a named block. -/
  | block (name : String)
  /-- Declare the parent of the template; nothing is left to do when rendering. -/
  | parent (filename : String)
  /-- Bind a macro to its name. -/
  | definition (definition : Definition ν)
  /-- Bind the macros of another template to one name. -/
  | importModule (filename : Expression) (target : String) (withContext : Option Bool)
  /-- Bind macros of another template to names, each as alias and macro name. -/
  | importNames (filename : Expression) (names : List (String × String))
      (withContext : Option Bool)
  /-- Render another template in place. -/
  | inclusion (filename : Expression) (ignoreMissing withContext : Bool)
  /-- Show the state of the rendering around one of two bodies.  No template has this
  statement unless a program registers it: it stands for the statements that programs
  may bring, and the other ones are all that are built in. -/
  | box (label : String) (condition : Option Expression) (body : Body ν)
      (other : Option (Body ν))

/-- A node of a template. -/
inductive Node where
  | comment (text : String) (position : Position)
  | data (text : String) (trim : Trim) (position : Position)
  | output (output : Output)
  | statement (tag : String) (statement : Statement Node) (position : Position)
  | wrapper (body : Body Node)

namespace Node

/-- The position of a node. -/
def position : Node → Position
  | .comment _ position => position
  | .data _ _ position => position
  | .output written => written.position
  | .statement _ _ position => position
  | .wrapper body => body.position

end Node

/-- What one source describes: its nodes, and the blocks and macros they define
anywhere. -/
structure Layer where
  identifier : String
  nodes : List Node
  blocks : Table (Body Node)
  macros : Table (Definition Node)

/-- A layer with the layers that it extends, the nearest first. -/
structure Lineage where
  layer : Layer
  ancestors : List Layer

namespace Lineage

/-- The lineage of a template without any content. -/
def empty : Lineage := ⟨⟨"", [], [], []⟩, []⟩

/-- All layers of a lineage, the most derived first. -/
def layers (lineage : Lineage) : List Layer :=
  lineage.layer :: lineage.ancestors

/-- The layers of a lineage that extend others, the most derived first. -/
def derived (lineage : Lineage) : List Layer :=
  lineage.layers.dropLast

/-- The layer that gives the page its structure. -/
def root (lineage : Lineage) : Layer :=
  lineage.ancestors.getLast?.getD lineage.layer

/-- The name of the template at the derived end of a lineage. -/
def identifier (lineage : Lineage) : String :=
  lineage.layer.identifier

/-- The definitions of a block, the most derived first. -/
def blocksFor (lineage : Lineage) (name : String) : List (Body Node) :=
  lineage.layers.filterMap fun layer => layer.blocks.lookup name

/-- The lineage of a layer that extends another lineage, if any. -/
def extending (layer : Layer) : Option Lineage → Lineage
  | some parent => ⟨layer, parent.layers⟩
  | none => ⟨layer, []⟩

@[simp]
theorem layers_extending_some (layer : Layer) (parent : Lineage) :
    (extending layer (some parent)).layers = layer :: parent.layers := rfl

@[simp]
theorem layers_extending_none (layer : Layer) :
    (extending layer none).layers = [layer] := rfl

end Lineage

end TemplateEngine
