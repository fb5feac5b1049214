import TemplateEngine.Error
import TemplateEngine.Node.Header

/-!
# Reading templates

A template is read from its tokens.  A statement with bodies reads each of them up to
the first tag that closes it, whatever that tag would mean elsewhere.  Blocks and
macros are collected on the way, wherever they stand, and a parent is loaded as soon
as its tag is read.

Every node takes at least one token, so the count of tokens bounds how many nodes
follow one another and how deep bodies nest.
-/

namespace TemplateEngine

/-- What the reading of a source depends on. -/
structure SourceSetting where
  identifier : String
  config : Config
  loader : Loader
  statements : Registry StatementKind
  /-- The position of the last token. -/
  finish : Position
  loadParent : String → Except TemplateError Lineage

/-- How far the reading of a source has come. -/
structure SourceState where
  remaining : List Token
  parent : Option Lineage
  blocks : Table (Body Node)
  macros : Table (Definition Node)

/-- Reading from a source. -/
abbrev SourceReader (α : Type) := StateT SourceState (Except TemplateError) α

/-- Reading of a body up to one of some tags: the body, and the rest of that tag. -/
abbrev BodyReader := List String → SourceReader (Body Node × Cursor)

namespace SourceReader

/-- Fail with a fault at a position. -/
def fault {α : Type} (fault : SyntaxFault) (position : Position) : SourceReader α :=
  throw (.parse ⟨fault, position⟩)

/-- Whether all tokens are read. -/
def atEnd : SourceReader Bool := do
  let state ← get
  match state.remaining.head? with
  | some token => return token.kind == .eof
  | none => return true

/-- The position of the current token. -/
def position (setting : SourceSetting) : SourceReader Position := do
  let state ← get
  match state.remaining.head? with
  | some token => return token.position
  | none => return setting.finish

/-- Take the current token. -/
def next? : SourceReader (Option Token) := do
  let state ← get
  match state.remaining with
  | token :: rest =>
      set { state with remaining := rest }
      return some token
  | [] => return none

/-- The tokens before the first one of a kind, the position of that token, and the
tokens after it. -/
def splitAtKind (kind : TokenKind) :
    List Token → Option (List Token × Position × List Token)
  | [] => none
  | token :: rest =>
      if token.kind = kind then some ([], token.position, rest)
      else if token.kind = .eof then none
      else
        (splitAtKind kind rest).map fun (before, position, after) =>
          (token :: before, position, after)

/-- A cursor over the tokens of a tag, which begins at a position. -/
def tag (closer : TokenKind) (start : Position) : SourceReader Cursor := do
  let state ← get
  match splitAtKind closer state.remaining with
  | some (tokens, finish, rest) =>
      set { state with remaining := rest }
      return ⟨tokens, start, finish⟩
  | none => fault .endInsideTag start

/-- Read from the cursor of a tag. -/
def within {α : Type} (cursor : Cursor) (reader : TagReader α) : SourceReader α :=
  match (reader.run.run cursor).1 with
  | .ok value => return value
  | .error error => throw (.parse error)

/-- The branches of a conditional from a condition on, and the last body. -/
def branches (bodies : BodyReader) :
    Nat → Expression →
      SourceReader (List (Expression × Body Node) × Option (Body Node))
  | 0, condition => fault .endOfTemplate condition.position
  | bound + 1, condition => do
      let (body, closing) ← bodies ["elif", "else", "endif"]
      match body.endTag with
      | some "elif" =>
          let next ← within closing TagReader.wholeExpression
          let (rest, otherwise) ← branches bodies bound next
          return ((condition, body) :: rest, otherwise)
      | some "else" =>
          within closing TagReader.finish
          let (otherwise, closing) ← bodies ["endif"]
          within closing TagReader.finish
          return ([(condition, body)], some otherwise)
      | _ =>
          within closing TagReader.finish
          return ([(condition, body)], none)

/-- The rest of a loop. -/
def loop (bodies : BodyReader) (cursor : Cursor) : SourceReader (Statement Node) := do
  let header ← within cursor TagReader.loopHeader
  let (body, closing) ← bodies ["else", "endfor"]
  within closing TagReader.finish
  if body.endTag = some "else" then
    let (empty, closing) ← bodies ["endfor"]
    within closing TagReader.finish
    return .loop header.targets header.iterable header.filter body (some empty)
  else return .loop header.targets header.iterable header.filter body none

/-- The rest of an assignment. -/
def assignment (bodies : BodyReader) (cursor : Cursor) :
    SourceReader (Statement Node) := do
  match ← within cursor TagReader.assignmentHeader with
  | (target, some value) => return .assignment target value
  | (target, none) =>
      let (body, closing) ← bodies ["endset"]
      within closing TagReader.finish
      return .capture target body

/-- The rest of a block, whose body is collected under its name. -/
def block (bodies : BodyReader) (cursor : Cursor) : SourceReader (Statement Node) := do
  let name ← within cursor TagReader.blockHeader
  let (body, closing) ← bodies ["endblock"]
  within closing (TagReader.closingName name (.blockClosedBy name))
  let state ← get
  if Table.has state.blocks name then fault (.duplicateBlock name) cursor.start
  else
    set { state with blocks := Table.store name body state.blocks }
    return .block name

/-- The rest of the tag that names a parent, which is loaded. -/
def parent (setting : SourceSetting) (cursor : Cursor) :
    SourceReader (Statement Node) := do
  let filename ← within cursor TagReader.parentHeader
  if (← get).parent.isSome then fault .secondParent cursor.start
  else
    let lineage ← setting.loadParent filename
    modify fun state => { state with parent := some lineage }
    return .parent filename

/-- The rest of a macro, which is collected under its name. -/
def definition (bodies : BodyReader) (cursor : Cursor) :
    SourceReader (Statement Node) := do
  let (name, parameters) ← within cursor TagReader.definitionHeader
  let (body, closing) ← bodies ["endmacro"]
  within closing (TagReader.closingName name (.definitionClosedBy name))
  let defined : Definition Node := ⟨name, parameters, body, cursor.start⟩
  modify fun state => { state with macros := Table.store name defined state.macros }
  return .definition defined

/-- The label of a box, a statement that a program may register: the state of the
reading where the box stands. -/
def boxLabel (setting : SourceSetting) (state : SourceState) : String :=
  "/".intercalate
    [setting.identifier, toString state.parent.isSome, toString setting.config.autoescape,
      setting.loader.text]

/-- The rest of a box. -/
def box (setting : SourceSetting) (bodies : BodyReader) (cursor : Cursor) :
    SourceReader (Statement Node) := do
  let condition ← within cursor TagReader.boxHeader
  let label := boxLabel setting (← get)
  let (body, closing) ← bodies ["boxelse", "endbox"]
  within closing TagReader.finish
  if body.endTag = some "boxelse" then
    let (other, _) ← bodies ["endbox"]
    return .box label condition body (some other)
  else return .box label condition body none

/-- The statement of a tag, from the tokens after its name. -/
def statement (setting : SourceSetting) (bound : Nat) (bodies : BodyReader)
    (kind : StatementKind) (cursor : Cursor) : SourceReader (Statement Node) :=
  match kind with
  | .conditional => do
      let condition ← within cursor TagReader.wholeExpression
      let (branches, otherwise) ← branches bodies bound condition
      return .conditional branches otherwise
  | .loop => loop bodies cursor
  | .assignment => assignment bodies cursor
  | .block => block bodies cursor
  | .parent => parent setting cursor
  | .definition => definition bodies cursor
  | .importModule => within cursor TagReader.importModuleHeader
  | .importNames => within cursor TagReader.importNamesHeader
  | .inclusion => within cursor TagReader.inclusionHeader
  | .box => box setting bodies cursor

/-- The node of a block tag, after its opening delimiter. -/
def blockTag (setting : SourceSetting) (bound : Nat) (bodies : BodyReader)
    (opened : Position) : SourceReader Node := do
  match ← next? with
  | none => fault .endOfTemplate opened
  | some name =>
      if name.kind = .name then
        match setting.statements.get? name.text with
        | none => fault (.unknownStatement name.text) name.position
        | some kind =>
            let cursor ← tag .blockEnd name.position
            let statement ← statement setting bound bodies kind cursor
            return .statement name.text statement name.position
      else fault (.expectedStatementName name.text) name.position

/-- The next node. -/
def node (setting : SourceSetting) (bound : Nat) (bodies : BodyReader) :
    SourceReader Node := do
  match ← next? with
  | none => fault .endOfTemplate setting.finish
  | some token =>
      match token.kind with
      | .data => return .data token.text token.trim token.position
      | .comment => return .comment token.text token.position
      | .variableBegin =>
          let cursor ← tag .variableEnd token.position
          if cursor.atEnd then fault .emptyExpression token.position
          else return .output (← within cursor (TagReader.output token.position))
      | .blockBegin => blockTag setting bound bodies token.position
      | _ => fault (.unexpectedToken token.text) token.position

/-- The name token of the block tag that comes next, if it is one of some names. -/
def closingTag? (names : List String) (tokens : List Token) : Option Token :=
  match tokens with
  | opening :: name :: _ =>
      if opening.kind = .blockBegin ∧ name.kind = .name ∧ names.contains name.text then
        some name
      else none
  | _ => none

/-- The body that some nodes form from the current position on. -/
def bodyOf (setting : SourceSetting)
    (nodes : List String → Position → SourceReader (List Node × String × Cursor)) :
    BodyReader := fun names => do
  let start ← position setting
  let (nodes, endTag, closing) ← nodes names start
  return (⟨nodes, some endTag, start⟩, closing)

/-- The nodes up to one of some tags, that tag's name, and the rest of the tag.  The
body they form begins at a position. -/
def nodesUntil (setting : SourceSetting) :
    Nat → List String → Position → SourceReader (List Node × String × Cursor)
  | 0, names, start => fault (.unexpectedEnd names) start
  | bound + 1, names, start => do
      if ← atEnd then fault (.unexpectedEnd names) start
      else
        match closingTag? names (← get).remaining with
        | some name =>
            modify fun state => { state with remaining := state.remaining.drop 2 }
            let cursor ← tag .blockEnd name.position
            return ([], name.text, cursor)
        | none =>
            let first ← node setting bound (bodyOf setting (nodesUntil setting bound))
            let (rest, endTag, closing) ← nodesUntil setting bound names start
            return (first :: rest, endTag, closing)

/-- The nodes up to the end of the source. -/
def nodesToEnd (setting : SourceSetting) : Nat → SourceReader (List Node)
  | 0 => return []
  | bound + 1 => do
      if ← atEnd then return []
      else
        let first ← node setting bound (bodyOf setting (nodesUntil setting bound))
        return first :: (← nodesToEnd setting bound)

end SourceReader

namespace Lineage

/-- How many templates may be extended one after the other. -/
def maxDepth : Nat := 32

/-- Read a source whose parents are loaded by a function. -/
def read (config : Config) (statements : Registry StatementKind) (loader : Loader)
    (identifier source : String) (loadParent : String → Except TemplateError Lineage) :
    Except TemplateError Lineage := do
  let tokens ← (Token.tokenize config source).mapError .parse
  let finish := (tokens.getLast?.map Token.position).getD default
  let setting : SourceSetting :=
    ⟨identifier, config, loader, statements, finish, loadParent⟩
  let (nodes, state) ←
    (SourceReader.nodesToEnd setting tokens.length).run ⟨tokens, none, [], []⟩
  return extending ⟨identifier, nodes, state.blocks, state.macros⟩ state.parent

/-- Reading a source is reading its tokens to the end. -/
theorem read_of_tokenize {config : Config} {source : String} {tokens : List Token}
    (tokenized : Token.tokenize config source = .ok tokens) (statements : Registry StatementKind)
    (loader : Loader) (identifier : String)
    (loadParent : String → Except TemplateError Lineage) :
    read config statements loader identifier source loadParent =
      ((SourceReader.nodesToEnd ⟨identifier, config, loader, statements,
          (tokens.getLast?.map Token.position).getD default, loadParent⟩
        tokens.length).run ⟨tokens, none, [], []⟩).map fun result =>
          extending ⟨identifier, result.1, result.2.blocks, result.2.macros⟩ result.2.parent := by
  simp only [read, tokenized]
  change ((SourceReader.nodesToEnd _ tokens.length).run ⟨tokens, none, [], []⟩ >>= _) = _
  cases (SourceReader.nodesToEnd _ tokens.length).run ⟨tokens, none, [], []⟩ <;> rfl

/-- Load the parent that a template names.  An error inside it is attributed to the
parent, unless it is that the parents nest too deep. -/
def loadParent (read : Loader → String → String → Except TemplateError Lineage)
    (loader : Loader) (filename : String) : Except TemplateError Lineage :=
  match loader.inherit filename with
  | .error error => .error (.loaderInherit filename loader.text (.loader error))
  | .ok derived =>
      let loaded : Except TemplateError Lineage := do
        let identifier ← (loader.resolve filename).mapError .loader
        let source ← (derived.read identifier).mapError .loader
        read derived identifier source
      match loaded with
      | .ok lineage => .ok lineage
      | .error (.recursion name limit) => .error (.recursion name limit)
      | .error error => .error (.load filename error)

/-- Read a source that may extend others, at most the given count of them one after
the other. -/
def ofSource (config : Config) (statements : Registry StatementKind) :
    Nat → Loader → String → String → Except TemplateError Lineage
  | 0, loader, identifier, source =>
      read config statements loader identifier source fun filename =>
        .error (.recursion filename maxDepth)
  | depth + 1, loader, identifier, source =>
      read config statements loader identifier source
        (loadParent (ofSource config statements depth) loader)

/-- Load the template of a name that a loader reads. -/
def load (config : Config) (statements : Registry StatementKind) (loader : Loader)
    (identifier : String) : Except TemplateError Lineage := do
  let source ← (loader.read identifier).mapError .loader
  ofSource config statements maxDepth loader identifier source

end Lineage

end TemplateEngine
