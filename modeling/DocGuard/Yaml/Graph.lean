import DocGuard.Yaml.Lexing
import DocGuard.Yaml.Node

set_option autoImplicit false

namespace DocGuard.Yaml

structure Graph where
  nodes : Nodes
  root : Nat

-- An anchor has no node as long as its node is being read.
structure Source where
  lexemes : Lexemes
  nodes : Nodes := #[]
  handles : List (String × String) := []
  anchors : List (String × Option Nat) := []

abbrev Parsing := StateT Source (Except Fault)

namespace Parsing

def fail {A : Type} : Parsing A := throw .malformed

def peek : Parsing (Option Lexeme) := do
  match (← get).lexemes with
  | ⟨lexeme :: _, _⟩ => return some lexeme
  | ⟨[], none⟩ => return none
  | ⟨[], some fault⟩ => throw fault

def advance : Parsing Unit :=
  modify fun s => { s with lexemes := { s.lexemes with ahead := s.lexemes.ahead.tail } }

def make (node : Node) : Parsing Nat :=
  modifyGet fun s => (s.nodes.size, { s with nodes := s.nodes.push node })

def usualHandles : List (String × String) := [("!", "!"), ("!!", "tag:yaml.org,2002:")]

def resolveTag (handle : Option String) (suffix : String) : Parsing String := do
  match handle with
  | none => return suffix
  | some name =>
    match ((← get).handles ++ usualHandles).find? fun entry => entry.1 == name with
    | some (_, meaning) => return meaning ++ suffix
    | none => fail

structure Properties where
  anchor : Option String := none
  tag : Option String := none

def anchorName? : Parsing (Option String) := do
  match ← peek with
  | some (.anchor name) => advance; return some name
  | _ => return none

def tagParts? : Parsing (Option (Option String × String)) := do
  match ← peek with
  | some (.tag handle suffix) => advance; return some (handle, suffix)
  | _ => return none

def properties : Parsing Properties := do
  match ← anchorName? with
  | some name =>
    match ← tagParts? with
    | some (handle, suffix) => return { anchor := some name, tag := ← resolveTag handle suffix }
    | none => return { anchor := some name }
  | none =>
    match ← tagParts? with
    | some (handle, suffix) =>
      let anchor ← anchorName?
      return { anchor, tag := ← resolveTag handle suffix }
    | none => return {}

namespace Properties

def collectionTag (p : Properties) (usual : Tag) : Tag :=
  match p.tag with
  | none => usual
  | some uri => if uri == "!" then usual else .ofUri uri

-- Without a tag quotes make a text; the tag `!` looks at the form even then.
def scalarTag (p : Properties) (text : String) (plain : Bool) : Tag :=
  match p.tag with
  | none => if plain then .ofPlain text else .text
  | some uri => if uri == "!" then .ofPlain text else .ofUri uri

def isEmpty (p : Properties) : Bool := p.anchor.isNone && p.tag.isNone

end Properties

def aliased (name : String) : Parsing Nat := do
  match (← get).anchors.find? fun entry => entry.1 == name with
  | some (_, some node) => return node
  | _ => fail

def openAnchor (anchor : Option String) : Parsing Unit := do
  if let some name := anchor then
    if (← get).anchors.any fun entry => entry.1 == name then fail
    modify fun s => { s with anchors := (name, none) :: s.anchors }

def closeAnchor (anchor : Option String) (node : Nat) : Parsing Nat := do
  if let some name := anchor then
    modify fun s => { s with anchors := (name, some node) :: s.anchors }
  return node

inductive Place
  | flow | block | blockOrIndentless
  deriving DecidableEq

def endsBlockItem : Option Lexeme → Bool
  | some .blockEntry | some .blockEnd => true
  | _ => false

def endsIndentlessItem : Option Lexeme → Bool
  | some .blockEntry | some .key | some .value | some .blockEnd => true
  | _ => false

def endsBlockField : Option Lexeme → Bool
  | some .key | some .value | some .blockEnd => true
  | _ => false

def endsFlowKey : Option Lexeme → Bool
  | some .value | some .flowEntry | some .flowSequenceEnd | some .flowMappingEnd => true
  | _ => false

def endsFlowValue : Option Lexeme → Bool
  | some .flowEntry | some .flowSequenceEnd | some .flowMappingEnd => true
  | _ => false

def comma (first : Bool) : Parsing Unit := do
  if !first then
    match ← peek with
    | some .flowEntry => advance
    | _ => fail

mutual

-- Here and below the number bounds the depth of the reading, and lists hold what was read before,
-- last first.
def node : Nat → Place → Parsing Nat
  | 0, _ => fail
  | bound + 1, place => do
    match ← peek with
    | some (.alias name) => advance; aliased name
    | _ =>
      let p ← properties
      let next ← peek
      openAnchor p.anchor
      closeAnchor p.anchor (← content bound place p next)

def content : Nat → Place → Properties → Option Lexeme → Parsing Nat
  | 0, _, _, _ => fail
  | bound + 1, place, p, next => do
    match next, place with
    | some (.scalar text plain), _ => advance; make (.scalar (p.scalarTag text plain) text)
    | some .flowSequenceStart, _ =>
      advance
      make (.sequence (p.collectionTag .sequence) (← flowItems bound []))
    | some .flowMappingStart, _ =>
      advance
      make (.mapping (p.collectionTag .mapping) (← flowFields bound []))
    | some .blockEntry, .blockOrIndentless =>
      make (.sequence (p.collectionTag .sequence) (← indentlessItems bound []))
    | some .blockSequenceStart, .block | some .blockSequenceStart, .blockOrIndentless =>
      advance
      make (.sequence (p.collectionTag .sequence) (← blockItems bound []))
    | some .blockMappingStart, .block | some .blockMappingStart, .blockOrIndentless =>
      advance
      make (.mapping (p.collectionTag .mapping) (← blockFields bound []))
    | _, _ => if p.isEmpty then fail else make (.scalar (p.scalarTag "" true) "")

def nodeOr : Nat → (Option Lexeme → Bool) → Place → Parsing Nat
  | 0, _, _ => fail
  | bound + 1, ends, place => do
    if ends (← peek) then make .absent else node bound place

def blockItems : Nat → List Nat → Parsing (List Nat)
  | 0, _ => fail
  | bound + 1, items => do
    match ← peek with
    | some .blockEntry =>
      advance
      let item ← nodeOr bound endsBlockItem .block
      blockItems bound (item :: items)
    | some .blockEnd => advance; return items.reverse
    | _ => fail

def indentlessItems : Nat → List Nat → Parsing (List Nat)
  | 0, _ => fail
  | bound + 1, items => do
    match ← peek with
    | some .blockEntry =>
      advance
      let item ← nodeOr bound endsIndentlessItem .block
      indentlessItems bound (item :: items)
    | _ => return items.reverse

def blockFields : Nat → List (Nat × Nat) → Parsing (List (Nat × Nat))
  | 0, _ => fail
  | bound + 1, fields => do
    match ← peek with
    | some .key =>
      advance
      let key ← nodeOr bound endsBlockField .blockOrIndentless
      let value ← valueAfter bound endsBlockField .blockOrIndentless
      blockFields bound ((key, value) :: fields)
    | some .blockEnd => advance; return fields.reverse
    | _ => fail

def valueAfter : Nat → (Option Lexeme → Bool) → Place → Parsing Nat
  | 0, _, _ => fail
  | bound + 1, ends, place => do
    match ← peek with
    | some .value => advance; nodeOr bound ends place
    | _ => make .absent

def flowField : Nat → Parsing (Nat × Nat)
  | 0 => fail
  | bound + 1 => do
    let key ← nodeOr bound endsFlowKey .flow
    return (key, ← valueAfter bound endsFlowValue .flow)

def flowItems : Nat → List Nat → Parsing (List Nat)
  | 0, _ => fail
  | bound + 1, items => do
    match ← peek with
    | some .flowSequenceEnd => advance; return items.reverse
    | _ =>
      comma items.isEmpty
      match ← peek with
      | some .flowSequenceEnd => advance; return items.reverse
      | some .key =>
        advance
        let field ← flowField bound
        let item ← make (.mapping .mapping [field])
        flowItems bound (item :: items)
      | _ =>
        let item ← node bound .flow
        flowItems bound (item :: items)

def flowFields : Nat → List (Nat × Nat) → Parsing (List (Nat × Nat))
  | 0, _ => fail
  | bound + 1, fields => do
    match ← peek with
    | some .flowMappingEnd => advance; return fields.reverse
    | _ =>
      comma fields.isEmpty
      match ← peek with
      | some .flowMappingEnd => advance; return fields.reverse
      | some .key =>
        advance
        let field ← flowField bound
        flowFields bound (field :: fields)
      | _ =>
        let key ← node bound .flow
        let value ← make .absent
        flowFields bound ((key, value) :: fields)

end

def directives : Nat → Bool → Parsing Unit
  | 0, _ => return
  | bound + 1, versioned => do
    match ← peek with
    | some (.directive (.version major)) =>
      if versioned || major != 1 then fail
      advance
      directives bound true
    | some (.directive (.handle name meaning)) =>
      if (← get).handles.any fun entry => entry.1 == name then fail
      modify fun s => { s with handles := (name, meaning) :: s.handles }
      advance
      directives bound versioned
    | some (.directive .unknown) => advance; directives bound versioned
    | _ => return

def documentStart (bound : Nat) : Parsing Unit := do
  modify fun s => { s with handles := [] }
  directives bound false
  match ← peek with
  | some .documentStart => advance
  | _ => fail

def endsDocument : Option Lexeme → Bool
  | none | some (.directive _) | some .documentStart | some .documentEnd => true
  | _ => false

def document (bound : Nat) : Parsing Nat := do
  match ← peek with
  | none => make .absent
  | some (.directive _) | some .documentStart =>
    documentStart bound
    nodeOr bound endsDocument .block
  | _ => node bound .block

-- The start of another document is looked at before it is refused.
def streamEnd : Nat → Parsing Unit
  | 0 => fail
  | bound + 1 => do
    match ← peek with
    | none => return
    | some .documentEnd => advance; streamEnd bound
    | some _ => documentStart bound; fail

end Parsing

namespace Graph

def ofLexemes (lexemes : Lexemes) : Except Fault Graph := do
  let bound := 4 * lexemes.ahead.length + 8
  let (root, source) ← (do
    let root ← Parsing.document bound
    Parsing.streamEnd bound
    return root : Parsing Nat).run { lexemes }
  return ⟨source.nodes, root⟩

end Graph

end DocGuard.Yaml
