import DocGuard.Yaml.Tag

set_option autoImplicit false

namespace DocGuard.Yaml

inductive Node
  | scalar (tag : Tag) (text : String)
  | sequence (tag : Tag) (items : List Nat)
  | mapping (tag : Tag) (entries : List (Nat × Nat))
  deriving Repr, DecidableEq

namespace Node

def tag : Node → Tag
  | .scalar tag _ | .sequence tag _ | .mapping tag _ => tag

def withTag (tag : Tag) : Node → Node
  | .scalar _ text => .scalar tag text
  | .sequence _ items => .sequence tag items
  | .mapping _ entries => .mapping tag entries

def absent : Node := .scalar .null ""

end Node

-- Nodes refer to each other by number, so that an alias is the very node it names. The children of
-- a node have lower numbers than the node.
abbrev Nodes := Array Node

namespace Nodes

def tag (nodes : Nodes) (n : Nat) : Tag := (nodes[n]?.map Node.tag).getD .other

def entries? (nodes : Nodes) (n : Nat) : Option (List (Nat × Nat)) :=
  match nodes[n]? with
  | some (.mapping _ entries) => some entries
  | _ => none

end Nodes

end DocGuard.Yaml
