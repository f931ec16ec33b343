import DocGuard.Yaml.Fault
import DocGuard.Yaml.Node

set_option autoImplicit false

namespace DocGuard.Yaml.Nodes

-- What merge keys bring stands before the mapping's own entries, so that those overrule it.
structure Merging where
  nodes : Nodes
  brought : List (Nat × Nat) := []
  own : List (Nat × Nat) := []

def mergeEach (merge : Nat → Nodes → Except Fault Nodes) (nodes : Nodes) (brought : List (Nat × Nat)) :
    List Nat → Except Fault (List (Nat × Nat) × Nodes)
  | [] => .ok (brought, nodes)
  | n :: rest =>
    match nodes.entries? n with
    | none => .error .malformed
    | some _ => do
      let nodes ← merge n nodes
      mergeEach merge nodes ((nodes.entries? n).getD [] ++ brought) rest

def mergeSources (nodes : Nodes) (n : Nat) : Except Fault (List Nat) :=
  match nodes[n]? with
  | some (.mapping _ _) => .ok [n]
  | some (.sequence _ items) => .ok items
  | _ => .error .malformed

def mergeEntry (merge : Nat → Nodes → Except Fault Nodes) (m : Merging) (entry : Nat × Nat) :
    Except Fault Merging :=
  match m.nodes.tag entry.1 with
  | .merge => do
    let (more, nodes) ← mergeEach merge m.nodes [] (← m.nodes.mergeSources entry.2)
    return { m with nodes, brought := m.brought ++ more }
  | .default =>
    .ok { m with
      nodes := m.nodes.modify entry.1 (Node.withTag .text)
      own := entry :: m.own }
  | _ => .ok { m with own := entry :: m.own }

def merge : Nat → Nat → Nodes → Except Fault Nodes
  | 0, _, nodes => .ok nodes
  | bound + 1, n, nodes =>
    match nodes[n]? with
    | some (.mapping tag entries) => do
      let m ← entries.foldlM (mergeEntry (merge bound)) { nodes }
      return m.nodes.setIfInBounds n (.mapping tag (m.brought ++ m.own.reverse))
    | _ => .ok nodes

end DocGuard.Yaml.Nodes
