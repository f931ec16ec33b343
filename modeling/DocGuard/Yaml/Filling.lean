import DocGuard.Yaml.Graph
import DocGuard.Yaml.Merge
import DocGuard.Yaml.Scalar

set_option autoImplicit false

namespace DocGuard.Yaml

namespace Nodes

-- A mapping has the text of its first entry with the key `=`.
def scalarText (nodes : Nodes) : Nat → Nat → Except Fault String
  | 0, _ => .error .malformed
  | bound + 1, n =>
    match nodes[n]? with
    | some (.scalar _ text) => .ok text
    | some (.mapping _ entries) =>
      match entries.find? fun (key, _) => nodes.tag key == .default with
      | some (_, value) => scalarText nodes bound value
      | none => .error .malformed
    | _ => .error .malformed

def isScalar (nodes : Nodes) (n : Nat) : Bool :=
  match nodes[n]? with
  | some (.scalar _ _) => true
  | _ => false

def scalarValue (nodes : Nodes) (n : Nat) (text : String) : Except Fault Value :=
  if nodes.tag n == .timestamp && !nodes.isScalar n then .error .notText
  else Scalar.value (nodes.tag n) text

-- Every node has a mark of its own, except that all nodes that name not-a-number share one.
def mark (nodes : Nodes) (n : Nat) (text : String) : Nat :=
  if nodes.tag n == .fraction && Scalar.namesNotANumber text then 0 else n + 1

end Nodes

-- A scalar gets its value when it is reached, while a collection is only made then and filled a
-- round later: of several faults the one nearest to the root counts.
inductive Progress
  | untouched
  | scalar (value : Value) (mark : Nat)
  | collection
  deriving Repr

structure Filling where
  nodes : Nodes
  progress : Array Progress
  waiting : List Nat := []

namespace Filling

def set (f : Filling) (n : Nat) (progress : Progress) : Filling :=
  { f with progress := f.progress.setIfInBounds n progress }

def reach (f : Filling) (n : Nat) : Except Fault Filling :=
  match f.progress[n]? with
  | some .untouched =>
    if (f.nodes.tag n).isCollection then
      .ok { f.set n .collection with waiting := n :: f.waiting }
    else do
      let text ← f.nodes.scalarText (n + 1) n
      let value ← f.nodes.scalarValue n text
      return f.set n (.scalar value (f.nodes.mark n text))
  | _ => .ok f

def isCollection (f : Filling) (n : Nat) : Bool :=
  match f.progress[n]? with
  | some .collection => true
  | _ => false

def reachEntry (f : Filling) (entry : Nat × Nat) : Except Fault Filling := do
  let f ← f.reach entry.1
  if f.isCollection entry.1 then throw .malformed
  f.reach entry.2

def reachPair (f : Filling) (n : Nat) : Except Fault Filling :=
  match f.nodes.entries? n with
  | some [(key, value)] => do (← f.reach key).reach value
  | _ => .error .malformed

def fill (f : Filling) (n : Nat) : Except Fault Filling :=
  match f.nodes.tag n, f.nodes[n]? with
  | .sequence, some (.sequence _ items) => items.foldlM reach f
  | .pairs, some (.sequence _ items) => items.foldlM reachPair f
  | .mapping, some (.mapping _ _) | .set, some (.mapping _ _) => do
    let nodes ← f.nodes.merge (n + 1) n
    ((nodes.entries? n).getD []).foldlM reachEntry { f with nodes }
  | _, _ => .error .malformed

def rounds : Nat → Filling → Except Fault Filling
  | 0, f => .ok f
  | bound + 1, f =>
    if f.waiting.isEmpty then .ok f
    else do rounds bound (← f.waiting.reverse.foldlM fill { f with waiting := [] })

def markedKey (f : Filling) (n : Nat) : Nat × Value :=
  match f.progress[n]? with
  | some (.scalar value mark) => (mark, value)
  | _ => (n + 1, .null)

def sameKey (a b : Nat × Value) : Bool := a.1 == b.1 || a.2.sameKey b.2

def entryValues (f : Filling) (values : Array Value) (entries : List (Nat × Nat)) :
    List (Value × Value) :=
  let pairs := entries.map fun (key, value) => (f.markedKey key, values.getD value .null)
  (Assoc.ofPairs sameKey pairs).map fun (key, value) => (key.2, value)

def pairValue (f : Filling) (values : Array Value) (n : Nat) : Value :=
  match f.nodes.entries? n with
  | some [(key, value)] => .tuple [values.getD key .null, values.getD value .null]
  | _ => .null

def value (f : Filling) (values : Array Value) (n : Nat) : Value :=
  match f.progress[n]?, f.nodes[n]? with
  | some (.scalar value _), _ => value
  | some .collection, some (.sequence .pairs items) => .list (items.map (f.pairValue values))
  | some .collection, some (.sequence _ items) => .list (items.map (values.getD · .null))
  | some .collection, some (.mapping .set entries) => .set ((f.entryValues values entries).map (·.1))
  | some .collection, some (.mapping _ entries) => .map (f.entryValues values entries)
  | _, _ => .null

def values (f : Filling) : Array Value :=
  (List.range f.nodes.size).foldl (fun values n => values.push (f.value values n)) #[]

end Filling

def Graph.value (g : Graph) : Except Fault Value := do
  let progress := Array.replicate g.nodes.size Progress.untouched
  let start ← Filling.reach { nodes := g.nodes, progress } g.root
  let f ← Filling.rounds (g.nodes.size + 1) start
  return f.values.getD g.root .null

end DocGuard.Yaml
