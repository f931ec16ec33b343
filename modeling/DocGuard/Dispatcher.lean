import DocGuard.Rule
import DocGuard.Token

set_option autoImplicit false

namespace DocGuard

structure Dispatcher where
  rules : List Rule
  registry : Kind → List Rule

namespace Dispatcher

def empty : Dispatcher := ⟨[], fun _ => []⟩

def register (d : Dispatcher) (rule : Rule) : Dispatcher where
  rules := d.rules ++ [rule]
  registry k := if rule.targets.has k then d.registry k ++ [rule] else d.registry k

def ofRules (rules : List Rule) : Dispatcher := rules.foldl register empty

def checkAt (d : Dispatcher) (kinds : List Kind) (k : Kind) (place : Nat) : List Violation :=
  (d.registry k).filterMap fun rule => rule.check kinds place

def run (d : Dispatcher) (kinds : List Kind) : List Violation :=
  kinds.zipIdx.flatMap fun (k, place) => d.checkAt kinds k place

def registrationNote (rule : Rule) : String :=
  let targets := ", ".intercalate (rule.targets.labels.map Text.quoted)
  s!"Registered {rule.name} for [{targets}]"

end Dispatcher

structure Session where
  dispatcher : Dispatcher
  collected : List Violation

namespace Session

def start (rules : List Rule) : Session := ⟨.ofRules rules, []⟩

inductive Step
  | register (rule : Rule)
  | run (kinds : List Kind)

def step (s : Session) : Step → Session
  | .register rule => { s with dispatcher := s.dispatcher.register rule }
  | .run kinds => { s with collected := s.collected ++ s.dispatcher.run kinds }

def codes (s : Session) : List String := s.collected.map (·.code)

end Session

end DocGuard
