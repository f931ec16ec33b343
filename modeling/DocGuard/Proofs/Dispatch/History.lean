import DocGuard.Proofs.Dispatch.Reports
import Mathlib.Data.List.Induction

set_option autoImplicit false

namespace DocGuard.Session

def after (initial : List Rule) (steps : List Step) : Session := steps.foldl step (start initial)

def registered (steps : List Step) : List Rule :=
  steps.filterMap fun
    | .register rule => some rule
    | .run _ => none

-- What the runs of a history have to report, one after the other.
def expected : List Rule → List Step → List Violation
  | _, [] => []
  | rules, .register rule :: steps => expected (rules ++ [rule]) steps
  | rules, .run kinds :: steps => violations rules kinds ++ expected rules steps

theorem expected_append (rules : List Rule) (steps more : List Step) :
    expected rules (steps ++ more) =
      expected rules steps ++ expected (rules ++ registered steps) more := by
  induction steps generalizing rules with
  | nil => simp [expected, registered]
  | cons step rest ih => cases step <;> simp [expected, registered, ih]

-- What every reachable session has in common.
structure Traced (initial : List Rule) (steps : List Step) (s : Session) : Prop where
  consistent : s.dispatcher.Consistent
  rules : s.dispatcher.rules = initial ++ registered steps
  collected : s.collected = expected initial steps

theorem traced_start (initial : List Rule) : Traced initial [] (start initial) where
  consistent := Dispatcher.consistent_ofRules initial
  rules := by simp [start, registered]
  collected := rfl

theorem collected_run {s : Session} (consistent : s.dispatcher.Consistent) (kinds : List Kind) :
    (s.step (.run kinds)).collected = s.collected ++ violations s.dispatcher.rules kinds := by
  simp only [step, Dispatcher.run_eq_violations consistent]

theorem Traced.step {initial : List Rule} {steps : List Step} {s : Session}
    (traced : Traced initial steps s) (next : Step) :
    Traced initial (steps ++ [next]) (s.step next) := by
  cases next with
  | register rule =>
    constructor
    · exact traced.consistent.register rule
    · simp [Session.step, Dispatcher.register, registered, traced.rules]
    · rw [expected_append]
      simpa [Session.step, expected] using traced.collected
  | run kinds =>
    constructor
    · exact traced.consistent
    · simpa [Session.step, registered] using traced.rules
    · rw [expected_append, collected_run traced.consistent, traced.collected, traced.rules]
      simp [expected]

theorem traced_after (initial : List Rule) (steps : List Step) :
    Traced initial steps (after initial steps) := by
  induction steps using List.reverseRecOn with
  | nil => exact traced_start initial
  | append_singleton steps next ih =>
    rw [after, List.foldl_append]
    exact ih.step next

theorem history_exact (initial : List Rule) (steps : List Step) :
    let reached := after initial steps
    let rules := initial ++ registered steps
    reached.dispatcher.rules = rules ∧
      (∀ k, reached.dispatcher.registry k = rules.filter fun rule => rule.targets.has k) ∧
      reached.collected = expected initial steps ∧
      (∀ kinds, reached.step (.run kinds) =
        { reached with collected := reached.collected ++ violations rules kinds }) ∧
      ∀ rule, (reached.step (.register rule)).collected = reached.collected := by
  have traced := traced_after initial steps
  refine ⟨traced.rules, ?_, traced.collected, ?_, fun _ => rfl⟩
  · intro k
    rw [traced.consistent k, traced.rules]
  · intro kinds
    rw [← traced.rules, ← Dispatcher.run_eq_violations traced.consistent]
    rfl

end DocGuard.Session
