import DocGuard.Dispatcher
import DocGuard.Proofs.Lookback.Search
import Mathlib.Data.List.Basic

set_option autoImplicit false

namespace DocGuard

open Lookback

namespace Rule

-- A doc comment ends somewhere before the place, with nothing but a gap in between.
def HasDocComment (rule : Rule) (kinds : List Kind) (place : Nat) : Prop :=
  ∃ found, found < place ∧ kinds[found]? = some .docClose ∧ rule.skip.has .docClose = false ∧
    Gap rule.skip (between kinds found place)

theorem documented_eq_true_iff (rule : Rule) (kinds : List Kind) (place : Int) :
    rule.documented kinds place = true ↔
      ∃ found, significant? kinds place rule.skip = some found ∧
        kinds[found]? = some .docClose := by
  unfold documented
  cases significant? kinds place rule.skip <;> simp

theorem documented_iff (rule : Rule) {kinds : List Kind} {place : Nat}
    (within : place ≤ kinds.length) :
    rule.documented kinds place = true ↔ rule.HasDocComment kinds place := by
  simp only [documented_eq_true_iff, significant?_eq_some_iff within]
  constructor
  · rintro ⟨found, ⟨before, gap, k, here, notSkipped, _⟩, closes⟩
    obtain rfl := Option.some.inj (here.symm.trans closes)
    exact ⟨found, before, closes, notSkipped, gap⟩
  · rintro ⟨found, before, closes, notSkipped, gap⟩
    exact ⟨found, ⟨before, gap, _, closes, notSkipped, by decide⟩, closes⟩

def Targets (rule : Rule) (kinds : List Kind) (place : Nat) : Prop :=
  ∃ k, kinds[place]? = some k ∧ rule.targets.has k = true

-- The place has to be reported.
def Reports (rule : Rule) (kinds : List Kind) (place : Nat) : Prop :=
  rule.Targets kinds place ∧ ¬ rule.HasDocComment kinds place

theorem reports_iff (rule : Rule) {kinds : List Kind} {place : Nat} {k : Kind}
    (here : kinds[place]? = some k) :
    rule.Reports kinds place ↔ rule.targets.has k = true ∧ rule.documented kinds place = false := by
  have within : place ≤ kinds.length := Nat.le_of_lt (List.getElem?_eq_some_iff.mp here).1
  simp [Reports, Targets, here, ← documented_iff rule within]

instance (rule : Rule) (kinds : List Kind) (place : Nat) : Decidable (rule.Reports kinds place) :=
  match here : kinds[place]? with
  | none => .isFalse (by simp [Reports, Targets, here])
  | some _ => decidable_of_iff _ (rule.reports_iff here).symm

def violation (rule : Rule) (place : Nat) : Violation := ⟨place, rule.message, rule.code⟩

end Rule

-- Who has to report which place: place by place, and at each in the order of the rules.
def reporters (rules : List Rule) (kinds : List Kind) : List (Nat × Rule) :=
  (List.range kinds.length).flatMap fun place =>
    (rules.filter fun rule => rule.Reports kinds place).map fun rule => (place, rule)

theorem mem_reporters {rules : List Rule} {kinds : List Kind} {place : Nat} {rule : Rule} :
    (place, rule) ∈ reporters rules kinds ↔ rule ∈ rules ∧ rule.Reports kinds place := by
  simp only [reporters, List.mem_flatMap, List.mem_range, List.mem_map, List.mem_filter,
    decide_eq_true_eq, Prod.mk.injEq]
  constructor
  · rintro ⟨_, _, _, both, rfl, rfl⟩
    exact both
  · rintro ⟨member, reports⟩
    obtain ⟨k, here, _⟩ := reports.1
    exact ⟨place, (List.getElem?_eq_some_iff.mp here).1, rule, ⟨member, reports⟩, rfl, rfl⟩

def violations (rules : List Rule) (kinds : List Kind) : List Violation :=
  (reporters rules kinds).map fun (place, rule) => rule.violation place

namespace Dispatcher

-- The registry holds for each kind the rules that target it, in the order of registration.
def Consistent (d : Dispatcher) : Prop :=
  ∀ k, d.registry k = d.rules.filter fun rule => rule.targets.has k

theorem consistent_empty : empty.Consistent := fun _ => rfl

theorem Consistent.register {d : Dispatcher} (consistent : d.Consistent) (rule : Rule) :
    (d.register rule).Consistent := by
  intro k
  by_cases targeted : rule.targets.has k = true <;>
    simp [Dispatcher.register, targeted, consistent k]

theorem foldl_register (rules : List Rule) (d : Dispatcher) (consistent : d.Consistent) :
    (rules.foldl register d).Consistent ∧ (rules.foldl register d).rules = d.rules ++ rules := by
  induction rules generalizing d with
  | nil => simpa using consistent
  | cons rule rest ih =>
    obtain ⟨after, same⟩ := ih (d.register rule) (consistent.register rule)
    exact ⟨after, by simpa [register] using same⟩

theorem consistent_ofRules (rules : List Rule) : (ofRules rules).Consistent :=
  (foldl_register rules empty consistent_empty).1

@[simp]
theorem rules_ofRules (rules : List Rule) : (ofRules rules).rules = rules :=
  (foldl_register rules empty consistent_empty).2

theorem checkAt_eq {d : Dispatcher} (consistent : d.Consistent) {kinds : List Kind} {k : Kind}
    {place : Nat} (here : kinds[place]? = some k) :
    d.checkAt kinds k place =
      (d.rules.filter fun rule => rule.Reports kinds place).map fun rule =>
        rule.violation place := by
  rw [checkAt, consistent k]
  induction d.rules with
  | nil => rfl
  | cons rule rest ih =>
    have reports := rule.reports_iff here
    have check : rule.check kinds place =
        if rule.documented kinds place then none else some (rule.violation place) := rfl
    cases targeted : rule.targets.has k <;> cases documented : rule.documented kinds place <;>
      simp [reports, targeted, documented, check, ih]

theorem run_eq_violations {d : Dispatcher} (consistent : d.Consistent) (kinds : List Kind) :
    d.run kinds = violations d.rules kinds := by
  have visited : d.run kinds = kinds.zipIdx.flatMap fun visit =>
      (d.rules.filter fun rule => rule.Reports kinds visit.2).map fun rule =>
        rule.violation visit.2 := by
    apply List.flatMap_congr
    rintro ⟨k, place⟩ member
    exact checkAt_eq consistent (List.mk_mem_zipIdx_iff_getElem?.mp member)
  have places : kinds.zipIdx.map Prod.snd = List.range kinds.length := by
    simp [List.zipIdx_map_snd, List.range_eq_range']
  rw [visited, violations, reporters, List.map_flatMap, ← places, List.flatMap_map]
  simp [Function.comp_def]

theorem run_ofRules (rules : List Rule) (kinds : List Kind) :
    (ofRules rules).run kinds = violations rules kinds := by
  simpa using run_eq_violations (consistent_ofRules rules) kinds

end Dispatcher

end DocGuard
