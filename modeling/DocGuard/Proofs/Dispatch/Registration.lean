import DocGuard.Proofs.Dispatch.Reports
import Mathlib.Data.List.Perm.Basic

set_option autoImplicit false

namespace DocGuard

-- What the rules have to say of one place, in their order.
def violationsAt (rules : List Rule) (kinds : List Kind) (place : Nat) : List Violation :=
  (rules.filter fun rule => rule.Reports kinds place).map fun rule => rule.violation place

theorem violations_eq_flatMap (rules : List Rule) (kinds : List Kind) :
    violations rules kinds = (List.range kinds.length).flatMap (violationsAt rules kinds) := by
  rw [violations, reporters, List.map_flatMap]
  apply List.flatMap_congr
  intro place _
  rw [List.map_map]
  rfl

section Place

variable (kinds : List Kind) (place : Nat)

theorem position_of_mem_violationsAt {rules : List Rule} {v : Violation}
    (member : v ∈ violationsAt rules kinds place) : v.position = place := by
  obtain ⟨rule, _, rfl⟩ := List.mem_map.mp member
  rfl

theorem violationsAt_append (early late : List Rule) :
    violationsAt (early ++ late) kinds place =
      violationsAt early kinds place ++ violationsAt late kinds place := by
  rw [violationsAt, List.filter_append, List.map_append]
  rfl

theorem violationsAt_perm {rules others : List Rule} (same : rules.Perm others) :
    (violationsAt rules kinds place).Perm (violationsAt others kinds place) :=
  (same.filter _).map _

theorem violationsAt_outside (rules : List Rule) (outside : kinds.length ≤ place) :
    violationsAt rules kinds place = [] := by
  have silent : ∀ rule ∈ rules, ¬ rule.Reports kinds place := by
    intro rule _ reports
    obtain ⟨k, here, _⟩ := reports.1
    rw [List.getElem?_eq_none outside] at here
    contradiction
  rw [violationsAt, List.map_eq_nil_iff, List.filter_eq_nil_iff]
  simpa using silent

-- A place speaks as often as it has reporters, whoever they are.
theorem map_position_violationsAt (rules : List Rule) :
    (violationsAt rules kinds place).map (·.position) =
      List.replicate (rules.countP fun rule => rule.Reports kinds place) (place : Int) := by
  rw [List.eq_replicate_iff]
  constructor
  · rw [List.length_map, violationsAt, List.length_map, ← List.countP_eq_length_filter]
  · intro position member
    obtain ⟨v, inside, rfl⟩ := List.mem_map.mp member
    exact position_of_mem_violationsAt kinds place inside

end Place

theorem map_position_violations (rules : List Rule) (kinds : List Kind) :
    (violations rules kinds).map (·.position) = (List.range kinds.length).flatMap fun place : Nat =>
      List.replicate (rules.countP fun rule => rule.Reports kinds place) (place : Int) := by
  rw [violations_eq_flatMap, List.map_flatMap]
  exact List.flatMap_congr fun place _ => map_position_violationsAt kinds place rules

theorem pairwise_position_violations (rules : List Rule) (kinds : List Kind) :
    ((violations rules kinds).map (·.position)).Pairwise (· ≤ ·) := by
  rw [map_position_violations, List.pairwise_flatMap]
  constructor
  · intro place _
    exact List.pairwise_replicate.mpr (.inr (Int.le_refl _))
  · apply List.pairwise_lt_range.imp
    intro earlier later before p first q second
    rw [List.eq_of_mem_replicate first, List.eq_of_mem_replicate second]
    omega

-- The visits of other places add nothing, so a place is found in one visit.
theorem filter_position_visits (rules : List Rule) (kinds : List Kind) (place visited : Nat) :
    (((List.range visited).flatMap (violationsAt rules kinds)).filter fun v => v.position = (place : Int)) =
      if place < visited then violationsAt rules kinds place else [] := by
  induction visited with
  | zero => rfl
  | succ last ih =>
    rw [List.range_succ, List.flatMap_append, List.filter_append, ih, List.flatMap_singleton]
    by_cases here : last = place
    · subst here
      have own : ((violationsAt rules kinds last).filter fun v => v.position = (last : Int)) =
          violationsAt rules kinds last := by
        rw [List.filter_eq_self]
        intro v member
        simpa using position_of_mem_violationsAt kinds last member
      simp [own]
    · have foreign : ((violationsAt rules kinds last).filter fun v => v.position = (place : Int)) = [] := by
        rw [List.filter_eq_nil_iff]
        intro v member
        rw [position_of_mem_violationsAt kinds last member]
        simpa [Int.ofNat_inj] using here
      have reached : place < last + 1 ↔ place < last := by omega
      simp [foreign, reached]

theorem filter_position_violations (rules : List Rule) (kinds : List Kind) (place : Nat) :
    ((violations rules kinds).filter fun v => v.position = (place : Int)) =
      violationsAt rules kinds place := by
  rw [violations_eq_flatMap, filter_position_visits]
  split
  next => rfl
  next outside => exact (violationsAt_outside kinds place rules (by omega)).symm

theorem violations_perm {rules others : List Rule} (same : rules.Perm others) (kinds : List Kind) :
    (violations rules kinds).Perm (violations others kinds) := by
  rw [violations_eq_flatMap, violations_eq_flatMap]
  exact List.Perm.flatMap_left _ fun place _ => violationsAt_perm kinds place same

namespace Dispatcher

theorem registration_order {rules others : List Rule} (same : rules.Perm others)
    (kinds : List Kind) :
    let run (rules : List Rule) := (ofRules rules).run kinds
    (run rules).Perm (run others) ∧
    (run rules).map (·.position) = (run others).map (·.position) ∧
    ((run rules).map (·.position)).Pairwise (· ≤ ·) ∧
    (∀ place : Nat, ((run rules).filter fun v => v.position = (place : Int)).Perm
      ((run others).filter fun v => v.position = (place : Int))) ∧
    ∀ (early late : List Rule) (place : Nat),
      ((run (early ++ late)).filter fun v => v.position = (place : Int)) =
        ((run early).filter fun v => v.position = (place : Int)) ++
          (run late).filter fun v => v.position = (place : Int) := by
  intro run
  simp only [run, run_ofRules, filter_position_violations]
  refine ⟨violations_perm same kinds, ?_, pairwise_position_violations rules kinds, ?_, ?_⟩
  · rw [map_position_violations, map_position_violations]
    apply List.flatMap_congr
    intro place _
    rw [same.countP_eq]
  · exact fun place => violationsAt_perm kinds place same
  · exact fun early late place => violationsAt_append kinds place early late

-- Two rules target classes, and one of them is registered twice: it matters who comes first, but only
-- at the place of the undocumented class.
theorem registration_order_shared_target :
    let plain := Rule.classComment
    let strict := { plain with skip := .ofList [], message := "No comment." }
    let rules := [plain, strict, plain]
    let others := [strict, plain, plain]
    let kinds : List Kind := [.finalKw, .classKw, .docClose, .finalKw, .classKw]
    rules.Perm others ∧ (ofRules rules).run kinds ≠ (ofRules others).run kinds ∧
      ((ofRules rules).run kinds).Perm ((ofRules others).run kinds) ∧
      ((ofRules others).run kinds).map (·.position) = [1, 1, 1, 4] ∧
      ((ofRules rules).run kinds).map (·.position) = [1, 1, 1, 4] := by
  intro plain strict rules others kinds
  have same : rules.Perm others := .swap strict plain [plain]
  have positions : ((ofRules others).run kinds).map (·.position) = [1, 1, 1, 4] := by decide
  obtain ⟨perm, equal, _⟩ := registration_order same kinds
  exact ⟨same, by decide, perm, positions, equal.trans positions⟩

end Dispatcher

end DocGuard
