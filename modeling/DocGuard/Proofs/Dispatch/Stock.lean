import DocGuard.Proofs.Dispatch.Reports

set_option autoImplicit false

namespace DocGuard

-- The kinds that a stock rule targets.
def declarations : List Kind := [.classKw, .interfaceKw, .traitKw, .enumKw, .functionKw]

theorem any_targets_stock (k : Kind) :
    Rule.stock.any (fun rule => rule.targets.has k) = declarations.contains k := by
  cases k <;> rfl

theorem mem_declarations {rule : Rule} (member : rule ∈ Rule.stock) {k : Kind}
    (targeted : rule.targets.has k = true) : k ∈ declarations := by
  have some : Rule.stock.any (fun rule => rule.targets.has k) = true :=
    List.any_eq_true.mpr ⟨rule, member, targeted⟩
  simpa [any_targets_stock] using some

theorem stock_skip_declaration : ∀ rule ∈ Rule.stock, ∀ k ∈ declarations,
    rule.skip.has k = false := by
  decide

theorem stock_skip_docClose : ∀ rule ∈ Rule.stock, rule.skip.has .docClose = false := by
  decide

theorem filter_targets_perm {rules : List Rule} (same : rules.Perm Rule.stock) (k : Kind) :
    (rules.filter fun rule => rule.targets.has k) =
      Rule.stock.filter fun rule => rule.targets.has k := by
  have chosen := same.filter fun rule => rule.targets.has k
  -- At most one stock rule is chosen, and a list of one rule has no other order.
  cases k
  all_goals first
    | exact List.perm_singleton.mp chosen
    | exact List.perm_nil.mp chosen

theorem Dispatcher.run_perm_stock {rules : List Rule} (same : rules.Perm Rule.stock)
    (kinds : List Kind) : (ofRules rules).run kinds = (ofRules Rule.stock).run kinds := by
  have registry (k : Kind) : (ofRules rules).registry k = (ofRules Rule.stock).registry k := by
    rw [consistent_ofRules, consistent_ofRules, rules_ofRules, rules_ofRules]
    exact filter_targets_perm same k
  simp only [run, checkAt, registry]

theorem filter_reports_stock {rule : Rule} (member : rule ∈ Rule.stock) {kinds : List Kind}
    {place : Nat} (reports : rule.Reports kinds place) :
    (Rule.stock.filter fun rule => rule.Reports kinds place) = [rule] := by
  have apart : ¬ (Rule.classComment.Reports kinds place ∧
      Rule.functionComment.Reports kinds place) := by
    rintro ⟨⟨⟨k, here, first⟩, _⟩, ⟨⟨_, there, second⟩, _⟩⟩
    obtain rfl := Option.some.inj (here.symm.trans there)
    revert first second
    cases k <;> decide
  have either := List.mem_pair.mp member
  rcases either with rfl | rfl
  · have other : ¬ Rule.functionComment.Reports kinds place := fun holds => apart ⟨reports, holds⟩
    simp [Rule.stock, reports, other]
  · have other : ¬ Rule.classComment.Reports kinds place := fun holds => apart ⟨holds, reports⟩
    simp [Rule.stock, reports, other]

theorem reporter_unique {first second : Rule} (firstMember : first ∈ Rule.stock)
    (secondMember : second ∈ Rule.stock) {kinds : List Kind} {place : Nat}
    (firstReports : first.Reports kinds place) (secondReports : second.Reports kinds place) :
    second = first := by
  have chosen : second ∈ Rule.stock.filter fun rule => rule.Reports kinds place := by
    simp [secondMember, secondReports]
  rw [filter_reports_stock firstMember firstReports] at chosen
  exact List.mem_singleton.mp chosen

end DocGuard
