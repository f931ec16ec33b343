import DocGuard.Proofs.Dispatch.Stock
import DocGuard.Proofs.Lookback.Nesting
import Mathlib.Data.List.Nodup
import Mathlib.Tactic.Choose

set_option autoImplicit false

namespace DocGuard

open Lookback

-- The rules agree on what stops a search: an opener and whatever one of them targets.
structure Separated (rules : List Rule) : Prop where
  notTargeted : ∀ rule ∈ rules, rule.targets.has .attrOpen = false
  notSkipped : ∀ rule ∈ rules, rule.skip.has .attrOpen = false
  targetsStop : ∀ rule ∈ rules, ∀ other ∈ rules, ∀ k, rule.targets.has k = true →
    other.skip.has k = false

namespace Separated

variable {rules : List Rule} {kinds : List Kind}

theorem perm {others : List Rule} (separated : Separated rules) (same : others.Perm rules) :
    Separated others where
  notTargeted rule member := separated.notTargeted rule (same.mem_iff.mp member)
  notSkipped rule member := separated.notSkipped rule (same.mem_iff.mp member)
  targetsStop rule member other otherMember :=
    separated.targetsStop rule (same.mem_iff.mp member) other (same.mem_iff.mp otherMember)

theorem comments_differ (separated : Separated rules) {first second : Rule} {i j : Nat}
    (firstMember : first ∈ rules) (secondMember : second ∈ rules) (order : i < j)
    (firstTargets : first.Targets kinds i) (secondTargets : second.Targets kinds j)
    {found other : Nat} (ends : significant? kinds i first.skip = some found)
    (otherEnds : significant? kinds j second.skip = some other) : found ≠ other := by
  obtain ⟨k, here, targeted⟩ := firstTargets
  obtain ⟨_, there, _⟩ := secondTargets
  have within : j < kinds.length := (List.getElem?_eq_some_iff.mp there).1
  have notOpen : k ≠ .attrOpen := by
    rintro rfl
    simp [separated.notTargeted first firstMember] at targeted
  have stops := separated.targetsStop first firstMember second secondMember k targeted
  exact significant?_ne order (Nat.le_of_lt within) here notOpen
    (separated.notSkipped first firstMember) stops ends otherEnds

end Separated

-- The places whose kind passes a test, in order.
def placesOf (test : Kind → Bool) (kinds : List Kind) : List Nat :=
  (List.range kinds.length).filter fun place => kinds[place]?.any test

theorem mem_placesOf (test : Kind → Bool) (kinds : List Kind) (place : Nat) :
    place ∈ placesOf test kinds ↔ ∃ k, kinds[place]? = some k ∧ test k = true := by
  simp only [placesOf, List.mem_filter, List.mem_range, Option.any_eq_true, and_iff_right_iff_imp]
  rintro ⟨k, here, _⟩
  exact (List.getElem?_eq_some_iff.mp here).1

theorem nodup_placesOf (test : Kind → Bool) (kinds : List Kind) : (placesOf test kinds).Nodup :=
  List.nodup_range.filter _

theorem length_placesOf (test : Kind → Bool) (kinds : List Kind) :
    (placesOf test kinds).length = kinds.countP test := by
  rw [placesOf, ← List.countP_eq_length_filter]
  induction kinds with
  | nil => rfl
  | cons k rest ih =>
    simp [List.range_succ_eq_map, List.countP_cons, List.countP_map, Function.comp_def, ih]

theorem length_le_run {rules : List Rule} {kinds : List Kind} {places : List Nat}
    (distinct : places.Nodup)
    (reported : ∀ place ∈ places, ∃ rule ∈ rules, rule.Reports kinds place) :
    places.length ≤ ((Dispatcher.ofRules rules).run kinds).length := by
  have subset : places ⊆ (reporters rules kinds).map Prod.fst := by
    intro place member
    obtain ⟨rule, present, reports⟩ := reported place member
    exact List.mem_map.mpr ⟨(place, rule), mem_reporters.mpr ⟨present, reports⟩, rfl⟩
  simpa [Dispatcher.run_ofRules, violations] using distinct.length_le_of_subset subset

theorem Separated.length_le_docClose {rules : List Rule} (separated : Separated rules)
    {kinds : List Kind} {places : List Nat} (distinct : places.Nodup)
    (documented : ∀ place ∈ places, ∃ rule ∈ rules, rule.Targets kinds place ∧
      rule.documented kinds place = true) :
    places.length ≤ kinds.count .docClose := by
  have comment : ∀ place ∈ places, ∃ found, ∃ rule ∈ rules, rule.Targets kinds place ∧
      significant? kinds place rule.skip = some found ∧ kinds[found]? = some .docClose := by
    intro place member
    obtain ⟨rule, present, targeted, holds⟩ := documented place member
    obtain ⟨found, ends, closes⟩ := (rule.documented_eq_true_iff kinds place).mp holds
    exact ⟨found, rule, present, targeted, ends, closes⟩
  choose! found rule present targeted ends closes using comment
  have apart {i j : Nat} (less : i < j) (iMember : i ∈ places) (jMember : j ∈ places) :
      found i ≠ found j :=
    separated.comments_differ (present i iMember) (present j jMember) less (targeted i iMember)
      (targeted j jMember) (ends i iMember) (ends j jMember)
  have injective : (places.map found).Nodup := by
    apply List.Nodup.map_on _ distinct
    intro i iMember j jMember same
    rcases Nat.lt_trichotomy i j with less | equal | greater
    · exact absurd same (apart less iMember jMember)
    · exact equal
    · exact absurd same.symm (apart greater jMember iMember)
  have subset : places.map found ⊆ placesOf (· == .docClose) kinds := by
    intro place member
    obtain ⟨declared, inside, rfl⟩ := List.mem_map.mp member
    exact (mem_placesOf _ kinds _).mpr ⟨_, closes declared inside, by simp⟩
  rw [List.count, ← length_placesOf, ← List.length_map found]
  exact injective.length_le_of_subset subset

-- The places of targets are told apart by whether a rule reports them.
theorem Separated.countP_targets_le {rules : List Rule} (separated : Separated rules)
    (kinds : List Kind) :
    kinds.countP (fun k => rules.any fun rule => rule.targets.has k) ≤
      ((Dispatcher.ofRules rules).run kinds).length + kinds.count .docClose := by
  let reported := fun place => rules.any fun rule => decide (rule.Reports kinds place)
  let targets := placesOf (fun k => rules.any fun rule => rule.targets.has k) kinds
  have distinct : targets.Nodup := nodup_placesOf _ kinds
  have run : (targets.filter reported).length ≤ ((Dispatcher.ofRules rules).run kinds).length := by
    apply length_le_run (distinct.filter _)
    intro place member
    simpa [reported] using (List.mem_filter.mp member).2
  have comments : (targets.filter fun place => !reported place).length ≤ kinds.count .docClose := by
    apply separated.length_le_docClose (distinct.filter _)
    intro place member
    obtain ⟨inside, silent⟩ := List.mem_filter.mp member
    obtain ⟨k, here, targeted⟩ := (mem_placesOf _ kinds place).mp inside
    obtain ⟨rule, present, has⟩ := List.any_eq_true.mp targeted
    have quiet : ¬ rule.Reports kinds place := by
      simp only [reported, Bool.not_eq_true', List.any_eq_false, decide_eq_true_eq] at silent
      exact silent rule present
    exact ⟨rule, present, ⟨k, here, has⟩, by simpa [rule.reports_iff here, has] using quiet⟩
  have whole : targets.length =
      (targets.filter reported).length + (targets.filter fun place => !reported place).length :=
    List.length_eq_length_filter_add reported
  rw [← length_placesOf]
  change targets.length ≤ _
  omega

theorem separated_stock : Separated Rule.stock where
  notTargeted := by decide
  notSkipped := by decide
  targetsStop _ member _ otherMember _ targeted :=
    stock_skip_declaration _ otherMember _ (mem_declarations member targeted)

theorem doc_comments_not_shared (kinds : List Kind) :
    (∀ rules, Separated rules → ∀ first ∈ rules, ∀ second ∈ rules, ∀ i j : Nat, i < j →
      first.Targets kinds i → second.Targets kinds j →
      first.documented kinds i = true → second.documented kinds j = true →
      ∃ found other, significant? kinds i first.skip = some found ∧
        significant? kinds j second.skip = some other ∧ kinds[found]? = some .docClose ∧
        kinds[other]? = some .docClose ∧ found ≠ other) ∧
    ∀ rules, rules.Perm Rule.stock → Separated rules ∧
      kinds.countP (fun k => declarations.contains k) - kinds.count .docClose ≤
        ((Dispatcher.ofRules rules).run kinds).length := by
  constructor
  · intro rules separated first firstMember second secondMember i j order targets otherTargets
      documented otherDocumented
    obtain ⟨found, ends, closes⟩ := (first.documented_eq_true_iff kinds i).mp documented
    obtain ⟨other, otherEnds, otherCloses⟩ :=
      (second.documented_eq_true_iff kinds j).mp otherDocumented
    exact ⟨found, other, ends, otherEnds, closes, otherCloses, separated.comments_differ firstMember
      secondMember order targets otherTargets ends otherEnds⟩
  · intro rules same
    have separated := separated_stock.perm same
    have bound := separated.countP_targets_le kinds
    simp only [same.any_eq, any_targets_stock] at bound
    exact ⟨separated, by omega⟩

-- The class stands in a block that the search from the function steps over.
theorem doc_comments_not_shared_nested :
    let kinds : List Kind := [.docClose, .attrOpen, .docClose, .classKw, .attrClose, .functionKw]
    Separated Rule.stock ∧ Rule.classComment.documented kinds 3 = true ∧
      Rule.functionComment.documented kinds 5 = true ∧
      (∃ found other, significant? kinds 3 Rule.classComment.skip = some found ∧
        significant? kinds 5 Rule.functionComment.skip = some other ∧
        kinds[found]? = some .docClose ∧ kinds[other]? = some .docClose ∧ found ≠ other) ∧
      Separated [.functionComment, .classComment] ∧
      kinds.countP (fun k => declarations.contains k) - kinds.count .docClose ≤
        ((Dispatcher.ofRules [.functionComment, .classComment]).run kinds).length := by
  intro kinds
  have facts := doc_comments_not_shared kinds
  refine ⟨separated_stock, by decide, by decide, ?_, facts.2 _ (List.Perm.swap _ _ _)⟩
  exact facts.1 Rule.stock separated_stock .classComment (by simp [Rule.stock]) .functionComment
    (by simp [Rule.stock]) 3 5 (by decide) ⟨.classKw, rfl, rfl⟩ ⟨.functionKw, rfl, rfl⟩ (by decide)
    (by decide)

end DocGuard
