import DocGuard.Proofs.Dispatch.Extension
import DocGuard.Proofs.Lookback.Openers
import DocGuard.Proofs.Lookback.Passage

set_option autoImplicit false

namespace DocGuard

open Lookback

namespace Rule

-- The end of a stream is a wall: a search that comes to it stops there, and not at a doc comment.
def Walled (rule : Rule) (kinds : List Kind) : Prop :=
  kinds = [] ∨ ∃ last, kinds.getLast? = some last ∧ rule.skip.has last = false ∧
    last ≠ .attrClose ∧ last ≠ .docClose

theorem Walled.not_hasDocComment {rule : Rule} {kinds : List Kind} (walled : rule.Walled kinds) :
    ¬ ∃ found, significantFrom rule.skip 0 kinds.reverse = some found ∧
      kinds[found]? = some .docClose := by
  rintro ⟨found, ends, closes⟩
  rcases walled with rfl | ⟨last, final, notSkipped, notClose, notDoc⟩
  · simp at closes
  · obtain ⟨init, rfl⟩ := List.getLast?_eq_some_iff.mp final
    rw [List.reverse_append, List.reverse_singleton, List.singleton_append,
      significantFrom_stop rule.skip notSkipped notClose, List.length_reverse] at ends
    obtain rfl := Option.some.inj ends
    simp [notDoc] at closes

-- The search from the end of the second stream ends in it, or comes to the wall from outside all
-- blocks; alone, it comes to the start of the stream instead.
theorem hasDocComment_join (rule : Rule) {kinds text : List Kind} (walled : rule.Walled kinds)
    (opened : Opened text) :
    rule.HasDocComment (kinds ++ text) (kinds ++ text).length ↔
      rule.HasDocComment text text.length := by
  rw [hasDocComment_length_iff, hasDocComment_length_iff, List.reverse_append]
  rcases opened.search rule.skip with ⟨left, k, right, split, result⟩ | result
  · have alone := result []
    have place : left.length + kinds.reverse.length = kinds.length + left.length := by
      simp [Nat.add_comm]
    rw [List.append_nil] at alone
    rw [result, alone, place]
    simp [split]
  · have alone := result []
    rw [List.append_nil] at alone
    have silent : ¬ ∃ found, significantFrom rule.skip 0 kinds.reverse = some found ∧
        (kinds ++ text)[found]? = some .docClose := by
      rintro ⟨found, ends, closes⟩
      refine walled.not_hasDocComment ⟨found, ends, ?_⟩
      have within : found < kinds.length := by simpa using significantFrom_lt ends
      rwa [List.getElem?_append_left within] at closes
    rw [result, alone]
    simp [silent, significantFrom]

end Rule

theorem reporters_join {rules : List Rule} {kinds more : List Kind}
    (walled : ∀ rule ∈ rules, rule.Walled kinds) (opened : Opened more) :
    reporters rules (kinds ++ more) =
      reporters rules kinds ++ (reporters rules more).map (shift kinds.length) := by
  have alone : reportersFrom rules kinds more = reportersFrom rules [] more := by
    apply reportersFrom_congr
    rintro rule member text rest rfl
    exact rule.hasDocComment_join (walled rule member) opened.left
  rw [reporters_append, alone, ← reporters_eq_reportersFrom]

theorem violation_shift (distance : Nat) (report : Nat × Rule) :
    (shift distance report).2.violation (shift distance report).1 =
      { report.2.violation report.1 with
        position := (report.2.violation report.1).position + distance } := by
  simp [shift, Rule.violation, Int.add_comm]

namespace Dispatcher

theorem run_concat (rules : List Rule) (kinds more : List Kind) :
    let d := ofRules rules
    (∃ rest, d.run (kinds ++ more) = d.run kinds ++ rest ∧
      ∀ v ∈ rest, (kinds.length : Int) ≤ v.position) ∧
    ((kinds = [] ∨ ∃ last, kinds.getLast? = some last ∧
        (∀ rule ∈ rules, rule.skip.has last = false) ∧ last ≠ .attrClose ∧ last ≠ .docClose) →
      (∀ stop : Nat, more[stop]? = some .attrClose → opener? more stop ≠ none) →
      d.run (kinds ++ more) =
        d.run kinds ++ (d.run more).map fun v => { v with position := v.position + kinds.length }) := by
  intro d
  simp only [d, run_ofRules, violations]
  constructor
  · refine ⟨_, by rw [reporters_append, List.map_append], ?_⟩
    intro v member
    obtain ⟨_, shifted, rfl⟩ := List.mem_map.mp member
    obtain ⟨report, _, rfl⟩ := List.mem_map.mp shifted
    simp only [shift, Rule.violation]
    omega
  · intro ending opened
    have walled : ∀ rule ∈ rules, rule.Walled kinds := by
      intro rule member
      rcases ending with empty | ⟨last, final, notSkipped, notClose, notDoc⟩
      · exact .inl empty
      · exact .inr ⟨last, final, notSkipped rule member, notClose, notDoc⟩
    rw [reporters_join walled opened, List.map_append, List.map_map, List.map_map]
    congr 2
    funext report
    exact violation_shift kinds.length report

-- The doc comment of the first stream does not reach over the bracket to the second one.
theorem run_concat_blocks :
    let rules := Rule.stock
    let kinds : List Kind := [.docClose, .classKw, .closeCurly]
    let more : List Kind := [.attrOpen, .docClose, .attrClose, .finalKw, .functionKw]
    let d := ofRules rules
    (∃ last, kinds.getLast? = some last ∧ (∀ rule ∈ rules, rule.skip.has last = false) ∧
      last ≠ .attrClose ∧ last ≠ .docClose) ∧
    (∀ stop : Nat, more[stop]? = some .attrClose → opener? more stop ≠ none) ∧
    d.run (kinds ++ more) =
      d.run kinds ++ (d.run more).map fun v => { v with position := v.position + 3 } := by
  intro rules kinds more d
  have ending : ∃ last, kinds.getLast? = some last ∧ (∀ rule ∈ rules, rule.skip.has last = false) ∧
      last ≠ .attrClose ∧ last ≠ .docClose :=
    ⟨.closeCurly, rfl, by decide, by decide, by decide⟩
  have opened : ∀ stop : Nat, more[stop]? = some .attrClose → opener? more stop ≠ none := by
    intro stop closes
    obtain ⟨within, _⟩ := List.getElem?_eq_some_iff.mp closes
    have every : ∀ stop < more.length, more[stop]? = some .attrClose → opener? more stop ≠ none := by
      decide
    exact every stop within closes
  exact ⟨ending, opened, (run_concat rules kinds more).2 (.inr ending) opened⟩

end Dispatcher

end DocGuard
