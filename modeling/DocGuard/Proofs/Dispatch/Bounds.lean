import DocGuard.Proofs.Dispatch.Locality
import DocGuard.Proofs.Lookback.Indexed
import DocGuard.Proofs.Report.Recorder

set_option autoImplicit false

namespace DocGuard

open Lookback Lookback.Indexed

namespace Rule

theorem leads_documented (rule : Rule) (kinds : List Kind) (place : Int) :
    Leads kinds rule.skip (.called place) (.judged (rule.documented kinds place)) := by
  refine (leads_called kinds rule.skip place).trans ?_
  cases ends : significant? kinds place rule.skip with
  | none =>
    rw [documented_of_none ends]
    exact leads_go rfl
  | some found =>
    obtain ⟨k, here, _⟩ := (significant?_iff_precedes.mp ends).stops
    have known : (found : Int) ≠ -1 := by omega
    have reads : move kinds.length rule.skip (.ended found) =
        .read found fun k => .judged (k == .docClose) := by
      rw [move, if_neg known]
    have verdict : rule.documented kinds place = (k == .docClose) := by
      rw [documented_of_some ends, here]
      rfl
    rw [verdict]
    exact leads_read reads (by rw [readAt_natCast, here])

theorem check_cases (rule : Rule) (kinds : List Kind) (place : Int) :
    rule.check kinds place = none ∨
      rule.check kinds place = some ⟨place, rule.message, rule.code⟩ := by
  unfold check
  split
  · exact .inl rfl
  · exact .inr rfl

theorem check_outside (rule : Rule) {kinds : List Kind} {place : Int}
    (outside : place ≤ 0 ∨ (kinds.length : Int) < place) :
    rule.check kinds place = some ⟨place, rule.message, rule.code⟩ := by
  simp [check, documented_of_none (significant?_outside outside rule.skip)]

end Rule

theorem record_outside (report : Report) {sink : Sink} {place : Int} (message : String)
    {code : String} (recorded : code ∉ sink.excluded)
    (outside : place < 0 ∨ (sink.tokens.length : Int) ≤ place) :
    (report.record sink place message code).findings =
        report.findings ++ [Recorder.owed sink place message code] ∧
      (Recorder.owed sink place message code).line = none := by
  constructor
  · rw [Report.record_findings, Recorder.finding?_eq, if_neg recorded]
    rfl
  · exact if_neg (by omega)

theorem check_in_bounds (rule : Rule) (tokens : List Token) (place : Int) :
    let kinds := kindsOf tokens
    (∀ stage, Leads kinds rule.skip (.called place) stage →
      (∀ asked next, move kinds.length rule.skip stage = .read asked next →
        0 ≤ asked ∧ asked < min place kinds.length) ∧
      Leads kinds rule.skip stage (.judged (rule.documented kinds place))) ∧
    (∀ cursor later : Int,
      Relation.TransGen (Follows kinds rule.skip) (.walking cursor) (.walking later) →
        later < cursor) ∧
    (¬ ∃ run : Nat → Stage, run 0 = .called place ∧
      ∀ n, Follows kinds rule.skip (run n) (run (n + 1))) ∧
    Leads kinds rule.skip (.called place) (.ended (numberOf (significant? kinds place rule.skip))) ∧
    (∀ stop, Leads kinds rule.skip (.closing stop) (.opened (numberOf (opener? kinds stop)))) ∧
    (rule.check kinds place = none ∨
      rule.check kinds place = some ⟨place, rule.message, rule.code⟩) ∧
    (place ≤ 0 ∨ (tokens.length : Int) < place →
      rule.check kinds place = some ⟨place, rule.message, rule.code⟩) ∧
    ∀ (report : Report) (sink : Sink) (v : Violation), sink.tokens = tokens →
      rule.code ∉ sink.excluded → rule.check kinds place = some v →
      place < 0 ∨ (tokens.length : Int) ≤ place →
        (report.record sink v.position v.message v.code).findings =
            report.findings ++ [Recorder.owed sink place rule.message rule.code] ∧
          (Recorder.owed sink place rule.message rule.code).line = none := by
  intro kinds
  have judges := rule.leads_documented kinds place
  refine ⟨?_, ?_, ?_, leads_called kinds rule.skip place, leads_closing kinds rule.skip,
    rule.check_cases kinds place, ?_, ?_⟩
  · intro stage leads
    exact ⟨fun asked next reads => inReach_of_read leads reads, leads_judged judges leads⟩
  · intro cursor later leads
    exact past_of_transGen leads
  · rintro ⟨run, start, endless⟩
    exact not_endless judges run 0 start endless
  · intro outside
    exact rule.check_outside (by simpa [kinds] using outside)
  · rintro report sink v rfl recorded reported outside
    have own : rule.check kinds place = some ⟨place, rule.message, rule.code⟩ :=
      (rule.check_cases kinds place).resolve_left (by simp [reported])
    obtain rfl := Option.some.inj (reported.symm.trans own)
    exact record_outside report rule.message recorded outside

-- The block is left at its opener and the comment found; the place before the stream is reported.
theorem check_in_bounds_block :
    let rule := Rule.classComment
    let tokens : List Token := [⟨.docClose, 0, "*/", some 1⟩, ⟨.attrOpen, 1, "#[", some 2⟩,
      ⟨.attrClose, 2, "]", some 2⟩, ⟨.classKw, 3, "class", some 3⟩]
    let kinds := kindsOf tokens
    let sink : Sink := ⟨"a.yaml", tokens, [], [], []⟩
    let report : Report := {}
    Leads kinds rule.skip (.called 3) (.walking 2) ∧
      (0 ≤ (2 : Int) ∧ (2 : Int) < min 3 4) ∧
      Leads kinds rule.skip (.walking 2) (.judged (rule.documented kinds 3)) ∧
      Relation.TransGen (Follows kinds rule.skip) (.walking 2) (.walking 0) ∧ (0 : Int) < 2 ∧
      rule.check kinds (-1) = some ⟨-1, rule.message, rule.code⟩ ∧
      (report.record sink (-1) rule.message rule.code).findings =
        [Recorder.owed sink (-1) rule.message rule.code] ∧
      (Recorder.owed sink (-1) rule.message rule.code).line = none := by
  intro rule tokens kinds sink report
  have starts : Leads kinds rule.skip (.called 3) (.walking 2) := .single rfl
  have meets : Follows kinds rule.skip (.walking 2) (.closing 2) := rfl
  have enters : Follows kinds rule.skip (.closing 2) (.seeking 2 0) := rfl
  have closes : Follows kinds rule.skip (.seeking 2 0) (.seeking 1 1) := rfl
  have opens : Follows kinds rule.skip (.seeking 1 1) (.opened 1) := rfl
  have leaves : Follows kinds rule.skip (.opened 1) (.walking 0) := rfl
  have inside := ((Relation.TransGen.single meets).tail enters).tail closes
  have jumps := (inside.tail opens).tail leaves
  obtain ⟨reached, decreases, _⟩ := check_in_bounds rule tokens 3
  obtain ⟨reads, judges⟩ := reached (.walking 2) starts
  obtain ⟨_, _, _, _, _, _, reports, records⟩ := check_in_bounds rule tokens (-1)
  have reported := reports (by decide)
  exact ⟨starts, reads 2 _ rfl, judges, jumps, decreases 2 0 jumps, reported,
    records report sink _ rfl (by decide) reported (by decide)⟩

end DocGuard
