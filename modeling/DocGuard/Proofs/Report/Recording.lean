import DocGuard.Report
import DocGuard.Rule

set_option autoImplicit false

namespace DocGuard.Report

-- The counts are those of the findings on top of the counts at the start.
def Counts (start : Tally) (r : Report) : Prop :=
  ∀ level, r.tally.count level =
    start.count level + (r.findings.countP fun f => f.severity = level : Nat)

theorem counts_empty : Counts {} {} := by
  intro level
  cases level <;> rfl

theorem Counts.add {start : Tally} {r : Report} (counts : Counts start r) (f : Finding) :
    Counts start (r.add f) := by
  intro level
  have before := counts level
  by_cases same : f.severity = level <;>
    simp [Report.add, List.countP_append, same, before, Int.add_assoc]

theorem Counts.enter {start : Tally} {r : Report} (counts : Counts start r) (path : String) :
    Counts start (r.enter path) := counts

theorem Counts.record {start : Tally} {r : Report} (counts : Counts start r) (s : Sink)
    (position : Int) (message code : String) :
    Counts start (r.record s position message code) := by
  unfold Report.record
  split
  next f _ => exact counts.add f
  next => exact counts

theorem Counts.tally_eq {start : Tally} {a b : Report} (first : Counts start a)
    (second : Counts start b) (same : a.findings.Perm b.findings) : a.tally = b.tally := by
  have levels (level : Severity) : a.tally.count level = b.tally.count level := by
    rw [first, second, same.countP_eq]
  obtain ⟨⟨error, warning⟩, _, _⟩ := a
  obtain ⟨⟨otherError, otherWarning⟩, _, _⟩ := b
  obtain rfl : error = otherError := levels .error
  obtain rfl : warning = otherWarning := levels .warning
  rfl

-- Counts that follow the findings add nothing to a report.
theorem Counts.ext {start : Tally} {a b : Report} (first : Counts start a) (second : Counts start b)
    (files : a.files = b.files) (findings : a.findings = b.findings) : a = b := by
  have tally := first.tally_eq second (findings ▸ .refl _)
  cases a
  cases b
  obtain rfl := files
  obtain rfl := findings
  obtain rfl := tally
  rfl

theorem record_findings (r : Report) (s : Sink) (position : Int) (message code : String) :
    (r.record s position message code).findings =
      r.findings ++ (s.finding? position message code).toList := by
  cases found : s.finding? position message code <;> simp [record, found, add]

theorem record_files (r : Report) (s : Sink) (position : Int) (message code : String) :
    (r.record s position message code).files = r.files := by
  cases found : s.finding? position message code <;> simp [record, found, add]

def recordAll (r : Report) (s : Sink) (violations : List Violation) : Report :=
  violations.foldl (fun r v => r.record s v.position v.message v.code) r

theorem recordAll_findings (r : Report) (s : Sink) (violations : List Violation) :
    (r.recordAll s violations).findings =
      r.findings ++ violations.filterMap fun v => s.finding? v.position v.message v.code := by
  induction violations generalizing r with
  | nil => simp [recordAll]
  | cons v rest ih =>
    have next := ih (r.record s v.position v.message v.code)
    rw [record_findings] at next
    cases found : s.finding? v.position v.message v.code <;>
      simpa [recordAll, found, List.append_assoc] using next

theorem recordAll_files (r : Report) (s : Sink) (violations : List Violation) :
    (r.recordAll s violations).files = r.files := by
  induction violations generalizing r with
  | nil => rfl
  | cons v rest ih => exact (ih _).trans (record_files r s v.position v.message v.code)

theorem Counts.recordAll {start : Tally} {r : Report} (counts : Counts start r) (s : Sink)
    (violations : List Violation) : Counts start (r.recordAll s violations) := by
  induction violations generalizing r with
  | nil => exact counts
  | cons v rest ih => exact ih (counts.record s v.position v.message v.code)

end DocGuard.Report
