import DocGuard.Proofs.Report.Recording
import DocGuard.Proofs.Report.Written
import Mathlib.Data.List.Induction
import Mathlib.Data.List.Perm.Basic
import Mathlib.Order.MinMax

set_option autoImplicit false

namespace DocGuard

namespace Json

-- The value under a key of an object.
def field? (key : String) : Json → Option Json
  | .object entries => Assoc.get? entries key
  | _ => none

def hasLevel (level : Severity) (finding : Json) : Bool :=
  match finding.field? "severity" with
  | some (.text name) => name == level.name
  | _ => false

-- How many findings of a list have a level.
def countLevel (level : Severity) : Json → Nat
  | .list items => items.countP (hasLevel level)
  | _ => 0

-- The summary as a list of findings alone tells it.
def recounted (findings : Json) : Json :=
  .object [
    ("error", .number (findings.countLevel .error)),
    ("warning", .number (findings.countLevel .warning))]

-- Whether a list of findings holds no error.
def withoutError (findings : Json) : Json := .bool (findings.countLevel .error == 0)

end Json

namespace Report

section ExitCode

variable (r : Report)

theorem le_exitCode_iff {n : Nat} (positive : 0 < n) :
    n ≤ r.exitCode ↔ ∃ f ∈ r.findings, n ≤ f.severity.exitPriority := by
  unfold exitCode
  induction r.findings using List.reverseRecOn with
  | nil => simpa using Nat.ne_of_gt positive
  | append_singleton findings f ih =>
    simp only [List.map_append, List.foldl_append, List.map_cons, List.map_nil, List.foldl_cons,
      List.foldl_nil, le_max_iff, ih, List.mem_append, List.mem_singleton, or_and_right, exists_or,
      exists_eq_left]

theorem exitCode_perm {a b : Report} (same : a.findings.Perm b.findings) :
    a.exitCode = b.exitCode :=
  (same.map _).foldl_eq 0

theorem one_le_exitCode_iff : 1 ≤ r.exitCode ↔ r.findings ≠ [] := by
  have each (f : Finding) : 1 ≤ f.severity.exitPriority := by
    cases f.severity <;> decide
  rw [le_exitCode_iff r (by decide), ne_eq, List.eq_nil_iff_forall_not_mem]
  simp [each]

theorem two_le_exitCode_iff : 2 ≤ r.exitCode ↔ ∃ f ∈ r.findings, f.severity = .error := by
  have each (f : Finding) : 2 ≤ f.severity.exitPriority ↔ f.severity = .error := by
    cases f.severity <;> decide
  simp [le_exitCode_iff, each]

theorem exitCode_le_two : r.exitCode ≤ 2 := by
  have each (f : Finding) : ¬ 3 ≤ f.severity.exitPriority := by
    cases f.severity <;> decide
  have bound := r.le_exitCode_iff (by decide : 0 < 3)
  simp only [each, and_false, exists_false, iff_false] at bound
  omega

theorem exitCode_eq_two_iff : r.exitCode = 2 ↔ ∃ f ∈ r.findings, f.severity = .error := by
  have most := r.exitCode_le_two
  rw [← two_le_exitCode_iff]
  omega

theorem exitCode_eq_zero_iff : r.exitCode = 0 ↔ r.findings = [] := by
  rw [← not_iff_not, ← ne_eq r.findings, ← one_le_exitCode_iff]
  omega

theorem exitCode_eq_one_iff :
    r.exitCode = 1 ↔ r.findings ≠ [] ∧ ∀ f ∈ r.findings, f.severity = .warning := by
  have mild : (∀ f ∈ r.findings, f.severity = .warning) ↔ ¬ 2 ≤ r.exitCode := by
    rw [two_le_exitCode_iff]
    push Not
    refine forall₂_congr fun f _ => ?_
    cases f.severity <;> simp
  rw [mild, ← one_le_exitCode_iff]
  omega

end ExitCode

section Counts

variable {start : Tally} {r : Report}

theorem Counts.total (counts : r.Counts start) :
    r.tally.total = start.total + r.findings.length := by
  have errors := counts .error
  have warnings := counts .warning
  have split := List.length_eq_countP_add_countP (fun f : Finding => f.severity = .error)
    (l := r.findings)
  have others : (r.findings.countP fun f => ¬ decide (f.severity = .error) = true) =
      r.findings.countP fun f => f.severity = .warning := by
    apply List.countP_congr
    intro f _
    cases f.severity <;> decide
  rw [others] at split
  simp only [Tally.count, Tally.total] at errors warnings ⊢
  omega

theorem Counts.from_zero (counts : r.Counts {}) (level : Severity) :
    r.tally.count level = (r.findings.countP fun f => f.severity = level : Nat) := by
  have counted := counts level
  cases level <;> simpa [Tally.count] using counted

theorem Counts.passed_iff (counts : r.Counts {}) : r.passed = true ↔ r.exitCode ≠ 2 := by
  have errors : r.tally.error = _ := counts.from_zero .error
  rw [passed, errors, beq_iff_eq, ne_eq, exitCode_eq_two_iff, Int.natCast_eq_zero,
    List.countP_eq_zero]
  simp

theorem Counts.total_eq_zero_iff (counts : r.Counts {}) : r.tally.total = 0 ↔ r.exitCode = 0 := by
  have total := counts.total
  rw [exitCode_eq_zero_iff, ← List.length_eq_zero_iff]
  simp only [Tally.total] at total ⊢
  omega

end Counts

section Status

-- The line of a printed table that holds the status.
def statusLine (table : String) : Option (List Char) := (linesOf table)[7]?

theorem statusLine_of_table {r : Report} {limit : Option Int} {text : String}
    (printed : r.table limit = .ok text) :
    statusLine text = some ("Status    : " ++ r.status).toList := by
  have lines : r.tableLines limit = (r.heading ++ ["Status    : " ++ r.status]) ++
      ("Files     : " ++ toString r.files.length) :: ("Findings  : " ++ toString r.tally.total) ::
        findingSection ((r.top limit).map Finding.entry) := rfl
  have plain : ∀ line ∈ r.heading ++ ["Status    : " ++ r.status], '\n' ∉ line.toList := by
    rw [List.forall_mem_append, List.forall_mem_singleton]
    exact ⟨r.newline_not_mem_heading, r.newline_not_mem_status⟩
  rw [statusLine, eq_of_table printed, lines, linesOf_intercalate_append plain (by simp)]
  rfl

end Status

section JsonForm

theorem hasLevel_toJson (level : Severity) (f : Finding) :
    Json.hasLevel level f.toJson = decide (f.severity = level) := by
  have field : f.toJson.field? "severity" = some (.text f.severity.name) := by
    simp [Json.field?, Finding.toJson, Assoc.get?]
  simp only [Json.hasLevel, field]
  cases f.severity <;> cases level <;> decide

theorem countLevel_findings (level : Severity) (findings : List Finding) :
    Json.countLevel level (.list (findings.map Finding.toJson)) =
      findings.countP fun f => f.severity = level := by
  simp [Json.countLevel, List.countP_map, Function.comp_def, hasLevel_toJson]

theorem Counts.recount {r : Report} (counts : r.Counts {}) :
    ∃ findings, r.toJson.field? "findings" = some findings ∧
      r.toJson.field? "summary" = some findings.recounted ∧
      r.toJson.field? "passed" = some findings.withoutError := by
  have errors : r.tally.error = _ := counts.from_zero .error
  have warnings : r.tally.warning = _ := counts.from_zero .warning
  refine ⟨.list (r.findings.map Finding.toJson), ?_, ?_, ?_⟩
  · simp [Json.field?, toJson, Assoc.get?]
  · simp [Json.field?, toJson, Assoc.get?, Json.recounted, countLevel_findings, errors, warnings]
  · simp [Json.field?, toJson, Assoc.get?, Json.withoutError, countLevel_findings, passed, errors]

end JsonForm

-- All ways to read the outcome off a report say the same.
structure Agrees (r : Report) : Prop where
  passed_iff : r.passed = true ↔ r.exitCode ≠ 2
  total_iff : r.tally.total = 0 ↔ r.exitCode = 0
  printed_iff : ∀ limit, (∃ text, r.table limit = .ok text) ↔
    ∀ n ∈ r.tableNumbers limit, Integer.isWritable n = true
  pass_iff : ∀ limit text, r.table limit = .ok text →
    (statusLine text = some "Status    : PASS".toList ↔ r.passed = true)
  fail_iff : ∀ limit text, r.table limit = .ok text →
    (statusLine text = some "Status    : FAIL".toList ↔ r.passed = false)
  recount : ∃ findings, r.toJson.field? "findings" = some findings ∧
    r.toJson.field? "summary" = some findings.recounted ∧
    r.toJson.field? "passed" = some findings.withoutError

theorem Counts.agrees {r : Report} (counts : r.Counts {}) : r.Agrees where
  passed_iff := counts.passed_iff
  total_iff := counts.total_eq_zero_iff
  printed_iff := r.table_succeeds_iff
  pass_iff limit text printed := by
    rw [statusLine_of_table printed, status]
    cases r.passed <;> simp
  fail_iff limit text printed := by
    rw [statusLine_of_table printed, status]
    cases r.passed <;> simp
  recount := counts.recount

end Report

end DocGuard
