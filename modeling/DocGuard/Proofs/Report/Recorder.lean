import DocGuard.Proofs.Report.Views

set_option autoImplicit false

namespace DocGuard

-- A report with the sinks that were opened on it, oldest first.
structure Recorder where
  report : Report
  sinks : List Sink

namespace Recorder

def start (tally : Tally) : Recorder := ⟨{ tally }, []⟩

-- A sink is named by its place among the sinks opened so far.
inductive Step
  | enter (sink : Sink)
  | report (place : Nat) (position : Int) (message code : String)
  | add (finding : Finding)

def step (s : Recorder) : Step → Recorder
  | .enter sink => { report := s.report.enter sink.path, sinks := s.sinks ++ [sink] }
  | .report place position message code =>
    match s.sinks[place]? with
    | some sink => { s with report := s.report.record sink position message code }
    | none => s
  | .add finding => { s with report := s.report.add finding }

def after (tally : Tally) (steps : List Step) : Recorder := steps.foldl step (start tally)

-- The sinks that a history opens.
def opened (steps : List Step) : List Sink :=
  steps.filterMap fun
    | .enter sink => some sink
    | .report .. | .add _ => none

-- The finding that a sink owes to a report: under its own path, with the line of its own token, and
-- named and graded by its own maps.
def owed (sink : Sink) (position : Int) (message code : String) : Finding where
  path := sink.path
  position := position
  line := if 0 ≤ position ∧ position < sink.tokens.length
    then sink.tokens[position.toNat]?.bind (·.line) else none
  code := code
  message := message
  rule := (Assoc.get? sink.ruleNames code).getD ""
  severity := (Assoc.get? sink.severities code).getD .error

-- What one call adds when the given sinks are open.
def addition (sinks : List Sink) : Step → List Finding
  | .enter _ => []
  | .report place position message code =>
    match sinks[place]? with
    | some sink => if code ∈ sink.excluded then [] else [owed sink position message code]
    | none => []
  | .add finding => [finding]

-- What the calls of a history add, one after the other.
def additions : List Sink → List Step → List Finding
  | _, [] => []
  | sinks, next :: steps => addition sinks next ++ additions (sinks ++ opened [next]) steps

theorem opened_append (steps more : List Step) :
    opened (steps ++ more) = opened steps ++ opened more := by
  simp [opened]

theorem additions_append (sinks : List Sink) (steps more : List Step) :
    additions sinks (steps ++ more) =
      additions sinks steps ++ additions (sinks ++ opened steps) more := by
  induction steps generalizing sinks with
  | nil => simp [additions, opened]
  | cons next rest ih =>
    have both : opened (next :: rest) = opened [next] ++ opened rest := opened_append [next] rest
    simp [additions, ih, both]

theorem finding?_eq (sink : Sink) (position : Int) (message code : String) :
    sink.finding? position message code =
      if code ∈ sink.excluded then none else some (owed sink position message code) := by
  have line : sink.lineAt position = (owed sink position message code).line := by
    unfold Sink.lineAt owed
    by_cases low : 0 ≤ position <;> by_cases high : position < sink.tokens.length <;>
      simp [low, high]
  simp only [Sink.finding?, List.contains_iff_mem, line]
  rfl

section Step

variable (s : Recorder) (next : Step)

theorem step_sinks : (s.step next).sinks = s.sinks ++ opened [next] := by
  cases next with
  | enter sink => simp [step, opened]
  | report place => cases found : s.sinks[place]? <;> simp [step, opened, found]
  | add finding => simp [step, opened]

theorem step_files :
    (s.step next).report.files = s.report.files ++ (opened [next]).map (·.path) := by
  cases next with
  | enter sink => simp [step, opened, Report.enter]
  | report place =>
    cases found : s.sinks[place]? <;> simp [step, opened, found, Report.record_files]
  | add finding => simp [step, opened, Report.add]

theorem step_findings :
    (s.step next).report.findings = s.report.findings ++ addition s.sinks next := by
  cases next with
  | enter sink => simp [step, addition, Report.enter]
  | report place position message code =>
    cases found : s.sinks[place]? with
    | none => simp [step, addition, found]
    | some sink =>
      by_cases excluded : code ∈ sink.excluded <;>
        simp [step, addition, found, Report.record_findings, finding?_eq, excluded]
  | add finding => simp [step, addition, Report.add]

theorem step_counts {tally : Tally} (counts : s.report.Counts tally) :
    (s.step next).report.Counts tally := by
  cases next with
  | enter sink => exact counts.enter sink.path
  | report place position message code =>
    unfold step
    dsimp only
    split
    next sink _ => exact counts.record sink position message code
    next => exact counts
  | add finding => exact counts.add finding

variable {s} in
theorem step_report {place : Nat} {sink : Sink} (there : s.sinks[place]? = some sink)
    (position : Int) (message code : String) :
    s.step (.report place position message code) =
      if code ∈ sink.excluded then s
      else { s with report := s.report.add (owed sink position message code) } := by
  by_cases excluded : code ∈ sink.excluded <;>
    simp [step, there, Report.record, finding?_eq, excluded]

end Step

-- What every report under construction has in common.
structure Kept (tally : Tally) (steps : List Step) (s : Recorder) : Prop where
  sinks : s.sinks = opened steps
  files : s.report.files = (opened steps).map (·.path)
  findings : s.report.findings = additions [] steps
  counts : s.report.Counts tally

theorem kept_start (tally : Tally) : Kept tally [] (start tally) where
  sinks := rfl
  files := rfl
  findings := rfl
  counts level := by simp [start]

theorem Kept.step {tally : Tally} {steps : List Step} {s : Recorder} (kept : Kept tally steps s)
    (next : Step) : Kept tally (steps ++ [next]) (s.step next) where
  sinks := by rw [step_sinks, kept.sinks, opened_append]
  files := by rw [step_files, kept.files, opened_append, List.map_append]
  findings := by
    rw [step_findings, kept.findings, kept.sinks, additions_append]
    simp [additions]
  counts := step_counts s next kept.counts

theorem kept_after (tally : Tally) (steps : List Step) : Kept tally steps (after tally steps) := by
  induction steps using List.reverseRecOn with
  | nil => exact kept_start tally
  | append_singleton steps next ih =>
    rw [after, List.foldl_append]
    exact ih.step next

theorem recorded_exact (tally : Tally) (steps : List Step) :
    let reached := after tally steps
    let report := reached.report
    (report.findings = additions [] steps ∧
      ∀ more, (after tally (steps ++ more)).report.findings =
        report.findings ++ additions (opened steps) more) ∧
    (reached.sinks = opened steps ∧ report.files = (opened steps).map (·.path)) ∧
    (∀ place sink, reached.sinks[place]? = some sink → ∀ position message code,
      reached.step (.report place position message code) =
        if code ∈ sink.excluded then reached
        else { reached with report := report.add (owed sink position message code) }) ∧
    (report.tally.error =
        tally.error + (report.findings.countP fun f => f.severity = .error : Nat) ∧
      report.tally.warning =
        tally.warning + (report.findings.countP fun f => f.severity = .warning : Nat) ∧
      report.tally.total = tally.error + tally.warning + report.findings.length) ∧
    ((report.exitCode = 2 ↔ ∃ f ∈ report.findings, f.severity = .error) ∧
      (report.exitCode = 1 ↔ report.findings ≠ [] ∧ ∀ f ∈ report.findings, f.severity = .warning) ∧
      (report.exitCode = 0 ↔ report.findings = [])) ∧
    (tally = {} → report.Agrees) := by
  intro reached report
  have kept : Kept tally steps reached := kept_after tally steps
  refine ⟨⟨kept.findings, ?_⟩, ⟨kept.sinks, kept.files⟩, ?_, ?_, ?_, ?_⟩
  · intro more
    rw [(kept_after tally (steps ++ more)).findings, additions_append, kept.findings]
    rfl
  · intro place sink there position message code
    exact step_report there position message code
  · exact ⟨kept.counts .error, kept.counts .warning, kept.counts.total⟩
  · exact ⟨report.exitCode_eq_two_iff, report.exitCode_eq_one_iff, report.exitCode_eq_zero_iff⟩
  · rintro rfl
    exact kept.counts.agrees

-- The second sink leaves out the code that the first one grades as a warning.
theorem recorded_exact_two_sinks :
    let first : Sink :=
      { path := "a", tokens := [⟨.other, 0, "", some 7⟩], ruleNames := [("X", "Marks.X")],
        severities := [("X", .warning)], excluded := [] }
    let second : Sink :=
      { path := "b", tokens := [], ruleNames := [], severities := [], excluded := ["X"] }
    let steps : List Step :=
      [.enter first, .enter second, .report 1 0 "left out" "X", .report 0 0 "kept" "X",
        .report 1 (-3) "outside" "Y"]
    let report := (after {} steps).report
    report.findings =
        [⟨"a", 0, some 7, "X", "kept", "Marks.X", .warning⟩,
          ⟨"b", -3, none, "Y", "outside", "", .error⟩] ∧
      report.tally.total = 2 ∧ report.exitCode = 2 ∧ report.Agrees := by
  intro first second steps report
  obtain ⟨⟨findings, _⟩, _, _, ⟨_, _, total⟩, ⟨worst, _, _⟩, agrees⟩ := recorded_exact {} steps
  have listed : additions [] steps =
      [⟨"a", 0, some 7, "X", "kept", "Marks.X", .warning⟩,
        ⟨"b", -3, none, "Y", "outside", "", .error⟩] := by
    decide
  rw [findings, listed] at total worst
  exact ⟨findings.trans listed, total, worst.mpr (by decide), agrees rfl⟩

-- A warning at a position that is too long to be written: the report passes and has no table.
theorem passed_without_status :
    let sink : Sink :=
      { path := "a", tokens := [], ruleNames := [], severities := [("X", .warning)], excluded := [] }
    let report := (after {} [.enter sink, .report 0 (Nat.pow 10 4300) "m" "X"]).report
    report.passed = true ∧ report.exitCode = 1 ∧
      report.table Report.usualLimit = .error .tooLong ∧
      ¬ ((∃ text, report.table Report.usualLimit = .ok text ∧
        Report.statusLine text = some "Status    : PASS".toList) ↔ report.passed = true) := by
  intro sink report
  have passed : report.passed = true := by decide +kernel
  have shown : (Nat.pow 10 4300 : Int) ∈ report.tableNumbers Report.usualLimit := by decide +kernel
  have fails : report.table Report.usualLimit = .error .tooLong :=
    Report.table_eq_error shown (by decide +kernel)
  refine ⟨passed, by decide +kernel, fails, fun agree => ?_⟩
  obtain ⟨text, printed, _⟩ := agree.mpr passed
  rw [fails] at printed
  cases printed

end Recorder

end DocGuard
