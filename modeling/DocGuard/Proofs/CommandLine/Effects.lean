import DocGuard.CommandLine.Run
import DocGuard.Proofs.FileTree.Saving
import DocGuard.Proofs.Path.Text
import DocGuard.Proofs.Report.Written
import DocGuard.Proofs.Scan.Selection

set_option autoImplicit false

namespace DocGuard.CommandLine

open FileTree

variable {A : Type} {s : Storage A} {disk : Disk A} {chosen : Options} {log : String} {r : Report}
  {table content : String} {code : Nat}

-- The report of the one scan that a command makes, if nothing fails before it is complete.
def scanned (s : Storage A) (disk : Disk A) (chosen : Options) : Option Report := do
  let ruleset ← chosen.ruleset
  let set ← (RuleSetFile.load s disk (Path.ofText ruleset)).toOption
  let report ← (Scan.run s disk (namedSources (chosenSources chosen)) set).toOption
  if (chosenSources chosen).all Option.isSome then some report else none

-- An ending that is not the command's own.
def Ending.IsFailure : Ending → Prop
  | .exit _ => False
  | .message _ | .fault _ => True

instance : DecidablePred Ending.IsFailure
  | .exit _ => .isFalse id
  | .message _ | .fault _ => .isTrue trivial

theorem isFailure_ruleSetEnding (place : String) (fault : RuleSetFile.Fault) :
    (ruleSetEnding place fault).IsFailure := by
  unfold ruleSetEnding
  split <;> trivial

theorem isFailure_scanEnding (fault : Scan.Fault) : (scanEnding fault).IsFailure := by
  unfold scanEnding
  split <;> trivial

-- A command that fails before its report is complete has printed log lines at most.
theorem scan_cases (s : Storage A) (disk : Disk A) (chosen : Options) :
    match scanned s disk chosen with
    | none => ∃ log ending, ending.IsFailure ∧
        scan s disk chosen = { stderr := log, ending := ending, tree := disk.tree }
    | some r => ∃ log, scan s disk chosen = present s disk chosen log r := by
  cases place : chosen.ruleset with
  | none =>
    simp only [scanned, scan, place, Option.bind_eq_bind, Option.bind_none]
    exact ⟨"", .fault .noPath, trivial, rfl⟩
  | some ruleset =>
    cases loaded : RuleSetFile.load s disk (Path.ofText ruleset) with
    | error fault =>
      simp only [scanned, scan, scanUnder, place, loaded, Except.toOption, Option.bind_eq_bind,
        Option.bind_some, Option.bind_none]
      exact ⟨"", _, isFailure_ruleSetEnding ruleset fault, rfl⟩
    | ok set =>
      cases ran : Scan.run s disk (namedSources (chosenSources chosen)) set with
      | error fault =>
        simp only [scanned, scan, scanUnder, place, loaded, ran, Except.toOption,
          Option.bind_eq_bind, Option.bind_some, Option.bind_none]
        exact ⟨_, _, isFailure_scanEnding fault, rfl⟩
      | ok report =>
        simp only [scanned, scan, scanUnder, place, loaded, ran, Except.toOption,
          Option.bind_eq_bind, Option.bind_some]
        cases (chosenSources chosen).all Option.isSome with
        | false =>
          simp only [Bool.false_eq_true, if_false]
          exact ⟨_, .fault .noPath, trivial, rfl⟩
        | true =>
          simp only [if_true]
          exact ⟨_, rfl⟩

variable {arguments : List String}

theorem run_eq_scan (accepted : Options.ofArguments arguments = .ok (some chosen)) :
    run s disk arguments = scan s disk chosen := by
  simp only [run, accepted]

theorem run_of_scanned (accepted : Options.ofArguments arguments = .ok (some chosen))
    (complete : scanned s disk chosen = some r) :
    ∃ log, run s disk arguments = present s disk chosen log r := by
  have scans := scan_cases s disk chosen
  rw [complete] at scans
  rw [run_eq_scan accepted]
  exact scans

section Present

theorem present_of_unwritable_table
    (long : ∃ n ∈ r.tableNumbers Report.usualLimit, Integer.isWritable n = false) :
    present s disk chosen log r =
      { stderr := log, ending := .fault .unwritable, tree := disk.tree } := by
  obtain ⟨n, needed, long⟩ := long
  unfold present
  rw [Report.table_eq_error needed long]

theorem present_stdout (printed : r.table Report.usualLimit = .ok table) :
    ∃ rest, (present s disk chosen log r).stdout = table ++ "\n" ++ rest := by
  unfold present
  rw [printed]
  dsimp only
  split
  next => exact ⟨"", String.append_empty.symm⟩
  next => exact ⟨_, rfl⟩

theorem present_of_unwritable_json (printed : r.table Report.usualLimit = .ok table)
    (format : chosen.format = .json) (long : ∃ n ∈ r.jsonNumbers, Integer.isWritable n = false) :
    present s disk chosen log r =
      { stdout := table ++ "\n", stderr := log, ending := .fault .unwritable,
        tree := disk.tree } := by
  obtain ⟨n, needed, long⟩ := long
  have made : payload chosen r table = r.jsonText := by simp only [payload, format]
  cases text : r.jsonText with
  | error fault =>
    unfold present
    rw [printed]
    simp only [made, text]
  | ok content =>
    have short := r.json_succeeds_iff.mp ⟨content, text⟩ n needed
    simp [short] at long

theorem present_of_payload (printed : r.table Report.usualLimit = .ok table)
    (made : payload chosen r table = .ok content) :
    (present s disk chosen log r).ending = (deliver s disk chosen content r.exitCode).ending ∧
      (present s disk chosen log r).tree = (deliver s disk chosen content r.exitCode).tree := by
  unfold present
  rw [printed]
  simp only [made, and_self]

-- The content of the report in its format is made of the table, or of the numbers of its JSON form.
theorem payload_succeeds (table : String)
    (short : chosen.format = .json → ∀ n ∈ r.jsonNumbers, Integer.isWritable n = true) :
    ∃ content, payload chosen r table = .ok content ∧
      (chosen.format = .text → content = table) ∧
      (chosen.format = .json → r.jsonText = .ok content) := by
  cases format : chosen.format with
  | text => exact ⟨table, by simp only [payload, format], fun _ => rfl, fun other => by cases other⟩
  | json =>
    obtain ⟨content, text⟩ := r.json_succeeds_iff.mpr (short format)
    exact ⟨content, by simp only [payload, format, text], fun other => (by cases other), fun _ => text⟩

end Present

section Deliver

theorem deliver_without_out (nothing : chosen.out = none ∨ chosen.out = some "") :
    (deliver s disk chosen content code).ending = .exit code ∧
      (deliver s disk chosen content code).tree = disk.tree := by
  have skipped : (chosen.out.filter fun out => out != "") = none := by
    rcases nothing with absent | empty
    · simp [absent]
    · simp [empty]
  simp [deliver, skipped]

theorem deliver_with_out {out : String} (asked : chosen.out = some out) (named : out ≠ "") :
    let attempt := disk.save (Path.ofText out) (s.write content)
    (deliver s disk chosen content code).tree = attempt.tree ∧
      (deliver s disk chosen content code).ending =
        attempt.fault.elim (.exit code) fun fault => .fault (.write fault) := by
  intro attempt
  have kept : (chosen.out.filter fun out => out != "") = some out := by
    simp [asked, named]
  simp only [deliver, kept]
  cases attempt.fault <;> exact ⟨rfl, rfl⟩

theorem deliver_saves {out : String} (asked : chosen.out = some out) (named : out ≠ "") :
    let outcome := deliver s disk chosen content code
    (outcome.ending = .exit code ∧
      Saved disk.home (Path.ofText out) (s.write content) disk.tree outcome.tree) ∨
    ∃ fault, outcome.ending = .fault (.write fault) ∧
      Blocked outcome.tree disk.home (Path.ofText out) fault ∧
      Extended disk.home (Path.ofText out) disk.tree outcome.tree := by
  intro outcome
  obtain ⟨after, ending⟩ : outcome.tree = _ ∧ outcome.ending = _ := deliver_with_out asked named
  have saved := disk.save_cases (Path.ofText out) (s.write content)
  rw [after, ending]
  cases ended : (disk.save (Path.ofText out) (s.write content)).fault with
  | none =>
    simp only [ended] at saved
    exact .inl ⟨rfl, saved⟩
  | some fault =>
    simp only [ended] at saved
    exact .inr ⟨fault, rfl, saved⟩

end Deliver

end DocGuard.CommandLine
