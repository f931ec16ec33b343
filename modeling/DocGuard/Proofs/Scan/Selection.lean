import DocGuard.Proofs.Dispatch.Stock
import DocGuard.Proofs.Scan.Findings
import Mathlib.Data.List.Nodup

set_option autoImplicit false

namespace DocGuard

namespace Rule

theorem ofName?_eq_some_iff {rule : Rule} (member : rule ∈ stock) (name : String) :
    ofName? name = some rule ↔ name = rule.name := by
  constructor
  · intro found
    exact (ofName?_eq_some found).2.symm
  · rintro rfl
    rcases List.mem_pair.mp member with rfl | rfl <;> rfl

theorem stock_name_iff_code : ∀ rule ∈ stock, ∀ other ∈ stock,
    other.name = rule.name ↔ other.code = rule.code := by
  decide

end Rule

-- The one rule that reports a place speaks as often as its name is given.
theorem filter_reports_ofName? {rule : Rule} (member : rule ∈ Rule.stock) {kinds : List Kind}
    {place : Nat} (reports : rule.Reports kinds place) (names : List String) :
    ((names.filterMap Rule.ofName?).filter fun rule => rule.Reports kinds place) =
      List.replicate (names.count rule.name) rule := by
  induction names with
  | nil => rfl
  | cons name rest ih =>
    by_cases same : name = rule.name
    · subst same
      have found := (Rule.ofName?_eq_some_iff member rule.name).mpr rfl
      simp [found, reports, ih, List.replicate_succ]
    · cases found : Rule.ofName? name with
      | none => simp [found, same, ih]
      | some other =>
        have silent : ¬ other.Reports kinds place := by
          intro speaks
          obtain rfl := reporter_unique member (Rule.ofName?_eq_some found).1 reports speaks
          exact same (Rule.ofName?_eq_some found).2.symm
        simp [found, silent, same, ih]

theorem reporters_selected (set : RuleSet) (kinds : List Kind) :
    reporters set.selected kinds =
      (reporters Rule.stock kinds).flatMap fun report =>
        List.replicate (set.rules.count report.2.name) report := by
  rw [reporters, reporters, List.flatMap_assoc]
  apply List.flatMap_congr
  intro place _
  by_cases reported : ∃ rule ∈ Rule.stock, rule.Reports kinds place
  · obtain ⟨rule, member, reports⟩ := reported
    have chosen := filter_reports_ofName? member reports set.rules
    rw [RuleSet.selected, chosen, filter_reports_stock member reports]
    simp
  · push Not at reported
    have silent : (set.selected.filter fun rule => rule.Reports kinds place) = [] := by
      simpa using fun rule member => reported rule (set.selected_subset_stock member)
    have stockSilent : (Rule.stock.filter fun rule => rule.Reports kinds place) = [] := by
      simpa using reported
    simp [silent, stockSilent]

theorem reporters_selected_of_nodup {set : RuleSet} (distinct : set.rules.Nodup)
    (kinds : List Kind) :
    reporters set.selected kinds =
      (reporters Rule.stock kinds).filter fun report => set.rules.contains report.2.name := by
  rw [reporters_selected]
  induction reporters Rule.stock kinds with
  | nil => rfl
  | cons report rest ih =>
    by_cases named : report.2.name ∈ set.rules
    · simp [ih, named, List.count_eq_one_of_mem distinct named]
    · simp [ih, named, List.count_eq_zero_of_not_mem named]

namespace Scan

-- Whether a finding of the usual scan stays, and how it is graded then.
def keeps (set : RuleSet) (f : Finding) : Bool :=
  set.rules.contains f.rule && !set.exclude.contains f.code

def regrade (set : RuleSet) (f : Finding) : Finding :=
  { f with severity := (Assoc.get? set.severity f.code).getD .error }

section Dump

variable (p : Path) (tokens : List Token)

theorem findingsOf_default :
    findingsOf .default p tokens = (reporters Rule.stock (tokens.map (·.kind))).map
      fun (place, rule) => findingOf .default p tokens place rule := by
  have selected : RuleSet.default.selected = Rule.stock := rfl
  have nothing : RuleSet.default.exclude = [] := rfl
  simp [findingsOf, selected, nothing]

theorem findingsOf_eq_filter {set : RuleSet} (distinct : set.rules.Nodup) :
    findingsOf set p tokens =
      ((findingsOf .default p tokens).filter (keeps set)).map (regrade set) := by
  rw [findingsOf, reporters_selected_of_nodup distinct, List.filter_filter, findingsOf_default,
    List.filter_map, List.map_map]
  congr 1
  apply List.filter_congr
  rintro ⟨place, rule⟩ _
  simp [keeps, findingOf, Bool.and_comm]

theorem mem_findingsOf_default {f : Finding} (member : f ∈ findingsOf .default p tokens) :
    ∃ rule ∈ Rule.stock, f.rule = rule.name ∧ f.code = rule.code := by
  rw [findingsOf_default] at member
  obtain ⟨⟨place, rule⟩, reported, rfl⟩ := List.mem_map.mp member
  exact ⟨rule, (mem_reporters.mp reported).1, rfl, rfl⟩

theorem findingsOf_perm {set other : RuleSet} (same : other.rules.Perm set.rules)
    (severity : other.severity = set.severity) (exclude : other.exclude = set.exclude) :
    findingsOf other p tokens = findingsOf set p tokens := by
  have reporters : reporters other.selected (tokens.map (·.kind)) =
      reporters set.selected (tokens.map (·.kind)) := by
    simp only [reporters_selected, same.count_eq]
  simp only [findingsOf, findingOf, reporters, severity, exclude]

-- Not to name a rule and to leave out its code are the same.
theorem findingsOf_erase {set : RuleSet} (distinct : set.rules.Nodup) {rule : Rule}
    (member : rule ∈ Rule.stock) {codes : List String}
    (left : ∀ code, code ∈ codes ↔ code = rule.code ∨ code ∈ set.exclude) :
    findingsOf { set with rules := set.rules.erase rule.name } p tokens =
      findingsOf { set with exclude := codes } p tokens := by
  have silenced : findingsOf { set with exclude := codes } p tokens = _ :=
    findingsOf_eq_filter p tokens distinct
  rw [silenced, findingsOf_eq_filter p tokens (distinct.erase rule.name)]
  congr 1
  apply List.filter_congr
  intro f present
  obtain ⟨other, otherMember, name, code⟩ := mem_findingsOf_default p tokens present
  have together := Rule.stock_name_iff_code rule member other otherMember
  simp only [keeps, name, code, List.contains_eq_mem, distinct.mem_erase_iff, left]
  by_cases same : other.name = rule.name
  · simp [same, together.mp same]
  · have apart : ¬ other.code = rule.code := mt together.mpr same
    simp [same, apart]

end Dump

section Run

variable {A : Type} (s : Storage A) (disk : Disk A) (sources : List String)

theorem scanDumps_eq {set : RuleSet} {dumps : List Loaded} {report : Report}
    (covers : Covers set dumps report) : scanDumps set set.selected dumps = report := by
  have reached := covers_scanDumps set dumps
  apply reached.counts.ext covers.counts
  · rw [reached.files, covers.files]
  · rw [reached.findings, covers.findings]

theorem run_congr {set other : RuleSet}
    (known : ∀ name ∈ set.rules, (Rule.ofName? name).isSome)
    (otherKnown : ∀ name ∈ other.rules, (Rule.ofName? name).isSome)
    (same : ∀ p tokens, findingsOf other p tokens = findingsOf set p tokens) :
    run s disk sources other = run s disk sources set := by
  have scans (dumps : List Loaded) :
      scanDumps other other.selected dumps = scanDumps set set.selected dumps := by
    have covers := covers_scanDumps set dumps
    exact scanDumps_eq ⟨covers.files, by simp only [same, covers.findings], covers.counts⟩
  simp only [run_eq s disk sources known rfl, run_eq s disk sources otherKnown rfl, scans]

theorem run_eq_chosen {base : Report} (usual : run s disk sources .default = .ok base) {v : Value}
    {set : RuleSet} (accepted : RuleSet.ofValue v = .ok set) (distinct : set.rules.Nodup) :
    (∃ report, run s disk sources set = .ok report ∧ report.files = base.files ∧
      report.findings = (base.findings.filter fun f =>
        set.rules.contains f.rule && !set.exclude.contains f.code).map fun f =>
          { f with severity := (Assoc.get? set.severity f.code).getD .error }) ∧
    (∀ other : RuleSet, other.rules.Perm set.rules → other.severity = set.severity →
      other.exclude = set.exclude → run s disk sources other = run s disk sources set) ∧
    ∀ rule ∈ Rule.stock, ∀ codes, (∀ code, code ∈ codes ↔ code = rule.code ∨ code ∈ set.exclude) →
      ∃ report, run s disk sources { set with rules := set.rules.erase rule.name } = .ok report ∧
        run s disk sources { set with exclude := codes } = .ok report := by
  have known := RuleSet.known_of_ofValue accepted
  obtain ⟨complete, dumps, loaded, rfl⟩ :=
    (run_eq_ok_iff s disk sources RuleSet.known_default base).mp usual
  have base := covers_scanDumps .default dumps
  have succeeds {other : RuleSet} (known : ∀ name ∈ other.rules, (Rule.ofName? name).isSome) :
      run s disk sources other = .ok (scanDumps other other.selected dumps) :=
    (run_eq_ok_iff s disk sources known _).mpr ⟨complete, dumps, loaded, rfl⟩
  refine ⟨⟨_, succeeds known, ?_, ?_⟩, ?_, ?_⟩
  · rw [(covers_scanDumps set dumps).files, base.files]
  · rw [(covers_scanDumps set dumps).findings, base.findings, List.filter_flatMap,
      List.map_flatMap]
    simp only [findingsOf_eq_filter _ _ distinct]
    rfl
  · intro other same severity exclude
    apply run_congr s disk sources known
    · exact fun name member => known name (same.mem_iff.mp member)
    · exact fun p tokens => findingsOf_perm p tokens same severity exclude
  · intro rule member codes left
    have fewer : ∀ name ∈ set.rules.erase rule.name, (Rule.ofName? name).isSome :=
      fun name present => known name (List.mem_of_mem_erase present)
    refine ⟨_, succeeds fewer, ?_⟩
    rw [← succeeds fewer]
    apply run_congr s disk sources
    · exact fewer
    · exact known
    · exact fun p tokens => (findingsOf_erase p tokens distinct member left).symm

end Run

theorem run_eq_chosen_graded :
    let v := Value.map [
      (.text "rules", .list [.text "Commenting.FunctionComment", .text "Commenting.ClassComment"]),
      (.text "severity", .map [(.text "MissingFunctionComment", .text "warning")]),
      (.text "exclude", .text "MissingClassComment")]
    let set : RuleSet :=
      { rules := ["Commenting.FunctionComment", "Commenting.ClassComment"]
        severity := [("MissingFunctionComment", .warning)]
        exclude := ["MissingClassComment"] }
    let tree : FileTree ByteArray := .folder
      [("a", .file "- T_CLASS\n- type: T_FUNCTION\n  line: 4".toUTF8), ("w", .folder [])]
    let disk : Disk ByteArray := ⟨tree, ["w"], rfl⟩
    RuleSet.ofValue v = .ok set ∧ set.rules.Nodup ∧
      ∃ base report, run .utf8 disk ["/a"] .default = .ok base ∧ base.findings.length = 2 ∧
        run .utf8 disk ["/a"] set = .ok report ∧
        report.findings =
          [⟨"/a", 1, some 4, "MissingFunctionComment", "Missing function doc comment.",
            "Commenting.FunctionComment", .warning⟩] := by
  intro v set tree disk
  have accepted : RuleSet.ofValue v = .ok set := eq_ok_of_toOption (by decide +kernel)
  have distinct : set.rules.Nodup := by decide
  have first : Path.ofText "/a" = ⟨.root, ["a"]⟩ := by decide +kernel
  have searched : Discovery.search disk Discovery.usualExtensions ["/a"] =
      { dumps := [⟨.root, ["a"]⟩] } := by
    simp only [Discovery.search, Discovery.dumpsAt, first]
    rfl
  let dumps : List Loaded :=
    [⟨⟨.root, ["a"]⟩, [⟨.classKw, 0, "", none⟩, ⟨.functionKw, 1, "", some 4⟩]⟩]
  have loaded : loadAll .utf8 disk [⟨.root, ["a"]⟩] = .ok dumps :=
    eq_ok_of_toOption (by decide +kernel)
  have usual := (run_eq_ok_iff .utf8 disk ["/a"] RuleSet.known_default _).mpr
    ⟨by rw [searched], dumps, by rw [searched]; exact loaded, rfl⟩
  obtain ⟨⟨report, ran, _, findings⟩, _⟩ := run_eq_chosen .utf8 disk ["/a"] usual accepted distinct
  refine ⟨accepted, distinct, _, report, usual, by decide +kernel, ran, ?_⟩
  rw [findings]
  decide +kernel

end Scan

end DocGuard
