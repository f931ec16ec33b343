import DocGuard.Proofs.Dispatch.Reports
import DocGuard.Proofs.Report.Recording
import DocGuard.Proofs.RuleSet.Rules
import DocGuard.Scan
import Mathlib.Data.List.Induction

set_option autoImplicit false

namespace DocGuard.Scan

-- The finding of a rule at a place of a dump.
def findingOf (set : RuleSet) (p : Path) (tokens : List Token) (place : Nat) (rule : Rule) :
    Finding where
  path := p.toText
  position := place
  line := tokens[place]?.bind (·.line)
  code := rule.code
  message := rule.message
  rule := rule.name
  severity := (Assoc.get? set.severity rule.code).getD .error

-- The findings of one dump: place by place, rule by rule, without the excluded codes.
def findingsOf (set : RuleSet) (p : Path) (tokens : List Token) : List Finding :=
  ((reporters set.selected (tokens.map (·.kind))).filter
    fun (_, rule) => !set.exclude.contains rule.code).map
      fun (place, rule) => findingOf set p tokens place rule

theorem get?_foldl_put {K V : Type} [BEq K] [LawfulBEq K] (pairs entries : List (K × V)) (key : K)
    (value : V) (agree : ∀ pair ∈ pairs, pair.1 = key → pair.2 = value)
    (present : Assoc.get? entries key = some value ∨ ∃ pair ∈ pairs, pair.1 = key) :
    Assoc.get? (pairs.foldl (fun entries pair => Assoc.put (· == ·) entries pair.1 pair.2) entries)
      key = some value := by
  induction pairs generalizing entries with
  | nil => simpa using present
  | cons pair rest ih =>
    apply ih
    · exact fun other member => agree other (List.mem_cons_of_mem _ member)
    · rw [Assoc.get?_put]
      by_cases here : pair.1 = key
      · have same := agree pair (by simp) here
        simp [here, same]
      · rcases present with found | ⟨other, member, equal⟩
        · simp [here, found]
        · rcases List.mem_cons.mp member with rfl | later
          · contradiction
          · exact .inr ⟨other, later, equal⟩

theorem stock_names : ∀ rule ∈ Rule.stock, ∀ other ∈ Rule.stock, other.code = rule.code →
    other.name = rule.name := by
  decide

-- The map from codes to names forgets which rule came last, but stock rules share no code.
theorem get?_ruleNames {rules : List Rule} (stock : ∀ rule ∈ rules, rule ∈ Rule.stock) {rule : Rule}
    (member : rule ∈ rules) : Assoc.get? (ruleNames rules) rule.code = some rule.name := by
  apply get?_foldl_put
  · intro pair present same
    obtain ⟨other, otherMember, rfl⟩ := List.mem_map.mp present
    exact stock_names rule (stock rule member) other (stock other otherMember) same
  · exact .inr ⟨(rule.code, rule.name), List.mem_map.mpr ⟨rule, member, rfl⟩, rfl⟩

theorem finding?_violation (set : RuleSet) (p : Path) (tokens : List Token) (place : Nat)
    {rule : Rule} (member : rule ∈ set.selected) :
    (sink set set.selected ⟨p, tokens⟩).finding? (rule.violation place).position
        (rule.violation place).message (rule.violation place).code =
      if set.exclude.contains rule.code then none
      else some (findingOf set p tokens place rule) := by
  have name := get?_ruleNames (fun _ => set.selected_subset_stock) member
  simp [Sink.finding?, Sink.lineAt, sink, findingOf, Rule.violation, name]

theorem filterMap_finding? (set : RuleSet) (p : Path) (tokens : List Token) :
    ((violations set.selected (tokens.map (·.kind))).filterMap fun v =>
        (sink set set.selected ⟨p, tokens⟩).finding? v.position v.message v.code) =
      findingsOf set p tokens := by
  have each (reports : List (Nat × Rule)) (chosen : ∀ report ∈ reports, report.2 ∈ set.selected) :
      ((reports.map fun (place, rule) => rule.violation place).filterMap fun v =>
          (sink set set.selected ⟨p, tokens⟩).finding? v.position v.message v.code) =
        (reports.filter fun (_, rule) => !set.exclude.contains rule.code).map
          fun (place, rule) => findingOf set p tokens place rule := by
    induction reports with
    | nil => rfl
    | cons report rest ih =>
      obtain ⟨place, rule⟩ := report
      have selected : rule ∈ set.selected := chosen (place, rule) (by simp)
      have here := finding?_violation set p tokens place selected
      have later := ih fun other member => chosen other (List.mem_cons_of_mem _ member)
      rw [List.map_cons, List.filterMap_cons, List.filter_cons, here, later]
      cases excluded : set.exclude.contains rule.code <;> simp only [excluded] <;> rfl
  exact each _ fun report member => (mem_reporters.mp member).1

theorem scanDump_eq (set : RuleSet) (rules : List Rule) (r : Report) (dump : Loaded) :
    scanDump set rules r dump =
      (r.enter dump.path.toText).recordAll (sink set rules dump)
        (violations rules (dump.tokens.map (·.kind))) := by
  rw [← Dispatcher.run_ofRules]
  rfl

-- What is known of a report after some dumps: their names, their findings and the counts.
structure Covers (set : RuleSet) (dumps : List Loaded) (r : Report) : Prop where
  files : r.files = dumps.map (·.path.toText)
  findings : r.findings = dumps.flatMap fun dump => findingsOf set dump.path dump.tokens
  counts : r.Counts {}

theorem covers_empty (set : RuleSet) : Covers set [] {} where
  files := rfl
  findings := rfl
  counts := Report.counts_empty

theorem Covers.scanDump {set : RuleSet} {dumps : List Loaded} {r : Report}
    (covers : Covers set dumps r) (dump : Loaded) :
    Covers set (dumps ++ [dump]) (scanDump set set.selected r dump) := by
  rw [scanDump_eq]
  constructor
  · simp [Report.recordAll_files, Report.enter, covers.files]
  · rw [Report.recordAll_findings, filterMap_finding?]
    simp [Report.enter, covers.findings]
  · exact (covers.counts.enter _).recordAll _ _

theorem covers_scanDumps (set : RuleSet) (dumps : List Loaded) :
    Covers set dumps (scanDumps set set.selected dumps) := by
  induction dumps using List.reverseRecOn with
  | nil => exact covers_empty set
  | append_singleton dumps dump ih =>
    rw [scanDumps, List.foldl_append]
    exact ih.scanDump dump

section Loading

variable {A : Type} {s : Storage A} {disk : Disk A}

theorem loadAll_eq_ok {paths : List Path} {tokensOf : Path → List Token}
    (loads : ∀ p ∈ paths, DumpFile.load s disk p = .ok (tokensOf p)) :
    loadAll s disk paths = .ok (paths.map fun p => ⟨p, tokensOf p⟩) := by
  induction paths with
  | nil => rfl
  | cons p rest ih =>
    have later := ih fun q member => loads q (List.mem_cons_of_mem _ member)
    simp [loadAll, loads p (by simp), later, Except.map]

theorem loadAll_eq_error {paths : List Path} {p : Path} (member : p ∈ paths)
    {fault : DumpFile.Fault} (fails : DumpFile.load s disk p = .error fault) :
    ∃ earlier q later first, paths = earlier ++ q :: later ∧
      (∀ x ∈ earlier, ∃ tokens, DumpFile.load s disk x = .ok tokens) ∧
      DumpFile.load s disk q = .error first ∧ loadAll s disk paths = .error first := by
  induction paths with
  | nil => simp at member
  | cons head rest ih =>
    cases loaded : DumpFile.load s disk head with
    | error first =>
      exact ⟨[], head, rest, first, rfl, by simp, loaded, by simp [loadAll, loaded]⟩
    | ok tokens =>
      have later : p ∈ rest := by
        rcases List.mem_cons.mp member with rfl | later
        · simp [fails] at loaded
        · exact later
      obtain ⟨earlier, q, more, first, split, loads, stops, result⟩ := ih later
      refine ⟨head :: earlier, q, more, first, by simp [split], ?_, stops, ?_⟩
      · intro x present
        rcases List.mem_cons.mp present with rfl | present
        · exact ⟨tokens, loaded⟩
        · exact loads x present
      · simp [loadAll, loaded, result, Except.map]

end Loading

section Outcome

variable {A : Type} (s : Storage A) (disk : Disk A) (sources : List String)

theorem run_eq {set : RuleSet} (known : ∀ name ∈ set.rules, (Rule.ofName? name).isSome)
    {found : Discovery.Search}
    (searched : Discovery.search disk Discovery.usualExtensions sources = found) :
    run s disk sources set =
      match loadAll s disk found.dumps, found.fault with
      | .error fault, _ => .error (.file fault)
      | .ok _, some fault => .error (.path fault)
      | .ok dumps, none => .ok (scanDumps set set.selected dumps) := by
  simp only [run, Rule.ofNames_eq_ok known, searched]
  rfl

theorem run_eq_ok_iff {set : RuleSet} (known : ∀ name ∈ set.rules, (Rule.ofName? name).isSome)
    (report : Report) :
    run s disk sources set = .ok report ↔
      (Discovery.search disk Discovery.usualExtensions sources).fault = none ∧
        ∃ dumps, loadAll s disk (Discovery.search disk Discovery.usualExtensions sources).dumps =
          .ok dumps ∧ scanDumps set set.selected dumps = report := by
  rw [run_eq s disk sources known rfl]
  cases loaded : loadAll s disk (Discovery.search disk Discovery.usualExtensions sources).dumps with
  | error fault => simp
  | ok dumps =>
    cases (Discovery.search disk Discovery.usualExtensions sources).fault <;> simp

-- A source that cannot even be looked up ends the search, and the scan with it once the dumps before
-- it are loaded.
theorem run_exact {v : Value} {set : RuleSet} (accepted : RuleSet.ofValue v = .ok set) :
    let found := Discovery.search disk Discovery.usualExtensions sources
    set.selected.map (·.name) = set.rules ∧
    (∀ tokensOf : Path → List Token,
      (∀ p ∈ found.dumps, DumpFile.load s disk p = .ok (tokensOf p)) →
      match found.fault with
      | none => ∃ report, run s disk sources set = .ok report ∧
          report.files = found.dumps.map Path.toText ∧
          report.findings = (found.dumps.flatMap fun p => findingsOf set p (tokensOf p)) ∧
          ∀ level, report.tally.count level =
            (report.findings.countP fun f => f.severity = level : Nat)
      | some fault => run s disk sources set = .error (.path fault)) ∧
    (∀ p ∈ found.dumps, ∀ fault, DumpFile.load s disk p = .error fault →
      ∃ earlier q later first, found.dumps = earlier ++ q :: later ∧
        (∀ x ∈ earlier, ∃ tokens, DumpFile.load s disk x = .ok tokens) ∧
        DumpFile.load s disk q = .error first ∧
        run s disk sources set = .error (.file first)) ∧
    ∀ unknown, run s disk sources set ≠ .error (.rule unknown) := by
  intro found
  have known := RuleSet.known_of_ofValue accepted
  have outcome := run_eq s disk sources known (rfl : _ = found)
  refine ⟨Rule.map_name_ofNames known, ?_, ?_, ?_⟩
  · intro tokensOf loads
    rw [outcome, loadAll_eq_ok loads]
    have covers := covers_scanDumps set (found.dumps.map fun p => ⟨p, tokensOf p⟩)
    cases found.fault with
    | some fault => rfl
    | none =>
      refine ⟨_, rfl, ?_, ?_, ?_⟩
      · simpa [Function.comp_def] using covers.files
      · simpa [List.flatMap_map] using covers.findings
      · intro level
        have counted := covers.counts level
        cases level <;> simpa [Tally.count] using counted
  · intro p member fault fails
    obtain ⟨earlier, q, later, first, split, loads, stops, result⟩ := loadAll_eq_error member fails
    refine ⟨earlier, q, later, first, split, loads, stops, ?_⟩
    rw [outcome, result]
  · intro unknown
    rw [outcome]
    cases loadAll s disk found.dumps with
    | error fault => simp
    | ok dumps => cases found.fault <;> simp

end Outcome

-- A dump beside the working directory, by a relative path, and one in it, by an absolute path.
theorem run_exact_two_dumps :
    let v := Value.map [(.text "exclude", .text "MissingClassComment")]
    let set : RuleSet := { RuleSet.default with exclude := ["MissingClassComment"] }
    let tree : FileTree ByteArray := .folder
      [("a", .file "- T_CLASS\n- type: T_FUNCTION\n  line: 4".toUTF8),
        ("w", .folder [("b", .file "[T_FUNCTION]".toUTF8)])]
    let disk : Disk ByteArray := ⟨tree, ["w"], rfl⟩
    RuleSet.ofValue v = .ok set ∧
      ∃ report, run .utf8 disk ["/w/b", "../a"] set = .ok report ∧
        report.files = ["/w/b", "../a"] ∧
        report.findings.map (fun f => (f.path, f.position, f.line)) =
          [("/w/b", 0, none), ("../a", 1, some 4)] ∧
        report.tally.count .error = 2 := by
  intro v set tree disk
  have accepted : RuleSet.ofValue v = .ok set := rfl
  let inside : Path := ⟨.root, ["w", "b"]⟩
  let beside : Path := ⟨.home, ["..", "a"]⟩
  have searched : Discovery.search disk Discovery.usualExtensions ["/w/b", "../a"] =
      { dumps := [inside, beside] } := by
    have first : Path.ofText "/w/b" = inside := by decide +kernel
    have second : Path.ofText "../a" = beside := by decide +kernel
    simp only [Discovery.search, Discovery.dumpsAt, first, second]
    rfl
  have facts := run_exact .utf8 disk ["/w/b", "../a"] accepted
  rw [searched] at facts
  let tokensOf (p : Path) : List Token :=
    if p = inside then [⟨.functionKw, 0, "", none⟩]
    else [⟨.classKw, 0, "", none⟩, ⟨.functionKw, 1, "", some 4⟩]
  have loads : ∀ p ∈ [inside, beside], DumpFile.load .utf8 disk p = .ok (tokensOf p) := by
    have read : ∀ p ∈ [inside, beside],
        (DumpFile.load .utf8 disk p).toOption = some (tokensOf p) := by
      decide +kernel
    intro p member
    exact eq_ok_of_toOption (read p member)
  obtain ⟨report, ran, files, findings, counts⟩ := facts.2.1 tokensOf loads
  refine ⟨accepted, report, ran, files.trans (by decide +kernel), ?_, ?_⟩
  · rw [findings]
    decide +kernel
  · rw [counts, findings]
    decide +kernel

end DocGuard.Scan
