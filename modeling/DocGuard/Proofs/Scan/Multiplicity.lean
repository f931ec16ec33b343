import DocGuard.Proofs.Scan.SourceOrder

set_option autoImplicit false

namespace DocGuard

theorem countP_reporters (rules : List Rule) (kinds : List Kind) (place : Nat) :
    ((reporters rules kinds).countP fun report => report.1 = place) =
      rules.countP fun rule => rule.Reports kinds place := by
  let speakers (other : Nat) : List (Nat × Rule) :=
    (rules.filter fun rule => rule.Reports kinds other).map fun rule => (other, rule)
  have upTo (n : Nat) : (((List.range n).flatMap speakers).countP fun report => report.1 = place) =
      if place < n then rules.countP fun rule => rule.Reports kinds place else 0 := by
    induction n with
    | zero => rfl
    | succ n ih =>
      rw [List.range_succ, List.flatMap_append, List.countP_append, ih]
      by_cases here : n = place
      · subst here
        simp [speakers, List.countP_map, Function.comp_def, List.countP_eq_length_filter (l := rules)]
      · have other : place < n + 1 ↔ place < n := by omega
        simp [speakers, List.countP_map, Function.comp_def, here, other]
  refine (upTo kinds.length).trans ?_
  split
  next => rfl
  next outside =>
    symm
    rw [List.countP_eq_zero]
    rintro rule _ reports
    obtain ⟨k, here, _⟩ := (of_decide_eq_true reports).1
    exact outside (List.getElem?_eq_some_iff.mp here).1

-- Whether a rule has to speak of a place, as the search tells.
def Rule.speaks (rule : Rule) (kinds : List Kind) (place : Nat) : Bool :=
  (kinds[place]?.any rule.targets.has) && !rule.documented kinds place

theorem Rule.speaks_iff (rule : Rule) (kinds : List Kind) (place : Nat) :
    rule.speaks kinds place = true ↔ rule.Reports kinds place := by
  cases here : kinds[place]? with
  | none => simp [speaks, Reports, Targets, here]
  | some k => simp [speaks, rule.reports_iff here, here]

theorem RuleSet.countP_speaks (set : RuleSet) {rule : Rule} (member : rule ∈ set.selected)
    {kinds : List Kind} {place : Nat} (speaks : rule.speaks kinds place = true) :
    (set.selected.countP fun rule => rule.speaks kinds place) = set.rules.count rule.name := by
  have reports := (rule.speaks_iff kinds place).mp speaks
  have chosen := filter_reports_ofName? (set.selected_subset_stock member) reports set.rules
  have length := congrArg List.length chosen
  rw [List.length_replicate, ← List.countP_eq_length_filter] at length
  rw [← length]
  apply List.countP_congr
  intro other _
  simp [Rule.speaks_iff]

theorem RuleSet.name_mem_rules {set : RuleSet} {rule : Rule} (member : rule ∈ set.selected) :
    rule.name ∈ set.rules := by
  obtain ⟨name, present, found⟩ := List.mem_filterMap.mp member
  rwa [(Rule.ofName?_eq_some found).2]

namespace Scan

theorem findingsOf_of_exclude_nil {set : RuleSet} (nothing : set.exclude = []) (p : Path)
    (tokens : List Token) :
    findingsOf set p tokens = (reporters set.selected (tokens.map (·.kind))).map
      fun (place, rule) => findingOf set p tokens place rule := by
  simp [findingsOf, nothing]

theorem countP_position {set : RuleSet} (nothing : set.exclude = []) (p : Path)
    (tokens : List Token) (place : Nat) :
    ((findingsOf set p tokens).countP fun f => f.position = (place : Int)) =
      set.selected.countP fun rule => rule.speaks (tokens.map (·.kind)) place := by
  rw [findingsOf_of_exclude_nil nothing, List.countP_map]
  have places := countP_reporters set.selected (tokens.map (·.kind)) place
  simpa [Function.comp_def, findingOf, Int.ofNat_inj, ← Rule.speaks_iff] using places

theorem countP_position_of_nodup {set : RuleSet} (distinct : set.rules.Nodup)
    (nothing : set.exclude = []) (p : Path) (tokens : List Token) (place : Nat) :
    ((findingsOf set p tokens).countP fun f => f.position = (place : Int)) =
      if ∃ rule ∈ set.selected, rule.speaks (tokens.map (·.kind)) place = true then 1 else 0 := by
  rw [countP_position nothing]
  split
  next speaker =>
    obtain ⟨rule, member, speaks⟩ := speaker
    rw [set.countP_speaks member speaks,
      List.count_eq_one_of_mem distinct (RuleSet.name_mem_rules member)]
  next silent =>
    rw [List.countP_eq_zero]
    exact fun rule member speaks => silent ⟨rule, member, speaks⟩

theorem nodup_position {set : RuleSet} (distinct : set.rules.Nodup) (nothing : set.exclude = [])
    (p : Path) (tokens : List Token) : ((findingsOf set p tokens).map (·.position)).Nodup := by
  rw [List.nodup_iff_count_le_one]
  intro position
  by_cases reported : ∃ f ∈ findingsOf set p tokens, f.position = position
  · obtain ⟨f, member, rfl⟩ := reported
    obtain ⟨place, _, _, _, rfl⟩ := mem_findingsOf member
    have once := countP_position_of_nodup distinct nothing p tokens place
    have counted : ((findingsOf set p tokens).map (·.position)).count (place : Int) =
        (findingsOf set p tokens).countP fun f => f.position = (place : Int) := by
      simp [List.count, List.countP_map, Function.comp_def, beq_eq_decide]
    change ((findingsOf set p tokens).map (·.position)).count (place : Int) ≤ 1
    rw [counted, once]
    split <;> omega
  · have absent : position ∉ (findingsOf set p tokens).map (·.position) := by
      simpa using reported
    rw [List.count_eq_zero_of_not_mem absent]
    omega

section Run

variable {A : Type} (s : Storage A) {disk : Disk A}

theorem run_one_file {set : RuleSet} (known : ∀ name ∈ set.rules, (Rule.ofName? name).isSome)
    {source : String} {content : A} {tokens : List Token}
    (there : disk.at? (Path.ofText source) = .ok (some (.file content)))
    (loads : DumpFile.load s disk (Path.ofText source) = .ok tokens) :
    run s disk [source] set =
      .ok (scanDumps set set.selected [⟨Path.ofText source, tokens⟩]) := by
  have searched : Discovery.search disk Discovery.usualExtensions [source] =
      { dumps := [Path.ofText source] } := by
    simp [Discovery.search, Discovery.dumpsAt, there, Discovery.Search.andThen]
  rw [run_eq s disk [source] known searched]
  simp [loadAll, loads, Except.map]

theorem run_multiplicity {sources : List String} {v : Value} {set : RuleSet}
    (accepted : RuleSet.ofValue v = .ok set) (nothing : set.exclude = []) {report : Report}
    (ran : run s disk sources set = .ok report) :
    let dumps := (Discovery.search disk Discovery.usualExtensions sources).dumps
    set.selected.map (·.name) = set.rules ∧
    ∃ tokensOf : Path → List Token,
      (∀ p ∈ dumps, DumpFile.load s disk p = .ok (tokensOf p)) ∧
      report.findings = (dumps.flatMap fun p => findingsOf set p (tokensOf p)) ∧
      ∀ p ∈ dumps,
        let kinds := (tokensOf p).map (·.kind)
        let added := findingsOf set p (tokensOf p)
        (∀ place : Nat, (added.countP fun f => f.position = (place : Int)) =
          set.selected.countP fun rule => rule.speaks kinds place) ∧
        (set.rules.Nodup →
          (∀ place : Nat, (added.countP fun f => f.position = (place : Int)) =
            if ∃ rule ∈ set.selected, rule.speaks kinds place = true then 1 else 0) ∧
          (added.map (·.position)).Nodup) := by
  intro dumps
  have known := RuleSet.known_of_ofValue accepted
  obtain ⟨_, loads⟩ := (run_succeeds_iff s known sources).mp ⟨report, ran⟩
  obtain ⟨_, _, findings, _⟩ := run_contents s known ran
  refine ⟨Rule.map_name_ofNames known, tokensOr s disk, loads, findings, fun p _ => ⟨?_, ?_⟩⟩
  · exact fun place => countP_position nothing p _ place
  · intro distinct
    exact ⟨fun place => countP_position_of_nodup distinct nothing p _ place,
      nodup_position distinct nothing p _⟩

end Run

-- Of two classes and a function, the last class is documented.
theorem run_multiplicity_once :
    let v := Value.map [(.text "rules",
      .list [.text "Commenting.FunctionComment", .text "Commenting.ClassComment"])]
    let set : RuleSet :=
      { RuleSet.default with rules := ["Commenting.FunctionComment", "Commenting.ClassComment"] }
    let tree : FileTree ByteArray :=
      .folder [("a", .file "[class, function, doc_comment_close_tag, class]".toUTF8)]
    let disk : Disk ByteArray := ⟨tree, [], rfl⟩
    RuleSet.ofValue v = .ok set ∧ set.exclude = [] ∧ set.rules.Nodup ∧
      ∃ report, run .utf8 disk ["a"] set = .ok report ∧
        (report.findings.countP fun f => f.position = ((1 : Nat) : Int)) = 1 ∧
        (report.findings.countP fun f => f.position = ((3 : Nat) : Int)) = 0 ∧
        (report.findings.map (·.position)).Nodup := by
  intro v set tree disk
  have accepted : RuleSet.ofValue v = .ok set := eq_ok_of_toOption (by decide +kernel)
  have distinct : set.rules.Nodup := by decide
  have path : Path.ofText "a" = ⟨.home, ["a"]⟩ := by cbv
  have there : disk.at? (Path.ofText "a") =
      .ok (some (.file "[class, function, doc_comment_close_tag, class]".toUTF8)) := by
    rw [path]
    rfl
  let tokens : List Token :=
    [⟨.classKw, 0, "", none⟩, ⟨.functionKw, 1, "", none⟩, ⟨.docClose, 2, "", none⟩,
      ⟨.classKw, 3, "", none⟩]
  have loads : DumpFile.load .utf8 disk (Path.ofText "a") = .ok tokens :=
    eq_ok_of_toOption (by decide +kernel)
  have ran := run_one_file .utf8 (RuleSet.known_of_ofValue accepted) there loads
  obtain ⟨_, tokensOf, loaded, findings, each⟩ := run_multiplicity .utf8 accepted rfl ran
  have searched : (Discovery.search disk Discovery.usualExtensions ["a"]).dumps =
      [Path.ofText "a"] := by
    simp [Discovery.search, Discovery.dumpsAt, there, Discovery.Search.andThen]
  rw [searched] at loaded findings each
  have same : tokensOf (Path.ofText "a") = tokens := by
    have both := (loaded _ List.mem_cons_self).symm.trans loads
    exact Except.ok.inj both
  obtain ⟨_, once⟩ := each _ List.mem_cons_self
  rw [List.flatMap_singleton] at findings
  rw [same] at findings once
  rw [← findings] at once
  obtain ⟨counts, positions⟩ := once distinct
  exact ⟨accepted, rfl, distinct, _, ran, (counts 1).trans (by decide +kernel),
    (counts 3).trans (by decide +kernel), positions⟩

-- A class without a doc comment, twice in the report of a rule set that names its rule twice.
theorem run_repeated_name :
    let v := Value.map [(.text "rules",
      .list [.text "Commenting.ClassComment", .text "Commenting.ClassComment"])]
    let set : RuleSet :=
      { RuleSet.default with rules := ["Commenting.ClassComment", "Commenting.ClassComment"] }
    let disk : Disk ByteArray := ⟨.folder [("a", .file "[T_CLASS]".toUTF8)], [], rfl⟩
    RuleSet.ofValue v = .ok set ∧ set.exclude = [] ∧
      DumpFile.load .utf8 disk (Path.ofText "a") = .ok [⟨.classKw, 0, "", none⟩] ∧
      ∃ report, run .utf8 disk ["a"] set = .ok report ∧ report.files = ["a"] ∧
        (report.findings.countP fun f => f.position = 0) = 2 ∧
        ¬ (report.findings.map (·.position)).Nodup := by
  intro v set disk
  have accepted : RuleSet.ofValue v = .ok set := eq_ok_of_toOption (by decide +kernel)
  have path : Path.ofText "a" = ⟨.home, ["a"]⟩ := by cbv
  have there : disk.at? (Path.ofText "a") = .ok (some (.file "[T_CLASS]".toUTF8)) := by
    rw [path]
    rfl
  have loads : DumpFile.load .utf8 disk (Path.ofText "a") = .ok [⟨.classKw, 0, "", none⟩] :=
    eq_ok_of_toOption (by decide +kernel)
  have ran := run_one_file .utf8 (RuleSet.known_of_ofValue accepted) there loads
  exact ⟨accepted, rfl, loads, _, ran, by decide +kernel, by decide +kernel, by decide +kernel⟩

end Scan

end DocGuard
