import DocGuard.Proofs.Discovery.Sources
import DocGuard.Proofs.Report.Listing
import DocGuard.Proofs.Report.Views
import DocGuard.Proofs.Scan.Selection

set_option autoImplicit false

namespace DocGuard.Scan

section Loading

variable {A : Type} {s : Storage A} {disk : Disk A}

-- The tokens of a dump, or none where it cannot be loaded.
def tokensOr (s : Storage A) (disk : Disk A) (p : Path) : List Token :=
  (DumpFile.load s disk p).toOption.getD []

theorem loadAll_eq_ok_iff {paths : List Path} {dumps : List Loaded} :
    loadAll s disk paths = .ok dumps ↔
      (∀ p ∈ paths, DumpFile.load s disk p = .ok (tokensOr s disk p)) ∧
        paths.map (fun p => ⟨p, tokensOr s disk p⟩) = dumps := by
  constructor
  · intro loaded
    have loads : ∀ p ∈ paths, DumpFile.load s disk p = .ok (tokensOr s disk p) := by
      intro p member
      cases result : DumpFile.load s disk p with
      | error fault =>
        obtain ⟨_, _, _, _, _, _, _, failed⟩ := loadAll_eq_error member result
        simp [failed] at loaded
      | ok tokens => simp [tokensOr, result, Except.toOption]
    refine ⟨loads, ?_⟩
    rw [loadAll_eq_ok loads] at loaded
    exact Except.ok.inj loaded
  · rintro ⟨loads, rfl⟩
    exact loadAll_eq_ok loads

end Loading

section Keys

theorem mem_findingsOf {set : RuleSet} {p : Path} {tokens : List Token} {f : Finding}
    (member : f ∈ findingsOf set p tokens) :
    ∃ place, ∃ rule ∈ Rule.stock, rule.Reports (tokens.map (·.kind)) place ∧
      f = findingOf set p tokens place rule := by
  obtain ⟨⟨place, rule⟩, kept, rfl⟩ := List.mem_map.mp member
  obtain ⟨selected, reports⟩ := mem_reporters.mp (List.mem_filter.mp kept).1
  exact ⟨place, rule, set.selected_subset_stock selected, reports, rfl⟩

-- The path gives the dump and its tokens, the position the place, and the place the rule.
theorem findings_eq_of_sameKey {set : RuleSet} {tokensOf : Path → List Token} {paths : List Path}
    (regular : ∀ p ∈ paths, p.Regular) {f g : Finding}
    (first : f ∈ paths.flatMap fun p => findingsOf set p (tokensOf p))
    (second : g ∈ paths.flatMap fun p => findingsOf set p (tokensOf p))
    (same : f.SameKey g) : f = g := by
  obtain ⟨p, pMember, inP⟩ := List.mem_flatMap.mp first
  obtain ⟨q, qMember, inQ⟩ := List.mem_flatMap.mp second
  obtain ⟨place, rule, stock, reports, rfl⟩ := mem_findingsOf inP
  obtain ⟨otherPlace, other, otherStock, otherReports, rfl⟩ := mem_findingsOf inQ
  obtain rfl : p = q := Path.toText_inj (regular p pMember) (regular q qMember) same.path
  obtain rfl : place = otherPlace := Int.ofNat.inj same.position
  obtain rfl := reporter_unique stock otherStock reports otherReports
  rfl

end Keys

section Run

variable {A : Type} (s : Storage A) {disk : Disk A}

theorem run_succeeds_iff {set : RuleSet}
    (known : ∀ name ∈ set.rules, (Rule.ofName? name).isSome) (sources : List String) :
    (∃ report, run s disk sources set = .ok report) ↔
      (Discovery.search disk Discovery.usualExtensions sources).fault = none ∧
        ∀ p ∈ (Discovery.search disk Discovery.usualExtensions sources).dumps,
          DumpFile.load s disk p = .ok (tokensOr s disk p) := by
  simp only [run_eq_ok_iff s disk sources known, loadAll_eq_ok_iff]
  constructor
  · rintro ⟨_, complete, _, ⟨loads, _⟩, _⟩
    exact ⟨complete, loads⟩
  · rintro ⟨complete, loads⟩
    exact ⟨_, complete, _, ⟨loads, rfl⟩, rfl⟩

-- What a report of some sources holds, without the loaded dumps.
theorem run_contents {set : RuleSet} (known : ∀ name ∈ set.rules, (Rule.ofName? name).isSome)
    {sources : List String} {report : Report} (ran : run s disk sources set = .ok report) :
    (Discovery.search disk Discovery.usualExtensions sources).fault = none ∧
      report.files =
        (Discovery.search disk Discovery.usualExtensions sources).dumps.map Path.toText ∧
      report.findings =
        ((Discovery.search disk Discovery.usualExtensions sources).dumps.flatMap fun p =>
          findingsOf set p (tokensOr s disk p)) ∧
      report.Counts {} := by
  obtain ⟨complete, dumps, loaded, rfl⟩ := (run_eq_ok_iff s disk sources known report).mp ran
  obtain ⟨_, rfl⟩ := loadAll_eq_ok_iff.mp loaded
  have covers := covers_scanDumps set
    ((Discovery.search disk Discovery.usualExtensions sources).dumps.map fun p =>
      ⟨p, tokensOr s disk p⟩)
  refine ⟨complete, ?_, ?_, covers.counts⟩
  · simpa [Function.comp_def] using covers.files
  · simpa [List.flatMap_map] using covers.findings

theorem run_order (named : disk.tree.Named) {v : Value} {set : RuleSet}
    (accepted : RuleSet.ofValue v = .ok set) {sources others : List String}
    (same : sources.Perm others) :
    ((∃ report, run s disk sources set = .ok report) ↔
      ∃ report, run s disk others set = .ok report) ∧
    ∀ report other, run s disk sources set = .ok report → run s disk others set = .ok other →
      report.files.Perm other.files ∧ report.findings.Perm other.findings ∧
      report.tally = other.tally ∧ report.exitCode = other.exitCode ∧
      ∀ limit, report.top limit = other.top limit ∧ report.table limit = other.table limit := by
  have known := RuleSet.known_of_ofValue accepted
  constructor
  · have faults := Discovery.search_fault_perm disk Discovery.usualExtensions same
    rw [run_succeeds_iff s known, run_succeeds_iff s known, ← faults]
    refine and_congr_right fun complete => ?_
    have dumps := Discovery.search_dumps_perm disk Discovery.usualExtensions same complete
    simp only [dumps.mem_iff]
  · intro report other ran otherRan
    obtain ⟨complete, files, findings, counts⟩ := run_contents s known ran
    obtain ⟨_, otherFiles, otherFindings, otherCounts⟩ := run_contents s known otherRan
    have dumps := Discovery.search_dumps_perm disk Discovery.usualExtensions same complete
    have filesPerm : report.files.Perm other.files := by
      rw [files, otherFiles]
      exact dumps.map _
    have findingsPerm : report.findings.Perm other.findings := by
      rw [findings, otherFindings]
      exact dumps.flatMap_right _
    have tally := counts.tally_eq otherCounts findingsPerm
    have ordered : report.ordered = other.ordered := by
      apply Report.ordered_eq_of_perm findingsPerm
      rw [findings]
      intro f first g second
      exact findings_eq_of_sameKey (Discovery.regular_search named complete) first second
    refine ⟨filesPerm, findingsPerm, tally, Report.exitCode_perm findingsPerm, fun limit => ?_⟩
    have top : report.top limit = other.top limit := by rw [Report.top, Report.top, ordered]
    exact ⟨top, Report.table_congr tally filesPerm.length_eq top⟩

end Run

-- One dump is found through its folder, by its name and by its absolute name, and one rule is named
-- twice.
theorem run_order_overlapping :
    let v := Value.map [(.text "rules",
      .list [.text "Commenting.ClassComment", .text "Commenting.ClassComment"])]
    let set : RuleSet :=
      { RuleSet.default with rules := ["Commenting.ClassComment", "Commenting.ClassComment"] }
    let entries : List (String × FileTree ByteArray) :=
      [("a.yaml", .file "[T_CLASS]".toUTF8), ("b.yaml", .file "[T_USE, T_CLASS]".toUTF8)]
    let disk : Disk ByteArray :=
      ⟨.folder [("d", .folder entries), ("w", .folder [])], ["w"], rfl⟩
    let sources := ["../d", "../d/b.yaml", "/d/b.yaml"]
    let others := ["../d/b.yaml", "/d/b.yaml", "../d"]
    disk.tree.Named ∧ RuleSet.ofValue v = .ok set ∧ sources.Perm others ∧
      ∃ report other, run .utf8 disk sources set = .ok report ∧
        run .utf8 disk others set = .ok other ∧
        report.files = ["../d/a.yaml", "../d/b.yaml", "../d/b.yaml", "/d/b.yaml"] ∧
        report.findings.length = 8 ∧
        report.files.Perm other.files ∧ report.table (some 10) = other.table (some 10) := by
  intro v set entries disk sources others
  have named : disk.tree.Named := by
    simp only [disk, entries, FileTree.Named, FileTree.NamedIn, and_true]
    decide
  have accepted : RuleSet.ofValue v = .ok set := eq_ok_of_toOption (by decide +kernel)
  have same : sources.Perm others := by decide
  have known := RuleSet.known_of_ofValue accepted
  let a : Path := ⟨.home, ["..", "d", "a.yaml"]⟩
  let b : Path := ⟨.home, ["..", "d", "b.yaml"]⟩
  let absolute : Path := ⟨.root, ["d", "b.yaml"]⟩
  have below : Discovery.dumpsBelow Discovery.usualExtensions entries = [["a.yaml"], ["b.yaml"]] := by
    rw [Discovery.dumpsBelow, List.mergeSort_of_pairwise (by decide +kernel)]
    decide +kernel
  have searched : Discovery.search disk Discovery.usualExtensions sources =
      { dumps := [a, b, b, absolute] } := by
    have first : Path.ofText "../d" = ⟨.home, ["..", "d"]⟩ := by decide +kernel
    have second : Path.ofText "../d/b.yaml" = b := by decide +kernel
    have third : Path.ofText "/d/b.yaml" = absolute := by decide +kernel
    have folder : disk.at? ⟨.home, ["..", "d"]⟩ = .ok (some (.folder entries)) := rfl
    have single : disk.at? b = .ok (some (.file "[T_USE, T_CLASS]".toUTF8)) := rfl
    have again : disk.at? absolute = .ok (some (.file "[T_USE, T_CLASS]".toUTF8)) := rfl
    simp only [sources, Discovery.search, Discovery.dumpsAt, first, second, third, folder, single,
      again, below]
    rfl
  let one : Loaded := ⟨a, [⟨.classKw, 0, "", none⟩]⟩
  let two (p : Path) : Loaded := ⟨p, [⟨.useKw, 0, "", none⟩, ⟨.classKw, 1, "", none⟩]⟩
  have loaded : loadAll .utf8 disk [a, b, b, absolute] = .ok [one, two b, two b, two absolute] :=
    eq_ok_of_toOption (by decide +kernel)
  have ran := (run_eq_ok_iff .utf8 disk sources known _).mpr
    ⟨by rw [searched], [one, two b, two b, two absolute], by rw [searched]; exact loaded, rfl⟩
  obtain ⟨succeeds, agree⟩ := run_order .utf8 named accepted same
  obtain ⟨other, otherRan⟩ := succeeds.mp ⟨_, ran⟩
  obtain ⟨files, _, _, _, views⟩ := agree _ other ran otherRan
  exact ⟨named, accepted, same, _, other, ran, otherRan, by decide +kernel, by decide +kernel, files,
    (views (some 10)).2⟩

end DocGuard.Scan
