import DocGuard.CommandLine.Run
import DocGuard.Proofs.Dump.Positions
import DocGuard.Proofs.Scan.Findings

set_option autoImplicit false

namespace DocGuard

namespace Dump

-- The first entry of a dump that cannot be read has an endless line.
def Endless (v : Value) : Prop :=
  ∃ before entry after, Opens v (.list (before ++ entry :: after)) ∧
    (∀ other ∈ before, ∃ t, alone other = .ok t) ∧ HasEndlessLine entry

theorem tokens_eq_endless_iff {v : Value} : tokens v = .error .endlessLine ↔ Endless v := by
  constructor
  · intro refused
    generalize result : Except.error Fault.endlessLine = outcome at refused
    cases tokens_eq_iff_reading.mp refused with
    | null | whole => cases result
    | notList => cases result
    | @first before after entry fault opened readable fails =>
      have endless : fault = .endlessLine := by
        cases fault <;> cases result
        rfl
      subst endless
      rcases token_eq_error fails with named | ⟨_, endless⟩ | ⟨other, _⟩
      · cases named
      · exact ⟨before, entry, after, opened, readable, endless⟩
      · cases other
  · intro ⟨before, entry, after, opened, readable, endless⟩
    exact (Reading.first opened readable (token_of_endless endless 0)).tokens_eq

theorem Opens.isWritable {v inner : Value} (opened : Opens v inner) (writable : v.isWritable = true) :
    inner.isWritable = true := by
  cases opened with
  | bare => exact writable
  | wrapped held => exact Value.isWritable_of_field? writable held
  | missing => rfl

theorem isInvalidDump_of_tokens {v : Value} (writable : v.isWritable = true) {fault : Fault}
    (refused : tokens v = .error fault) :
    fault.isInvalidDump = true ∨ fault = .endlessLine := by
  generalize result : Except.error fault = outcome at refused
  cases tokens_eq_iff_reading.mp refused with
  | null | whole => cases result
  | notList =>
    cases result
    exact .inl rfl
  | @first before after entry own opened readable fails =>
    obtain rfl : fault = own.moved before.length := Except.error.inj result
    have whole := Value.areWritable_iff.mp (opened.isWritable writable) entry (by simp)
    rcases token_eq_error fails with named | ⟨rfl, _⟩ | ⟨_, long⟩
    · refine .inl ?_
      cases own with
      | noType | wrongLine | wrongEntry => rfl
      | notList | endlessLine | unwritable => cases named
    · exact .inr rfl
    · simp [whole] at long

end Dump

theorem RuleSetFile.known_of_load {A : Type} {s : Storage A} {disk : Disk A} {p : Path}
    {set : RuleSet} (loaded : load s disk p = .ok set) :
    ∀ name ∈ set.rules, (Rule.ofName? name).isSome := by
  unfold load at loaded
  split at loaded
  next v _ =>
    unfold ofDocument at loaded
    split at loaded
    next =>
      obtain rfl := Except.ok.inj loaded
      exact RuleSet.known_default
    next =>
      cases read : RuleSet.ofValue v with
      | error fault => simp [read, Except.mapError] at loaded
      | ok other =>
        obtain rfl : other = set := by simpa [read, Except.mapError] using loaded
        exact RuleSet.known_of_ofValue read
  next => cases loaded

namespace Scan

variable {A : Type} {s : Storage A} {disk : Disk A}

theorem loadAll_of_first {before : List Path}
    (loads : ∀ q ∈ before, ∃ tokens, DumpFile.load s disk q = .ok tokens) {p : Path}
    {fault : DumpFile.Fault} (fails : DumpFile.load s disk p = .error fault) (after : List Path) :
    loadAll s disk (before ++ p :: after) = .error fault := by
  induction before with
  | nil => simp [loadAll, fails]
  | cons q rest ih =>
    obtain ⟨tokens, here⟩ := loads q List.mem_cons_self
    have later := ih fun other member => loads other (List.mem_cons_of_mem _ member)
    simp [loadAll, here, later, Except.map]

theorem run_of_first {set : RuleSet} (known : ∀ name ∈ set.rules, (Rule.ofName? name).isSome)
    {sources : List String} {before after : List Path} {p : Path}
    (found : (Discovery.search disk Discovery.usualExtensions sources).dumps = before ++ p :: after)
    (loads : ∀ q ∈ before, ∃ tokens, DumpFile.load s disk q = .ok tokens)
    {fault : DumpFile.Fault} (fails : DumpFile.load s disk p = .error fault) :
    run s disk sources set = .error (.file fault) := by
  rw [run_eq s disk sources known rfl, found, loadAll_of_first loads fails]

end Scan

namespace CommandLine

variable {A : Type} {s : Storage A} {disk : Disk A}

-- A command gets as far as a dump that holds some value: its options and its rule set are in order,
-- and so are the dumps it comes to before.
inductive Reaches (s : Storage A) (disk : Disk A) (arguments : List String) (v : Value) : Prop
  | dump {chosen : Options} {place : String} {set : RuleSet} {before after : List Path} {p : Path}
      (accepted : Options.ofArguments arguments = .ok (some chosen))
      (placed : chosen.ruleset = some place)
      (loaded : RuleSetFile.load s disk (Path.ofText place) = .ok set)
      (found : (Discovery.search disk Discovery.usualExtensions
        (namedSources (chosenSources chosen))).dumps = before ++ p :: after)
      (loads : ∀ q ∈ before, ∃ tokens, DumpFile.load s disk q = .ok tokens)
      (held : s.document disk p = .ok v) : Reaches s disk arguments v

theorem Reaches.ending {arguments : List String} {v : Value} (reaches : Reaches s disk arguments v)
    {fault : Dump.Fault} (refused : Dump.tokens v = .error fault) :
    (run s disk arguments).ending = scanEnding (.file (.dump fault)) := by
  obtain @⟨chosen, place, set, before, after, p, accepted, placed, loaded, found, loads, held⟩ :=
    reaches
  have fails : DumpFile.load s disk p = .error (.dump fault) := by
    simp only [DumpFile.load, held, refused, Except.mapError]
  have stopped := Scan.run_of_first (RuleSetFile.known_of_load loaded) found loads fails
  simp only [run, accepted, scan, placed, scanUnder, loaded, stopped]

theorem scanEnding_dump (fault : Dump.Fault) :
    scanEnding (.file (.dump fault)) =
      if fault.isInvalidDump then .message ("Invalid token dump: " ++ fault.message)
      else .fault (.scan (.file (.dump fault))) := by
  have blame : (Scan.Fault.file (.dump fault)).isInvalidDump = fault.isInvalidDump := rfl
  have text : (Scan.Fault.file (.dump fault)).message = fault.message := rfl
  have said (message : String) :
      s!"Invalid token dump: {message}" = "Invalid token dump: " ++ message := rfl
  rw [scanEnding, blame, text, said]

theorem malformed_dump_reported {v : Value} (writable : v.isWritable = true) :
    (Dump.tokens v = .error .endlessLine ↔ Dump.Endless v) ∧
    (¬ Dump.Endless v → (∃ stream, Dump.tokens v = .ok stream) ∨
      ∃ fault, Dump.tokens v = .error fault ∧ fault.isInvalidDump = true) ∧
    ∀ {A : Type} (s : Storage A) (disk : Disk A) (arguments : List String),
      Reaches s disk arguments v → (∀ stream, Dump.tokens v ≠ .ok stream) →
      (Dump.Endless v → (run s disk arguments).ending =
        .fault (.scan (.file (.dump .endlessLine)))) ∧
      (¬ Dump.Endless v → ∃ fault, Dump.tokens v = .error fault ∧
        (run s disk arguments).ending = .message ("Invalid token dump: " ++ fault.message)) := by
  have outcome (other : ¬ Dump.Endless v) : (∃ stream, Dump.tokens v = .ok stream) ∨
      ∃ fault, Dump.tokens v = .error fault ∧ fault.isInvalidDump = true := by
    cases read : Dump.tokens v with
    | ok stream => exact .inl ⟨stream, rfl⟩
    | error fault =>
      rcases Dump.isInvalidDump_of_tokens writable read with own | rfl
      · exact .inr ⟨fault, rfl, own⟩
      · exact absurd (Dump.tokens_eq_endless_iff.mp read) other
  refine ⟨Dump.tokens_eq_endless_iff, outcome, ?_⟩
  intro A s disk arguments reaches malformed
  constructor
  · intro endless
    rw [reaches.ending (Dump.tokens_eq_endless_iff.mpr endless), scanEnding_dump]
    rfl
  · intro other
    obtain ⟨stream, read⟩ | ⟨fault, refused, own⟩ := outcome other
    · exact absurd read (malformed stream)
    · refine ⟨fault, refused, ?_⟩
      rw [reaches.ending refused, scanEnding_dump, if_pos own]

-- The entry with an endless line comes too late to matter.
theorem malformed_dump_reported_line :
    let tree : FileTree ByteArray := .folder
      [("a", .file "- class\n- {type: x, line: three}\n- {type: x, line: .inf}".toUTF8)]
    let disk : Disk ByteArray := ⟨tree, [], rfl⟩
    ∃ v, v.isWritable = true ∧ ¬ Dump.Endless v ∧ Reaches .utf8 disk ["-sa"] v ∧
      Dump.tokens v = .error (.wrongLine 1) ∧
      (run .utf8 disk ["-sa"]).ending =
        .message ("Invalid token dump: " ++ (Dump.Fault.wrongLine 1).message) := by
  intro tree disk
  have values : (Storage.utf8.document disk ⟨.home, ["a"]⟩).toOption.map (fun v =>
      (v.isWritable, decide (Dump.tokens v = .error (.wrongLine 1)))) = some (true, true) := by
    decide +kernel
  obtain ⟨v, read, values⟩ := Option.map_eq_some_iff.mp values
  obtain ⟨writable, faulty⟩ := Prod.mk.inj values
  have refused : Dump.tokens v = .error (.wrongLine 1) := of_decide_eq_true faulty
  have other : ¬ Dump.Endless v := by
    rw [← Dump.tokens_eq_endless_iff, refused]
    simp
  have searched : Discovery.search disk Discovery.usualExtensions ["a"] =
      { dumps := [⟨.home, ["a"]⟩] } := by
    have path : Path.ofText "a" = ⟨.home, ["a"]⟩ := by cbv
    simp only [Discovery.search, Discovery.dumpsAt, path]
    rfl
  have reaches : Reaches .utf8 disk ["-sa"] v := by
    refine @Reaches.dump _ _ _ _ _ { sources := [some "a"] } ".docsniff.yaml" .default [] []
      ⟨.home, ["a"]⟩ (eq_ok_of_toOption (by decide +kernel)) rfl
      (eq_ok_of_toOption (by decide +kernel)) ?_ (by simp) (eq_ok_of_toOption read)
    exact congrArg Discovery.Search.dumps searched
  obtain ⟨_, _, reported⟩ := malformed_dump_reported writable
  have malformed (stream : List Token) : Dump.tokens v ≠ .ok stream := by simp [refused]
  obtain ⟨fault, same, ending⟩ := (reported .utf8 disk ["-sa"] reaches malformed).2 other
  obtain rfl : .wrongLine 1 = fault := Except.error.inj (refused.symm.trans same)
  exact ⟨v, writable, other, reaches, refused, ending⟩

-- An infinite line is not a fault that the command takes for one of the dump.
theorem endless_line_escapes :
    let v := Value.list [.map
      [(.text "type", .text "T_CLASS"), (.text "line", .float (.infinite false))]]
    v.isWritable = true ∧ Dump.tokens v = .error .endlessLine ∧
      ¬ ((∃ stream, Dump.tokens v = .ok stream) ∨
        ∃ fault, Dump.tokens v = .error fault ∧ fault.isInvalidDump = true) := by
  intro v
  have refused : Dump.tokens v = .error .endlessLine := rfl
  refine ⟨rfl, refused, ?_⟩
  rintro (⟨stream, read⟩ | ⟨fault, other, own⟩)
  · cases refused.symm.trans read
  · obtain rfl := Except.error.inj (refused.symm.trans other)
    cases own

end CommandLine

end DocGuard
