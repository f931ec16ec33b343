import DocGuard.Proofs.Report.Listing
import DocGuard.Proofs.Report.Views

set_option autoImplicit false

namespace DocGuard

-- The queues are emptied in some order, each from its front.
inductive Interleaved {A : Type} : List (List A) → List A → Prop
  | done {queues : List (List A)} (empty : ∀ queue ∈ queues, queue = []) : Interleaved queues []
  | next {before after : List (List A)} {head : A} {queue turns : List A}
      (rest : Interleaved (before ++ queue :: after) turns) :
      Interleaved (before ++ (head :: queue) :: after) (head :: turns)

namespace Interleaved

variable {A : Type} {queues : List (List A)} {turns : List A}

theorem perm (interleaved : Interleaved queues turns) : turns.Perm queues.flatten := by
  induction interleaved with
  | done empty => rw [List.flatten_eq_nil_iff.mpr empty]
  | @next before after head queue turns _ ih =>
    have split : (before ++ (head :: queue) :: after).flatten =
        before.flatten ++ head :: (queue ++ after.flatten) := by
      simp
    rw [split]
    have moved : (head :: (before.flatten ++ (queue ++ after.flatten))).Perm
        (before.flatten ++ head :: (queue ++ after.flatten)) := List.perm_middle.symm
    exact (ih.cons head).trans (by simpa using moved)

-- No two queues share a key.
def Apart {K : Type} (key : A → K) (queues : List (List A)) : Prop :=
  queues.Pairwise fun queue other => ∀ a ∈ queue, ∀ b ∈ other, key a ≠ key b

theorem Apart.pop {K : Type} {key : A → K} {before after : List (List A)} {head : A}
    {queue : List A} (apart : Apart key (before ++ (head :: queue) :: after)) :
    Apart key (before ++ queue :: after) := by
  rw [Apart, List.pairwise_append, List.pairwise_cons] at apart ⊢
  obtain ⟨beforeApart, ⟨queueApart, afterApart⟩, across⟩ := apart
  refine ⟨beforeApart, ⟨?_, afterApart⟩, ?_⟩
  · exact fun other member a inside => queueApart other member a (List.mem_cons_of_mem _ inside)
  · intro early member late lateMember a inside b present
    rcases List.mem_cons.mp lateMember with rfl | later
    · exact across early member _ List.mem_cons_self a inside b (List.mem_cons_of_mem _ present)
    · exact across early member late (List.mem_cons_of_mem _ later) a inside b present

-- What one queue alone holds comes in the order of that queue.
theorem filter_key {K : Type} [DecidableEq K] {key : A → K} (interleaved : Interleaved queues turns)
    (apart : Apart key queues) (k : K) :
    (turns.filter fun a => key a = k) = queues.flatten.filter fun a => key a = k := by
  induction interleaved with
  | done empty => rw [List.flatten_eq_nil_iff.mpr empty]
  | @next before after head queue turns _ ih =>
    have shorter := ih apart.pop
    obtain ⟨_, _, across⟩ := List.pairwise_append.mp apart
    simp only [List.flatten_append, List.flatten_cons, List.filter_append, List.filter_cons]
      at shorter ⊢
    by_cases same : key head = k
    · have earlier : (before.flatten.filter fun a => key a = k) = [] := by
        rw [List.filter_eq_nil_iff]
        intro a inside
        obtain ⟨early, member, present⟩ := List.mem_flatten.mp inside
        have differs := across early member _ List.mem_cons_self a present head List.mem_cons_self
        simpa [same] using differs
      rw [earlier] at shorter ⊢
      simp [same, shorter]
    · simp [same, shorter]

end Interleaved

-- A call on a report: a file is entered, or its sink reports.
inductive Call
  | enter (sink : Sink)
  | report (sink : Sink) (violation : Violation)

namespace Call

def path : Call → String
  | .enter sink | .report sink _ => sink.path

def findings : Call → List Finding
  | .enter _ => []
  | .report sink v => (sink.finding? v.position v.message v.code).toList

theorem path_of_mem_findings {call : Call} {f : Finding} (member : f ∈ call.findings) :
    f.path = call.path := by
  cases call with
  | enter sink => simp [findings] at member
  | report sink v =>
    rw [findings, Option.mem_toList, Sink.finding?] at member
    split at member
    next => simp at member
    next =>
      obtain rfl := Option.some.inj member
      rfl

theorem filter_path_findings (call : Call) (path : String) :
    (call.findings.filter fun f => f.path = path) =
      if call.path = path then call.findings else [] := by
  split
  next same =>
    rw [List.filter_eq_self]
    intro f member
    simp [path_of_mem_findings member, same]
  next other =>
    rw [List.filter_eq_nil_iff]
    intro f member
    simp [path_of_mem_findings member, other]

def entered? : Call → Option String
  | .enter sink => some sink.path
  | .report _ _ => none

end Call

-- All that happens to one file: it is entered, and then its sink reports.
structure Script where
  sink : Sink
  violations : List Violation

namespace Script

def calls (script : Script) : List Call :=
  .enter script.sink :: script.violations.map (.report script.sink)

def findings (script : Script) : List Finding :=
  script.violations.filterMap fun v => script.sink.finding? v.position v.message v.code

theorem path_of_mem_calls {script : Script} {call : Call} (member : call ∈ script.calls) :
    call.path = script.sink.path := by
  rcases List.mem_cons.mp member with rfl | later
  · rfl
  · obtain ⟨v, _, rfl⟩ := List.mem_map.mp later
    rfl

theorem flatMap_findings_calls (script : Script) :
    script.calls.flatMap Call.findings = script.findings := by
  simp [calls, findings, List.flatMap_map, Call.findings, List.filterMap_eq_flatMap_toList]

def Distinct (scripts : List Script) : Prop :=
  (scripts.map fun script => script.sink.path).Nodup

theorem Distinct.apart {scripts : List Script} (distinct : Distinct scripts) :
    Interleaved.Apart Call.path (scripts.map calls) := by
  rw [Interleaved.Apart, List.pairwise_map]
  refine (List.pairwise_map.mp distinct).imp fun {script other} differ a inside b present => ?_
  rw [path_of_mem_calls inside, path_of_mem_calls present]
  exact differ

theorem Distinct.filter_path {scripts : List Script} (distinct : Distinct scripts) {script : Script}
    (member : script ∈ scripts) :
    ((scripts.map calls).flatten.filter fun call => call.path = script.sink.path) =
      script.calls := by
  induction scripts with
  | nil => simp at member
  | cons first rest ih =>
    obtain ⟨fresh, others⟩ := List.nodup_cons.mp distinct
    have own : (first.calls.filter fun call => call.path = first.sink.path) = first.calls := by
      rw [List.filter_eq_self]
      intro call inside
      simp [path_of_mem_calls inside]
    have foreign {script other : Script} (differ : other.sink.path ≠ script.sink.path) :
        (other.calls.filter fun call => call.path = script.sink.path) = [] := by
      rw [List.filter_eq_nil_iff]
      intro call inside
      simpa [path_of_mem_calls inside] using differ
    rw [List.map_cons, List.flatten_cons, List.filter_append]
    rcases List.mem_cons.mp member with rfl | later
    · have none : ((rest.map calls).flatten.filter fun call => call.path = script.sink.path) = [] := by
        rw [← List.flatMap_def, List.filter_flatMap, List.flatMap_eq_nil_iff]
        intro other present
        apply foreign
        exact fun same => fresh (List.mem_map.mpr ⟨other, present, same⟩)
      rw [own, none, List.append_nil]
    · have differ : first.sink.path ≠ script.sink.path :=
        fun same => fresh (List.mem_map.mpr ⟨script, later, same.symm⟩)
      rw [foreign differ, ih others later, List.nil_append]

end Script

namespace Report

def call (r : Report) : Call → Report
  | .enter sink => r.enter sink.path
  | .report sink v => r.record sink v.position v.message v.code

def ofCalls (calls : List Call) : Report := calls.foldl call {}

theorem call_findings (r : Report) (next : Call) :
    (r.call next).findings = r.findings ++ next.findings := by
  cases next with
  | enter sink => simp [call, enter, Call.findings]
  | report sink v => exact record_findings r sink v.position v.message v.code

theorem call_files (r : Report) (next : Call) :
    (r.call next).files = r.files ++ next.entered?.toList := by
  cases next with
  | enter sink => rfl
  | report sink v => simp [call, record_files, Call.entered?]

theorem Counts.call {start : Tally} {r : Report} (counts : Counts start r) (next : Call) :
    Counts start (r.call next) := by
  cases next with
  | enter sink => exact counts.enter sink.path
  | report sink v => exact counts.record sink v.position v.message v.code

-- What is known of a report after some calls.
structure Holds (calls : List Call) (r : Report) : Prop where
  findings : r.findings = calls.flatMap Call.findings
  files : r.files = calls.filterMap Call.entered?
  counts : r.Counts {}

theorem holds_ofCalls (calls : List Call) : Holds calls (ofCalls calls) := by
  induction calls using List.reverseRecOn with
  | nil => exact ⟨rfl, rfl, counts_empty⟩
  | append_singleton calls next ih =>
    rw [ofCalls, List.foldl_append]
    change Holds (calls ++ [next]) ((ofCalls calls).call next)
    constructor
    · simp [call_findings, ih.findings]
    · cases entered : next.entered? <;> simp [call_files, ih.files, entered]
    · exact ih.counts.call next

theorem Holds.filter_path {calls : List Call} {r : Report} (holds : Holds calls r) (path : String) :
    (r.findings.filter fun f => f.path = path) =
      (calls.filter fun call => call.path = path).flatMap Call.findings := by
  rw [holds.findings]
  clear holds
  induction calls with
  | nil => rfl
  | cons call rest ih =>
    by_cases same : call.path = path <;> simp [Call.filter_path_findings, ih, same]

theorem interleaving_hidden {scripts : List Script} (distinct : Script.Distinct scripts)
    {calls others : List Call} (first : Interleaved (scripts.map Script.calls) calls)
    (second : Interleaved (scripts.map Script.calls) others) :
    let report := ofCalls calls
    let other := ofCalls others
    (report.tally = other.tally ∧ report.passed = other.passed ∧
      report.exitCode = other.exitCode) ∧
    (∀ limit, report.top limit = other.top limit ∧ report.table limit = other.table limit) ∧
    report.findings.Perm other.findings ∧
    (∀ path, (report.findings.filter fun f => f.path = path) =
      other.findings.filter fun f => f.path = path) ∧
    ∀ script ∈ scripts, (report.findings.filter fun f => f.path = script.sink.path) =
      script.findings := by
  intro report other
  have holds : Holds calls report := holds_ofCalls calls
  have otherHolds : Holds others other := holds_ofCalls others
  have turns : calls.Perm others := first.perm.trans second.perm.symm
  have findings : report.findings.Perm other.findings := by
    rw [holds.findings, otherHolds.findings]
    exact turns.flatMap_right _
  have files : report.files.length = other.files.length := by
    rw [holds.files, otherHolds.files]
    exact (turns.filterMap _).length_eq
  have paths (path : String) : (report.findings.filter fun f => f.path = path) =
      other.findings.filter fun f => f.path = path := by
    rw [holds.filter_path, otherHolds.filter_path, first.filter_key distinct.apart,
      second.filter_key distinct.apart]
  have tally : report.tally = other.tally := holds.counts.tally_eq otherHolds.counts findings
  refine ⟨⟨tally, ?_, exitCode_perm findings⟩, ?_, findings, paths, ?_⟩
  · rw [passed, passed, tally]
  · intro limit
    have top : report.top limit = other.top limit := by
      rw [Report.top, Report.top, ordered_eq_of_paths paths]
    exact ⟨top, table_congr tally files top⟩
  · intro script member
    rw [holds.filter_path, first.filter_key distinct.apart, distinct.filter_path member,
      script.flatMap_findings_calls]

-- The first file reports one place twice, so its two findings tie in the listing.
theorem interleaving_hidden_tie :
    let a : Sink :=
      { path := "a", tokens := [⟨.other, 0, "", some 7⟩], ruleNames := [], severities := [],
        excluded := [] }
    let b : Sink :=
      { path := "b", tokens := [], ruleNames := [], severities := [("X", .warning)],
        excluded := ["Y"] }
    let scripts : List Script :=
      [⟨a, [⟨0, "one", "X"⟩, ⟨0, "two", "X"⟩]⟩, ⟨b, [⟨-1, "kept", "X"⟩, ⟨0, "left out", "Y"⟩]⟩]
    let calls : List Call :=
      [.enter a, .report a ⟨0, "one", "X"⟩, .report a ⟨0, "two", "X"⟩, .enter b,
        .report b ⟨-1, "kept", "X"⟩, .report b ⟨0, "left out", "Y"⟩]
    let others : List Call :=
      [.enter b, .enter a, .report b ⟨-1, "kept", "X"⟩, .report a ⟨0, "one", "X"⟩,
        .report b ⟨0, "left out", "Y"⟩, .report a ⟨0, "two", "X"⟩]
    Script.Distinct scripts ∧ Interleaved (scripts.map Script.calls) calls ∧
      Interleaved (scripts.map Script.calls) others ∧
      (ofCalls calls).findings ≠ (ofCalls others).findings ∧
      (ofCalls calls).findings.Perm (ofCalls others).findings ∧
      (ofCalls calls).table (some 2) = (ofCalls others).table (some 2) ∧
      ((ofCalls others).findings.filter fun f => f.path = "a") =
        [⟨"a", 0, some 7, "X", "one", "", .error⟩, ⟨"a", 0, some 7, "X", "two", "", .error⟩] := by
  intro a b scripts calls others
  have distinct : Script.Distinct scripts := by
    simp only [Script.Distinct, scripts]
    decide
  have done : @Interleaved Call [[], []] [] := .done (by simp)
  have first : Interleaved (scripts.map Script.calls) calls := by
    exact @Interleaved.next _ [] [_] _ _ _ (@Interleaved.next _ [] [_] _ _ _
      (@Interleaved.next _ [] [_] _ _ _ (@Interleaved.next _ [_] [] _ _ _
        (@Interleaved.next _ [_] [] _ _ _ (@Interleaved.next _ [_] [] _ _ _ done)))))
  have second : Interleaved (scripts.map Script.calls) others := by
    exact @Interleaved.next _ [_] [] _ _ _ (@Interleaved.next _ [] [_] _ _ _
      (@Interleaved.next _ [_] [] _ _ _ (@Interleaved.next _ [] [_] _ _ _
        (@Interleaved.next _ [_] [] _ _ _ (@Interleaved.next _ [] [_] _ _ _ done)))))
  obtain ⟨_, views, perm, _, _⟩ := interleaving_hidden distinct first second
  obtain ⟨_, _, _, _, own⟩ := interleaving_hidden distinct second first
  have listed := own scripts[0] List.mem_cons_self
  exact ⟨distinct, first, second, by decide, perm, (views (some 2)).2, listed.trans (by decide)⟩

end Report

end DocGuard
