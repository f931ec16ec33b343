import DocGuard.Proofs.Dispatch.Extension
import DocGuard.Proofs.Dispatch.Stock
import DocGuard.Proofs.Lookback.Passage

set_option autoImplicit false

namespace DocGuard

open Lookback

namespace Rule

theorem hasDocComment_of_docClose (rule : Rule) (notSkipped : rule.skip.has .docClose = false)
    {text : List Kind} (closes : text.getLast? = some .docClose) :
    rule.HasDocComment text text.length := by
  obtain ⟨before, rfl⟩ := List.getLast?_eq_some_iff.mp closes
  rw [hasDocComment_length_iff]
  refine ⟨before.length, ?_, by simp⟩
  rw [List.reverse_append, List.reverse_singleton, List.singleton_append,
    significantFrom_stop rule.skip notSkipped (by decide), List.length_reverse]

-- A later search that comes to the declaration from outside all blocks ends there; one that comes
-- to it from inside a block passes the comment as it passes everything else in the block.
theorem hasDocComment_insert (rule : Rule) {start comment after : List Kind} {k : Kind}
    (balanced : Balanced comment) (notSkipped : rule.skip.has k = false) (notOpen : k ≠ .attrOpen)
    (notClose : k ≠ .attrClose) :
    rule.HasDocComment (start ++ comment ++ k :: after) (start ++ comment ++ k :: after).length ↔
      rule.HasDocComment (start ++ k :: after) (start ++ k :: after).length := by
  have reversed (base : List Kind) :
      (base ++ k :: after).reverse = after.reverse ++ k :: base.reverse := by
    simp
  simp only [hasDocComment_length_iff, reversed]
  cases passage rule.skip 0 after.reverse with
  | ends left stop right split result =>
    have text : after = right.reverse ++ stop :: left.reverse := by
      simpa using congrArg List.reverse split
    have verdict (base : List Kind) :
        (base ++ k :: after)[right.length + (k :: base.reverse).length]? = some stop := by
      have place :
          right.length + (k :: base.reverse).length = base.length + (right.length + 1) := by
        simp only [List.length_cons, List.length_reverse]
        omega
      rw [place, List.getElem?_append_right (by omega), Nat.add_sub_cancel_left, text]
      simp
    simp only [result, verdict, Option.some.injEq, exists_eq_left']
  | leaves inner result =>
    cases inner with
    | zero =>
      have verdict (base : List Kind) :
          significantFrom rule.skip 0 (k :: base.reverse) = some base.length := by
        rw [significantFrom_stop rule.skip notSkipped notClose, List.length_reverse]
      have here (base : List Kind) : (base ++ k :: after)[base.length]? = some k := by simp
      simp only [result, verdict, here, Option.some.injEq, exists_eq_left']
    | succ depth =>
      have passed (base : List Kind) : significantFrom rule.skip (depth + 1) (k :: base.reverse) =
          significantFrom rule.skip (depth + 1) base.reverse :=
        significantFrom_plain rule.skip depth notOpen notClose base.reverse
      have comments : significantFrom rule.skip (depth + 1) (start ++ comment).reverse =
          significantFrom rule.skip (depth + 1) start.reverse := by
        rw [List.reverse_append]
        exact significantFrom_balanced rule.skip balanced depth start.reverse
      simp only [result, passed, comments]
      apply exists_congr
      intro found
      apply and_congr_right
      intro ends
      have within : found < start.length := by simpa using significantFrom_lt ends
      rw [List.append_assoc, List.getElem?_append_left within, List.getElem?_append_left within]

theorem documented_behind (rule : Rule) (start : List Kind) (k : Kind) {after : List Kind}
    {offset : Nat} (within : offset ≤ after.length) :
    rule.documented (start ++ k :: after) (start.length + 1 + offset : Nat) = true ↔
      rule.HasDocComment (start ++ k :: after.take offset)
        (start ++ k :: after.take offset).length := by
  have inside : start.length + 1 + offset ≤ (start ++ k :: after).length := by
    simp only [List.length_append, List.length_cons]
    omega
  have cut : (start ++ k :: after).take (start.length + 1 + offset) =
      start ++ k :: after.take offset := by
    rw [Nat.add_assoc, Nat.add_comm 1, List.take_length_add_append, List.take_succ_cons]
  rw [documented_iff rule inside, hasDocComment_take rule inside, cut]

end Rule

-- What a doc comment must not hold if it is to concern the declaration behind it alone.
def Plain (comment : List Kind) : Prop :=
  ∀ k ∈ comment, k ∉ declarations ∧ k ≠ .attrOpen ∧ k ≠ .attrClose

theorem Plain.balanced {comment : List Kind} (plain : Plain comment) : Balanced comment :=
  .of_plain (fun member => (plain _ member).2.1 rfl) fun member => (plain _ member).2.2 rfl

theorem stock_hasDocComment_insert {rule : Rule} (member : rule ∈ Rule.stock) {k : Kind}
    (declared : k ∈ declarations) {comment : List Kind} (plain : Plain comment)
    (start after : List Kind) :
    rule.HasDocComment (start ++ comment ++ k :: after) (start ++ comment ++ k :: after).length ↔
      rule.HasDocComment (start ++ k :: after) (start ++ k :: after).length := by
  have outside : ∀ k ∈ declarations, k ≠ .attrOpen ∧ k ≠ .attrClose := by decide
  exact rule.hasDocComment_insert plain.balanced (stock_skip_declaration rule member k declared)
    (outside k declared).1 (outside k declared).2

theorem stock_documented_behind {rule : Rule} (member : rule ∈ Rule.stock) {k : Kind}
    (declared : k ∈ declarations) {comment : List Kind} (plain : Plain comment)
    (start : List Kind) {after : List Kind} {place : Nat} (behind : start.length < place)
    (within : place ≤ (start ++ k :: after).length) :
    rule.documented (start ++ comment ++ k :: after) (place + comment.length : Nat) =
      rule.documented (start ++ k :: after) place := by
  obtain ⟨offset, rfl⟩ := Nat.exists_eq_add_of_le behind
  have inside : offset ≤ after.length := by
    simp only [List.length_append, List.length_cons] at within
    omega
  have moved :
      start.length + 1 + offset + comment.length = (start ++ comment).length + 1 + offset := by
    simp only [List.length_append]
    omega
  rw [Bool.eq_iff_iff, moved, rule.documented_behind _ k inside, rule.documented_behind _ k inside]
  exact stock_hasDocComment_insert member declared plain start (after.take offset)

-- The reports before the comment stay, those behind it move, and the declaration is silent.
theorem reporters_insert {start comment after : List Kind} {k : Kind} (declared : k ∈ declarations)
    (closes : comment.getLast? = some .docClose) (plain : Plain comment) :
    reporters Rule.stock (start ++ comment ++ k :: after) =
      reporters Rule.stock start ++
        (reportersFrom Rule.stock (start ++ [k]) after).map
          (shift (start.length + comment.length + 1)) := by
  have untargeted : reportersFrom Rule.stock start comment = [] := by
    apply reportersFrom_eq_nil
    intro k member rule present
    by_contra targeted
    exact (plain k member).1 (mem_declarations present (by simpa using targeted))
  have silent : (Rule.stock.filter fun rule =>
      rule.Reports (start ++ comment ++ k :: after) (start ++ comment).length) = [] := by
    apply List.filter_eq_nil_iff.mpr
    intro rule present
    have last : (start ++ comment).getLast? = some .docClose := by simp [closes]
    have documented := rule.hasDocComment_of_docClose (stock_skip_docClose rule present) last
    rw [decide_eq_true_eq, rule.reports_next]
    exact fun reports => reports.2 documented
  have moved : reportersFrom Rule.stock (start ++ comment ++ [k]) after =
      reportersFrom Rule.stock (start ++ [k]) after := by
    apply reportersFrom_congr
    intro rule present text rest _
    simpa using stock_hasDocComment_insert present declared plain start text
  rw [reporters_middle, reporters_append, untargeted, silent, moved]
  simp

theorem exists_reporter_of_run {kinds : List Kind} {place : Nat}
    (reported : ∃ v ∈ (Dispatcher.ofRules Rule.stock).run kinds, v.position = place) :
    ∃ rule ∈ Rule.stock, rule.Reports kinds place := by
  obtain ⟨v, member, position⟩ := reported
  rw [Dispatcher.run_ofRules, violations, List.mem_map] at member
  obtain ⟨⟨found, rule⟩, reports, rfl⟩ := member
  obtain rfl : found = place := Int.ofNat.inj position
  exact ⟨rule, mem_reporters.mp reports⟩

theorem repair_exact {rules : List Rule} (same : rules.Perm Rule.stock) (kinds : List Kind)
    (place : Nat) (reported : ∃ v ∈ (Dispatcher.ofRules rules).run kinds, v.position = place)
    (comment : List Kind) (closes : comment.getLast? = some .docClose) (plain : Plain comment) :
    let edited := kinds.take place ++ comment ++ kinds.drop place
    (∃ earlier v later, (Dispatcher.ofRules rules).run kinds = earlier ++ v :: later ∧
      v.position = (place : Int) ∧ (∀ w ∈ earlier, w.position < (place : Int)) ∧
      (∀ w ∈ later, (place : Int) < w.position) ∧
      (Dispatcher.ofRules rules).run edited = earlier ++ later.map fun w =>
        { w with position := w.position + comment.length }) ∧
    ∀ rule ∈ rules,
      (∀ j : Nat, j < place → rule.documented edited j = rule.documented kinds j) ∧
      ∀ j : Nat, place < j → j ≤ kinds.length →
        rule.documented edited (j + comment.length : Nat) = rule.documented kinds j := by
  simp only [Dispatcher.run_perm_stock same] at reported ⊢
  obtain ⟨reporter, present, reports⟩ := exists_reporter_of_run reported
  obtain ⟨k, here, targeted⟩ := reports.1
  have declared := mem_declarations present targeted
  obtain ⟨within, rfl⟩ := List.getElem?_eq_some_iff.mp here
  obtain ⟨start, after, split, rfl⟩ : ∃ start after, kinds = start ++ kinds[place] :: after ∧
      start.length = place :=
    ⟨kinds.take place, kinds.drop (place + 1), by simp, by simp; omega⟩
  generalize kinds[start.length] = k at split declared targeted
  subst split
  have unedited : (start ++ k :: after).take start.length ++ comment ++
      (start ++ k :: after).drop start.length = start ++ comment ++ k :: after := by
    simp
  simp only [unedited]
  constructor
  · refine ⟨(reporters Rule.stock start).map fun report => report.2.violation report.1,
      reporter.violation start.length,
      ((reportersFrom Rule.stock (start ++ [k]) after).map (shift (start.length + 1))).map
        fun report => report.2.violation report.1, ?_, rfl, ?_, ?_, ?_⟩
    · rw [Dispatcher.run_ofRules, violations, reporters_middle,
        filter_reports_stock present reports]
      simp
    · intro w member
      obtain ⟨⟨place, rule⟩, earlier, rfl⟩ := List.mem_map.mp member
      obtain ⟨_, inside, _⟩ := (mem_reporters.mp earlier).2.1
      exact Int.ofNat_lt.mpr (List.getElem?_eq_some_iff.mp inside).1
    · intro w member
      obtain ⟨_, moved, rfl⟩ := List.mem_map.mp member
      obtain ⟨⟨offset, rule⟩, _, rfl⟩ := List.mem_map.mp moved
      simp only [shift, Rule.violation]
      omega
    · rw [Dispatcher.run_ofRules, violations, reporters_insert declared closes plain]
      simp only [List.map_append, List.map_map]
      congr 2
      funext report
      simp only [Function.comp_apply, shift, Rule.violation, Violation.mk.injEq, and_true]
      omega
  · intro rule member
    constructor
    · intro j before
      rw [List.append_assoc, rule.documented_append (Nat.le_of_lt before),
        rule.documented_append (Nat.le_of_lt before)]
    · intro j behind bound
      exact stock_documented_behind (same.mem_iff.mp member) declared plain start behind bound

-- The repaired class stands in a block that the search from the function steps over.
theorem repair_exact_nested :
    let kinds : List Kind := [.attrOpen, .classKw, .attrClose, .functionKw]
    let comment : List Kind := [.docOpen, .docClose]
    let d := Dispatcher.ofRules Rule.stock
    (∃ v ∈ d.run kinds, v.position = 1) ∧ Plain comment ∧
      ∃ earlier v later, d.run kinds = earlier ++ v :: later ∧ v.position = 1 ∧
        (∀ w ∈ earlier, w.position < 1) ∧ (∀ w ∈ later, 1 < w.position) ∧
        d.run [.attrOpen, .docOpen, .docClose, .classKw, .attrClose, .functionKw] =
          earlier ++ later.map fun w => { w with position := w.position + comment.length } := by
  intro kinds comment d
  have reported : ∃ v ∈ d.run kinds, v.position = 1 := by decide
  have plain : Plain comment := by simp [Plain, comment, declarations]
  exact ⟨reported, plain, (repair_exact (.refl _) kinds 1 reported comment rfl plain).1⟩

end DocGuard
