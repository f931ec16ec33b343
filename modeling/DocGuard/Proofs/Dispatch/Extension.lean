import DocGuard.Proofs.Dispatch.Reports

set_option autoImplicit false

namespace DocGuard

open Lookback

theorem Rule.hasDocComment_append (rule : Rule) {kinds : List Kind} {place : Nat}
    (within : place ≤ kinds.length) (more : List Kind) :
    rule.HasDocComment (kinds ++ more) place ↔ rule.HasDocComment kinds place := by
  have same (found : Nat) (before : found < place) :
      (kinds ++ more)[found]? = kinds[found]? ∧
        between (kinds ++ more) found place = between kinds found place := by
    constructor
    · rw [List.getElem?_append_left (by omega)]
    · simp [between, List.take_append_of_le_length within]
  constructor
  · rintro ⟨found, before, closes, notSkipped, gap⟩
    obtain ⟨here, text⟩ := same found before
    exact ⟨found, before, here ▸ closes, notSkipped, text ▸ gap⟩
  · rintro ⟨found, before, closes, notSkipped, gap⟩
    obtain ⟨here, text⟩ := same found before
    exact ⟨found, before, here.symm ▸ closes, notSkipped, text.symm ▸ gap⟩

theorem Rule.documented_append (rule : Rule) {kinds : List Kind} {place : Nat}
    (within : place ≤ kinds.length) (more : List Kind) :
    rule.documented (kinds ++ more) place = rule.documented kinds place := by
  have longer : place ≤ (kinds ++ more).length := by
    simp only [List.length_append]
    omega
  rw [Bool.eq_iff_iff, rule.documented_iff longer, rule.documented_iff within,
    rule.hasDocComment_append within]

theorem Rule.hasDocComment_take (rule : Rule) {kinds : List Kind} {place : Nat}
    (within : place ≤ kinds.length) :
    rule.HasDocComment kinds place ↔
      rule.HasDocComment (kinds.take place) (kinds.take place).length := by
  have long : (kinds.take place).length = place := List.length_take_of_le within
  have cut := rule.hasDocComment_append (Nat.le_of_eq long.symm) (kinds.drop place)
  rw [List.take_append_drop] at cut
  rwa [long]

theorem Rule.hasDocComment_length_iff (rule : Rule) (text : List Kind) :
    rule.HasDocComment text text.length ↔
      ∃ found, significantFrom rule.skip 0 text.reverse = some found ∧
        text[found]? = some .docClose := by
  rw [← documented_iff rule (Nat.le_refl _), documented_eq_true_iff,
    significant?_eq_from (Nat.le_refl _), List.take_length]

theorem Rule.reports_append (rule : Rule) {kinds : List Kind} {place : Nat}
    (within : place < kinds.length) (more : List Kind) :
    rule.Reports (kinds ++ more) place ↔ rule.Reports kinds place := by
  simp only [Reports, Targets, List.getElem?_append_left within,
    rule.hasDocComment_append (Nat.le_of_lt within)]

theorem Rule.reports_next (rule : Rule) (kinds : List Kind) (k : Kind) (more : List Kind) :
    rule.Reports (kinds ++ k :: more) kinds.length ↔
      rule.targets.has k = true ∧ ¬ rule.HasDocComment kinds kinds.length := by
  simp [Reports, Targets, rule.hasDocComment_append (Nat.le_refl _)]

-- The reports at the places of `more`, counted from its start, in the stream that it continues.
def reportersFrom (rules : List Rule) (kinds more : List Kind) : List (Nat × Rule) :=
  (List.range more.length).flatMap fun offset =>
    (rules.filter fun rule => rule.Reports (kinds ++ more) (kinds.length + offset)).map fun rule =>
      (offset, rule)

def shift (distance : Nat) (report : Nat × Rule) : Nat × Rule :=
  (distance + report.1, report.2)

theorem reportersFrom_append (rules : List Rule) (kinds more rest : List Kind) :
    reportersFrom rules kinds (more ++ rest) =
      reportersFrom rules kinds more ++
        (reportersFrom rules (kinds ++ more) rest).map (shift more.length) := by
  have earlier : (List.range more.length).flatMap (fun offset =>
      (rules.filter fun rule =>
        rule.Reports (kinds ++ (more ++ rest)) (kinds.length + offset)).map fun rule =>
          (offset, rule)) = reportersFrom rules kinds more := by
    apply List.flatMap_congr
    intro offset member
    have within : kinds.length + offset < (kinds ++ more).length := by
      simpa using member
    simp only [← List.append_assoc, Rule.reports_append _ within]
  rw [reportersFrom, List.length_append, List.range_add, List.flatMap_append, earlier,
    List.flatMap_map]
  congr 1
  simp [reportersFrom, List.map_flatMap, Function.comp_def, shift, Nat.add_assoc]

theorem reporters_eq_reportersFrom (rules : List Rule) (kinds : List Kind) :
    reporters rules kinds = reportersFrom rules [] kinds := by
  simp [reporters, reportersFrom]

theorem reporters_append (rules : List Rule) (kinds more : List Kind) :
    reporters rules (kinds ++ more) =
      reporters rules kinds ++ (reportersFrom rules kinds more).map (shift kinds.length) := by
  simpa [reporters_eq_reportersFrom] using reportersFrom_append rules [] kinds more

theorem mem_reportersFrom {rules : List Rule} {kinds more : List Kind} {offset : Nat}
    {rule : Rule} : (offset, rule) ∈ reportersFrom rules kinds more ↔
      rule ∈ rules ∧ rule.Reports (kinds ++ more) (kinds.length + offset) := by
  have outside : ¬ rule.Reports kinds (kinds.length + offset) := by
    rintro ⟨⟨k, here, _⟩, _⟩
    simp at here
  rw [← mem_reporters, reporters_append, List.mem_append, mem_reporters]
  simp [outside, shift]

-- What comes before counts only through the verdicts at the new places.
theorem reportersFrom_congr {rules : List Rule} {kinds others more : List Kind}
    (same : ∀ rule ∈ rules, ∀ text rest, more = text ++ rest →
      (rule.HasDocComment (kinds ++ text) (kinds ++ text).length ↔
        rule.HasDocComment (others ++ text) (others ++ text).length)) :
    reportersFrom rules kinds more = reportersFrom rules others more := by
  apply List.flatMap_congr
  intro offset member
  have within : offset < more.length := List.mem_range.mp member
  have split : more = more.take offset ++ more[offset] :: more.drop (offset + 1) := by simp
  have next (rule : Rule) (start : List Kind) :
      rule.Reports (start ++ more) (start.length + offset) ↔
        rule.targets.has more[offset] = true ∧
          ¬ rule.HasDocComment (start ++ more.take offset) (start ++ more.take offset).length := by
    have place : start.length + offset = (start ++ more.take offset).length := by
      rw [List.length_append, List.length_take_of_le (Nat.le_of_lt within)]
    rw [← rule.reports_next _ _ (more.drop (offset + 1)), List.append_assoc, ← split, place]
  congr 1
  apply List.filter_congr
  intro rule present
  rw [decide_eq_decide, next, next, same rule present _ _ split]

theorem reporters_middle (rules : List Rule) (start : List Kind) (k : Kind) (after : List Kind) :
    reporters rules (start ++ k :: after) =
      reporters rules start ++
        (rules.filter fun rule => rule.Reports (start ++ k :: after) start.length).map
          (fun rule => (start.length, rule)) ++
        (reportersFrom rules (start ++ [k]) after).map (shift (start.length + 1)) := by
  have here : reportersFrom rules start [k] =
      (rules.filter fun rule => rule.Reports (start ++ k :: after) start.length).map
        fun rule => (0, rule) := by
    have next (rule : Rule) : rule.Reports (start ++ [k]) start.length ↔
        rule.Reports (start ++ k :: after) start.length := by
      rw [rule.reports_next, rule.reports_next]
    simp [reportersFrom, next]
  have split : k :: after = [k] ++ after := rfl
  rw [split, reporters_append, reportersFrom_append, ← split, here]
  simp [shift, Function.comp_def, Nat.add_assoc]

theorem reportersFrom_eq_nil {rules : List Rule} {kinds more : List Kind}
    (untargeted : ∀ k ∈ more, ∀ rule ∈ rules, rule.targets.has k = false) :
    reportersFrom rules kinds more = [] := by
  rw [List.eq_nil_iff_forall_not_mem]
  rintro ⟨offset, rule⟩ member
  obtain ⟨present, ⟨k, here, targeted⟩, _⟩ := mem_reportersFrom.mp member
  rw [List.getElem?_append_right (by omega)] at here
  simp [untargeted k (List.mem_of_getElem? here) rule present] at targeted

end DocGuard
