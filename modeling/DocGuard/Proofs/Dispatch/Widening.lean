import DocGuard.Proofs.Dispatch.Reports
import DocGuard.Proofs.Lookback.Outcome
import DocGuard.Proofs.Lookback.Passage
import Mathlib.Data.List.Flatten
import Mathlib.Data.List.Forall2

set_option autoImplicit false

namespace DocGuard

namespace Lookback

theorem neg_one_le_numberOf (place : Option Nat) : -1 ≤ numberOf place := by
  cases place with
  | none => exact Int.le_refl _
  | some found =>
    simp only [numberOf]
    omega

-- A search does not end in a gap before its start.
theorem significant?_le_of_gap {kinds : List Kind} {start : Nat} (within : start ≤ kinds.length)
    {skip : SkipSet} {place : Nat} (before : place < start)
    (gap : Gap skip (between kinds place start)) {found : Nat}
    (ends : significant? kinds start skip = some found) : found ≤ place := by
  obtain ⟨k, here⟩ : ∃ k, kinds[place]? = some k :=
    ⟨_, List.getElem?_eq_getElem (Nat.lt_of_lt_of_le before within)⟩
  have passed : significantFrom skip 0 (kinds.take start).reverse =
      significantFrom skip 0 (k :: (kinds.take place).reverse) := by
    simpa [take_eq_between here before] using significantFrom_behind gap (kinds.take place) k []
  rw [significant?_eq_from within, passed] at ends
  have bound := significantFrom_lt ends
  simp only [List.length_cons, List.length_reverse, List.length_take] at bound
  omega

section Wider

variable {narrow wide : SkipSet} (wider : ∀ k, narrow.has k = true → wide.has k = true)
include wider

theorem Precedes.widen {kinds : List Kind} {found : Nat} {start : Int}
    (precedes : Precedes narrow kinds found start) {k : Kind} (here : kinds[found]? = some k)
    (notSkipped : wide.has k = false) : Precedes wide kinds found start := by
  obtain ⟨before, within, ⟨_, there, notClose, _⟩, gap⟩ := precedes
  obtain rfl := Option.some.inj (here.symm.trans there)
  exact ⟨before, within, ⟨k, here, notClose, notSkipped⟩, gap.mono fun k _ => wider k⟩

-- Where the narrow search ends, the wide one ends too or goes on; where it comes to nothing, what
-- it passed or met is the same for both.
theorem numberOf_significant?_le (kinds : List Kind) (start : Int) :
    numberOf (significant? kinds start wide) ≤ numberOf (significant? kinds start narrow) := by
  cases ends : significant? kinds start narrow with
  | none =>
    have nothing : significant? kinds start wide = none :=
      significant?_eq_none_iff.mpr ((significant?_eq_none_iff.mp ends).imp_right
        (Fruitless.mono fun k _ => wider k))
    exact Int.le_of_eq (congrArg numberOf nothing)
  | some found =>
    have precedes := significant?_iff_precedes.mp ends
    obtain ⟨n, rfl, before, within⟩ := precedes.exists_start
    cases further : significant? kinds n wide with
    | none => exact neg_one_le_numberOf (some found)
    | some other =>
      have gap : Gap wide (between kinds found n) := precedes.gap.mono fun k _ => wider k
      exact Int.ofNat_le.mpr (significant?_le_of_gap within before gap further)

end Wider

end Lookback

open Lookback

-- The same rule but for its name, with a larger skip set that doc comments are still not in.
structure Relaxes (lax strict : Rule) : Prop where
  targets : lax.targets = strict.targets
  code : lax.code = strict.code
  message : lax.message = strict.message
  skip : ∀ k, strict.skip.has k = true → lax.skip.has k = true
  stops : lax.skip.has .docClose = false

theorem documented_widen {narrow wide : Rule}
    (wider : ∀ k, narrow.skip.has k = true → wide.skip.has k = true)
    (stops : wide.skip.has .docClose = false) {kinds : List Kind} {place : Int}
    (documented : narrow.documented kinds place = true) : wide.documented kinds place = true := by
  rw [Rule.documented_eq_true_iff] at documented ⊢
  obtain ⟨found, ends, closes⟩ := documented
  have precedes := (significant?_iff_precedes.mp ends).widen wider closes stops
  exact ⟨found, significant?_iff_precedes.mpr precedes, closes⟩

namespace Relaxes

variable {lax strict : Rule}

theorem violation (relaxes : Relaxes lax strict) (place : Nat) :
    lax.violation place = strict.violation place := by
  simp [Rule.violation, relaxes.code, relaxes.message]

theorem reports (relaxes : Relaxes lax strict) {kinds : List Kind} {place : Nat}
    (reports : lax.Reports kinds place) : strict.Reports kinds place := by
  obtain ⟨k, here, targeted⟩ := reports.1
  rw [Rule.reports_iff _ here] at reports ⊢
  refine ⟨relaxes.targets ▸ targeted, ?_⟩
  by_contra documented
  have still := documented_widen relaxes.skip relaxes.stops (by simpa using documented)
  simp [still] at reports

end Relaxes

theorem violationsAt_sublist {lax strict : List Rule} (relaxed : List.Forall₂ Relaxes lax strict)
    (kinds : List Kind) (place : Nat) :
    ((lax.filter fun rule => rule.Reports kinds place).map fun rule => rule.violation place).Sublist
      ((strict.filter fun rule => rule.Reports kinds place).map fun rule =>
        rule.violation place) := by
  induction relaxed with
  | nil => exact .slnil
  | @cons lax strict _ _ relaxes _ ih =>
    by_cases reports : lax.Reports kinds place
    · have also := relaxes.reports reports
      simpa [reports, also, relaxes.violation] using ih
    · by_cases also : strict.Reports kinds place
      · simpa [reports, also] using ih.cons _
      · simpa [reports, also] using ih

theorem violations_sublist {lax strict : List Rule} (relaxed : List.Forall₂ Relaxes lax strict)
    (kinds : List Kind) : (violations lax kinds).Sublist (violations strict kinds) := by
  simp only [violations, reporters, List.map_flatMap, List.map_map, Function.comp_def]
  exact List.Sublist.flatMap_right _ fun place _ => violationsAt_sublist relaxed kinds place

theorem widening_monotone {narrow wide : SkipSet}
    (wider : ∀ k, narrow.has k = true → wide.has k = true) (kinds : List Kind) :
    (∀ start : Int, numberOf (significant? kinds start wide) ≤
      numberOf (significant? kinds start narrow)) ∧
    (wide.has .docClose = false → ∀ strict lax : Rule, strict.skip = narrow → lax.skip = wide →
      (∀ place : Int, strict.documented kinds place = true → lax.documented kinds place = true) ∧
      (lax.targets = strict.targets → lax.code = strict.code → lax.message = strict.message →
        ((Dispatcher.ofRules [lax]).run kinds).Sublist
          ((Dispatcher.ofRules [strict]).run kinds))) := by
  refine ⟨numberOf_significant?_le wider kinds, ?_⟩
  rintro stops strict lax rfl rfl
  refine ⟨fun place => documented_widen wider stops, ?_⟩
  intro targets code message
  rw [Dispatcher.run_ofRules, Dispatcher.run_ofRules]
  exact violations_sublist (.cons ⟨targets, code, message, wider, stops⟩ .nil) kinds

-- The wider search goes past `abstract` to the comment; both stop at the comment behind it.
theorem widening_monotone_abstract :
    let kinds : List Kind := [.docClose, .abstractKw, .classKw, .docClose, .attrOpen, .attrClose,
      .finalKw, .classKw]
    let strict := { Rule.classComment with skip := .ofList [.finalKw] }
    let lax := Rule.classComment
    (∀ k, strict.skip.has k = true → lax.skip.has k = true) ∧ lax.skip.has .docClose = false ∧
      numberOf (significant? kinds 2 lax.skip) ≤ numberOf (significant? kinds 2 strict.skip) ∧
      strict.documented kinds 7 = true ∧ lax.documented kinds 7 = true ∧
      ((Dispatcher.ofRules [lax]).run kinds).Sublist ((Dispatcher.ofRules [strict]).run kinds) := by
  intro kinds strict lax
  have wider : ∀ k, strict.skip.has k = true → lax.skip.has k = true := by
    intro k
    cases k <;> decide
  have documented : strict.documented kinds 7 = true := by decide
  obtain ⟨search, verdicts⟩ := widening_monotone wider kinds
  obtain ⟨kept, fewer⟩ := verdicts rfl strict lax rfl rfl
  exact ⟨wider, rfl, search 2, documented, kept 7 documented, fewer rfl rfl rfl⟩

-- A search that skips doc comments too no longer finds them.
example :
    let rule := Rule.classComment
    let blind := { rule with skip := .ofList [.docClose] }
    rule.documented [.docClose, .classKw] 1 = true ∧
      blind.documented [.docClose, .classKw] 1 = false := by
  decide

end DocGuard
