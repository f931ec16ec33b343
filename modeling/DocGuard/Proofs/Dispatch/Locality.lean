import DocGuard.Proofs.Dispatch.Reports
import DocGuard.Proofs.Lookback.Outcome

set_option autoImplicit false

namespace DocGuard

namespace Lookback

theorem significant?_gap {skip : SkipSet} {gap : List Kind} (skipped : Gap skip gap)
    (start rest more : List Kind) :
    significant? (start ++ gap ++ rest) (start.length + gap.length : Nat) skip =
      significant? (start ++ more) start.length skip := by
  have within : start.length + gap.length ≤ (start ++ gap ++ rest).length := by
    simp only [List.length_append]
    omega
  have cut : (start ++ gap ++ rest).take (start.length + gap.length) = start ++ gap := by
    rw [← List.length_append, List.take_left]
  have short : start.length ≤ (start ++ more).length := by
    simp only [List.length_append]
    omega
  rw [significant?_eq_from within, cut, List.reverse_append, significantFrom_gap skip skipped,
    significant?_eq_from short, List.take_left]

-- The kinds from one place up to another.
def slice (kinds : List Kind) (first stop : Nat) : List Kind := (kinds.take stop).drop first

theorem slice_eq_cons_iff {kinds rest : List Kind} {first stop : Nat} {k : Kind} :
    slice kinds first stop = k :: rest ↔
      first < stop ∧ kinds[first]? = some k ∧ between kinds first stop = rest := by
  have tail : between kinds first stop = (slice kinds first stop).tail := by
    simp [between, slice]
  have head (before : first < stop) : kinds[first]? = (slice kinds first stop).head? := by
    rw [slice, List.head?_drop, List.getElem?_take_of_lt before]
  constructor
  · intro same
    have before : first < stop := by
      have long := congrArg List.length same
      simp only [slice, List.length_drop, List.length_take, List.length_cons] at long
      omega
    rw [tail, head before, same]
    exact ⟨before, rfl, rfl⟩
  · rintro ⟨before, here, rfl⟩
    rw [head before] at here
    rw [tail]
    exact (List.cons_head?_tail here).symm

-- Nothing but the slice is asked about.
theorem significant?_eq_some_iff_slice {kinds : List Kind} {start : Nat}
    (within : start ≤ kinds.length) (skip : SkipSet) (found : Nat) :
    significant? kinds start skip = some found ↔
      ∃ k gap, slice kinds found start = k :: gap ∧ k ≠ .attrClose ∧ skip.has k = false ∧
        Gap skip gap := by
  rw [significant?_eq_some_iff within]
  constructor
  · rintro ⟨before, gap, k, here, notSkipped, notClose⟩
    exact ⟨k, _, slice_eq_cons_iff.mpr ⟨before, here, rfl⟩, notClose, notSkipped, gap⟩
  · rintro ⟨k, gap, same, notClose, notSkipped, skipped⟩
    obtain ⟨before, here, rfl⟩ := slice_eq_cons_iff.mp same
    exact ⟨before, skipped, k, here, notSkipped, notClose⟩

-- What stands before the first slice and behind the second one may differ.
theorem significant?_of_slice {kinds others : List Kind} {i j : Int} {skip : SkipSet}
    {found other : Nat} (ends : significant? kinds i skip = some found)
    (within : j ≤ others.length)
    (same : slice others other j.toNat = slice kinds found i.toNat) :
    significant? others j skip = some other ∧ others[other]? = kinds[found]? := by
  obtain ⟨n, rfl, _, short⟩ := (significant?_iff_precedes.mp ends).exists_start
  rw [significant?_eq_some_iff_slice short] at ends
  obtain ⟨k, gap, window, notClose, notSkipped, skipped⟩ := ends
  rw [Int.toNat_natCast, window] at same
  obtain ⟨before, here, _⟩ := slice_eq_cons_iff.mp same
  obtain ⟨_, there, _⟩ := slice_eq_cons_iff.mp window
  obtain ⟨m, rfl⟩ := Int.eq_ofNat_of_zero_le (by omega : 0 ≤ j)
  rw [significant?_eq_some_iff_slice (Int.ofNat_le.mp within)]
  exact ⟨⟨k, gap, same, notClose, notSkipped, skipped⟩, here.trans there.symm⟩

theorem significant?_of_start {kinds others : List Kind} {i : Int} {skip : SkipSet}
    (ends : significant? kinds i skip = none) (inside : 0 ≤ i) (within : i ≤ kinds.length)
    (long : i ≤ others.length) (same : slice others 0 i.toNat = slice kinds 0 i.toNat) :
    significant? others i skip = none := by
  obtain ⟨n, rfl⟩ := Int.eq_ofNat_of_zero_le inside
  rw [significant?_eq_from (Int.ofNat_le.mp within)] at ends
  rw [significant?_eq_from (Int.ofNat_le.mp long), ← ends]
  simpa [slice] using congrArg (significantFrom skip 0 ∘ List.reverse) same

end Lookback

open Lookback

namespace Rule

theorem documented_of_none {rule : Rule} {kinds : List Kind} {place : Int}
    (ends : significant? kinds place rule.skip = none) : rule.documented kinds place = false := by
  simp [documented, ends]

theorem documented_of_some {rule : Rule} {kinds : List Kind} {place : Int} {found : Nat}
    (ends : significant? kinds place rule.skip = some found) :
    rule.documented kinds place = (kinds[found]? == some .docClose) := by
  simp [documented, ends]

theorem documented_gap (rule : Rule) {gap : List Kind} (skipped : Gap rule.skip gap)
    (start rest : List Kind) :
    rule.documented (start ++ gap ++ rest) (start.length + gap.length : Nat) =
      rule.documented start start.length := by
  have same := significant?_gap skipped start rest []
  rw [List.append_nil] at same
  cases ends : significant? start start.length rule.skip with
  | none => rw [documented_of_none (same.trans ends), documented_of_none ends]
  | some found =>
    have within : found < start.length :=
      Int.ofNat_lt.mp (significant?_iff_precedes.mp ends).before
    rw [documented_of_some (same.trans ends), documented_of_some ends, List.append_assoc,
      List.getElem?_append_left within]

end Rule

theorem gap_irrelevant (skip : SkipSet) (start gap rest more : List Kind)
    (skipped : Gap skip gap) :
    significant? (start ++ gap ++ rest) (start.length + gap.length : Nat) skip =
      significant? (start ++ more) start.length skip ∧
    ∀ rule : Rule, rule.skip = skip → ∀ other, Gap skip other →
      rule.documented (start ++ gap ++ rest) (start.length + gap.length : Nat) =
        rule.documented (start ++ other ++ more) (start.length + other.length : Nat) := by
  refine ⟨significant?_gap skipped start rest more, ?_⟩
  rintro rule rfl other otherSkipped
  rw [rule.documented_gap skipped, rule.documented_gap otherSkipped]

-- The modifiers change places, and the blocks hold a class and a doc comment or nothing at all.
theorem gap_irrelevant_modifiers :
    let skip := Rule.classComment.skip
    let start : List Kind := [.openTag, .docClose]
    let gap : List Kind := [.finalKw, .attrOpen, .docClose, .classKw, .attrClose, .readonlyKw]
    let other : List Kind := [.attrOpen, .attrOpen, .attrClose, .attrClose, .readonlyKw, .finalKw]
    Gap skip gap ∧ Gap skip other ∧
      significant? (start ++ gap ++ [.classKw]) 8 skip = significant? (start ++ [.functionKw]) 2 skip ∧
      Rule.classComment.documented (start ++ gap ++ [.classKw]) 8 =
        Rule.classComment.documented (start ++ other ++ [.functionKw]) 8 := by
  intro skip start gap other
  have plain : Balanced [.docClose, .classKw] := .of_plain (by decide) (by decide)
  have skipped : Gap skip gap :=
    .skipped rfl (by decide) (.block (.enclose plain) (.skipped rfl (by decide) .nil))
  have nested : Gap skip other :=
    .block (.enclose (.block .nil .nil))
      (.skipped rfl (by decide) (.skipped rfl (by decide) .nil))
  have facts := gap_irrelevant skip start gap [.classKw] [.functionKw] skipped
  exact ⟨skipped, nested, facts.1, facts.2 .classComment rfl other nested⟩

def kindsOf (tokens : List Token) : List Kind := tokens.map (·.kind)

@[simp]
theorem length_kindsOf (tokens : List Token) : (kindsOf tokens).length = tokens.length :=
  List.length_map ..

theorem verdict_local (skip : SkipSet) (a b : List Token) (i : Int) :
    (∀ (found other : Nat) (j : Int), significant? (kindsOf a) i skip = some found →
      j ≤ b.length → slice (kindsOf b) other j.toNat = slice (kindsOf a) found i.toNat →
      significant? (kindsOf b) j skip = some other ∧
        ∀ rule : Rule, rule.skip = skip →
          rule.documented (kindsOf b) j = rule.documented (kindsOf a) i) ∧
    (0 ≤ i → i ≤ a.length → significant? (kindsOf a) i skip = none → i ≤ b.length →
      slice (kindsOf b) 0 i.toNat = slice (kindsOf a) 0 i.toNat →
      significant? (kindsOf b) i skip = none ∧
        ∀ rule : Rule, rule.skip = skip →
          rule.documented (kindsOf b) i = rule.documented (kindsOf a) i) := by
  constructor
  · intro found other j ends within same
    obtain ⟨otherEnds, here⟩ := significant?_of_slice ends (by simpa using within) same
    refine ⟨otherEnds, ?_⟩
    rintro rule rfl
    rw [Rule.documented_of_some ends, Rule.documented_of_some otherEnds, here]
  · intro inside within ends long same
    have otherEnds := significant?_of_start ends inside (by simpa using within)
      (by simpa using long) same
    refine ⟨otherEnds, ?_⟩
    rintro rule rfl
    rw [Rule.documented_of_none ends, Rule.documented_of_none otherEnds]

-- Both streams start with a closer that closes nothing; the block with the class is passed in both.
theorem verdict_local_shifted :
    let a : List Token := [⟨.attrClose, 0, "]", some 1⟩, ⟨.docClose, 1, "*/", some 2⟩,
      ⟨.attrOpen, 2, "#[", none⟩, ⟨.classKw, 3, "class", none⟩, ⟨.attrClose, 4, "]", none⟩,
      ⟨.classKw, 5, "class", some 3⟩]
    let b : List Token := [⟨.attrClose, 9, "", none⟩, ⟨.openTag, 0, "", none⟩,
      ⟨.docClose, 0, "", none⟩, ⟨.attrOpen, 0, "", some 8⟩, ⟨.classKw, 0, "", some 7⟩,
      ⟨.attrClose, 0, "", none⟩]
    let rule := Rule.classComment
    (significant? (kindsOf a) 5 rule.skip = some 1 ∧
      slice (kindsOf b) 2 6 = slice (kindsOf a) 1 5 ∧
      significant? (kindsOf b) 6 rule.skip = some 2 ∧
      rule.documented (kindsOf b) 6 = rule.documented (kindsOf a) 5) ∧
    significant? (kindsOf a) 1 rule.skip = none ∧
      slice (kindsOf b) 0 1 = slice (kindsOf a) 0 1 ∧
      significant? (kindsOf b) 1 rule.skip = none := by
  intro a b rule
  have ends : significant? (kindsOf a) 5 rule.skip = some 1 := by decide
  have nothing : significant? (kindsOf a) 1 rule.skip = none := by decide
  have shifted := (verdict_local rule.skip a b 5).1 1 2 6 ends (by decide) rfl
  have silent := (verdict_local rule.skip a b 1).2 (by decide) (by decide) nothing (by decide) rfl
  exact ⟨⟨ends, rfl, shifted.1, shifted.2 rule rfl⟩, nothing, rfl, silent.1⟩

end DocGuard
