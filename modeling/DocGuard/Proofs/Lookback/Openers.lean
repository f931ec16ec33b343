import DocGuard.Proofs.Lookback.Outcome

set_option autoImplicit false

namespace DocGuard.Lookback

-- What may stand in a block beside other blocks.
def allButOpener : SkipSet where
  has k := k != .attrOpen
  has_whitespace := rfl

theorem gap_allButOpener_iff {text : List Kind} : Gap allButOpener text ↔ Balanced text := by
  constructor
  · intro gap
    induction gap with
    | nil => exact .nil
    | skipped has notClose _ ih => exact .plain (by simpa [allButOpener] using has) notClose ih
    | block complete _ ih =>
      cases complete with
      | enclose inside => simpa using Balanced.block inside ih
  · intro balanced
    induction balanced with
    | nil => exact .nil
    | plain notOpen notClose _ ih => exact .skipped (by simpa [allButOpener] using notOpen) notClose ih
    | block inside _ _ ih => simpa using Gap.block (.enclose inside) ih

theorem openerFrom_plain (depth : Int) {k : Kind} (notOpen : k ≠ .attrOpen)
    (notClose : k ≠ .attrClose) (before : List Kind) :
    openerFrom depth (k :: before) = openerFrom depth before := by
  cases k <;> first | rfl | contradiction

theorem openerFrom_leave (depth : Nat) (before : List Kind) :
    openerFrom ((depth + 1 : Nat) + 1) (.attrOpen :: before) = openerFrom (depth + 1) before := by
  have inside : ((depth + 1 : Nat) : Int) + 1 - 1 ≠ 0 := by omega
  rw [openerFrom, if_neg inside]
  congr 1
  omega

-- The closer at which the count starts is one block more than the search is in.
theorem openerFrom_eq_significantFrom (depth : Nat) (before : List Kind) :
    openerFrom (depth + 1) before = significantFrom allButOpener depth before := by
  fun_induction significantFrom allButOpener depth before with
  | case1 => rfl
  | case2 before ih => exact ih
  | case3 k before notClose has ih =>
    have notOpen : k ≠ .attrOpen := by simpa [allButOpener] using has
    rw [openerFrom_plain _ notOpen notClose, ih]
  | case4 k before notClose has =>
    obtain rfl : k = .attrOpen := by simpa [allButOpener] using has
    rfl
  | case5 depth before ih => exact ih
  | case6 depth before ih => rw [openerFrom_leave, ih]
  | case7 depth k before notClose notOpen ih => rw [openerFrom_plain _ notOpen notClose, ih]

theorem opener?_eq_significant? {kinds : List Kind} {stop : Nat}
    (closes : kinds[stop]? = some .attrClose) :
    opener? kinds stop = significant? kinds stop allButOpener := by
  obtain ⟨within, _⟩ := List.getElem?_eq_some_iff.mp closes
  have inside : ¬((stop : Int) < 0 ∨ (kinds.length : Int) ≤ stop) := by omega
  have cut : (kinds.take (stop + 1)).reverse = .attrClose :: (kinds.take stop).reverse := by
    rw [List.take_add_one, closes]
    simp
  rw [significant?_eq_from (Nat.le_of_lt within), ← openerFrom_eq_significantFrom 0, opener?,
    if_neg inside, Int.toNat_natCast, cut]
  rfl

theorem opener?_eq_some_iff {kinds : List Kind} {stop : Nat}
    (closes : kinds[stop]? = some .attrClose) (found : Nat) :
    opener? kinds stop = some found ↔
      found < stop ∧ kinds[found]? = some .attrOpen ∧ Balanced (between kinds found stop) := by
  have within : stop ≤ kinds.length := Nat.le_of_lt (List.getElem?_eq_some_iff.mp closes).1
  rw [opener?_eq_significant? closes, significant?_eq_some_iff within, gap_allButOpener_iff]
  constructor
  · rintro ⟨before, inside, k, here, notSkipped, _⟩
    obtain rfl : k = .attrOpen := by simpa [allButOpener] using notSkipped
    exact ⟨before, here, inside⟩
  · rintro ⟨before, here, inside⟩
    exact ⟨before, inside, _, here, rfl, by decide⟩

-- Every closer has its opener in the text.
def Opened (text : List Kind) : Prop :=
  ∀ stop : Nat, text[stop]? = some .attrClose → opener? text stop ≠ none

namespace Opened

theorem left {text rest : List Kind} (opened : Opened (text ++ rest)) : Opened text := by
  intro stop closes
  obtain ⟨within, _⟩ := List.getElem?_eq_some_iff.mp closes
  have found := opened stop (by rwa [List.getElem?_append_left within])
  have inside : ¬((stop : Int) < 0 ∨ (text.length : Int) ≤ stop) := by omega
  have longer : ¬((stop : Int) < 0 ∨ ((text ++ rest).length : Int) ≤ stop) := by
    simp only [List.length_append]
    omega
  rw [opener?, if_neg longer, Int.toNat_natCast, List.take_append_of_le_length within] at found
  rwa [opener?, if_neg inside]

theorem closesBlock {init : List Kind} (opened : Opened (init ++ [.attrClose])) :
    ClosesBlock init := by
  have closes : (init ++ [Kind.attrClose])[init.length]? = some .attrClose := by simp
  obtain ⟨found, opens⟩ := Option.ne_none_iff_exists'.mp (opened _ closes)
  obtain ⟨before, here, inside⟩ := (opener?_eq_some_iff closes found).mp opens
  have split := take_eq_between here before
  rw [List.take_left] at split
  refine ⟨(init ++ [Kind.attrClose]).take found,
    .attrOpen :: between (init ++ [.attrClose]) found init.length ++ [.attrClose], ?_,
    .enclose inside⟩
  rw [← List.append_assoc, ← split]

-- A search through the text ends in it or is outside all blocks when it leaves it.
theorem search (skip : SkipSet) {text : List Kind} (opened : Opened text) :
    (∃ left k right, text = left ++ k :: right ∧ ∀ before,
      significantFrom skip 0 (text.reverse ++ before) = some (left.length + before.length)) ∨
    ∀ before, significantFrom skip 0 (text.reverse ++ before) = significantFrom skip 0 before := by
  cases prospect skip text with
  | skipped gap => exact .inr (significantFrom_gap skip gap)
  | @stops outer rest k notSkipped notClose gap =>
    refine .inl ⟨outer, k, rest, rfl, fun before => ?_⟩
    rw [significantFrom_behind gap, significantFrom_stop skip notSkipped notClose,
      List.length_append, List.length_reverse]
  | @unopened outer rest stray gap =>
    have closer : Opened (outer ++ [.attrClose] ++ rest) := by simpa using opened
    exact absurd closer.left.closesBlock stray

end Opened

end DocGuard.Lookback
