import DocGuard.Proofs.Lookback.Search

set_option autoImplicit false

namespace DocGuard

def SkipSet.insert (added : Kind) (skip : SkipSet) : SkipSet where
  has k := k == added || skip.has k
  has_whitespace := by simp [skip.has_whitespace]

theorem SkipSet.has_insert_of_ne {added k : Kind} (differs : k ≠ added) (skip : SkipSet) :
    (skip.insert added).has k = skip.has k := by
  simp [insert, differs]

namespace Lookback

-- The number of a place; what lies before the stream has the number -1.
def numberOf : Option Nat → Int
  | none => -1
  | some found => found

-- Closers do not count: they are never skipped as single kinds.
theorem Gap.mono {narrow wide : SkipSet}
    (wider : ∀ k, k ≠ .attrClose → narrow.has k = true → wide.has k = true) {text : List Kind}
    (gap : Gap narrow text) : Gap wide text := by
  induction gap with
  | nil => exact .nil
  | skipped has notClose _ ih => exact .skipped (wider _ notClose has) notClose ih
  | block complete _ ih => exact .block complete ih

-- A closer behind the text ends a block.
def ClosesBlock (text : List Kind) : Prop :=
  ∃ outer block, text ++ [.attrClose] = outer ++ block ∧ Block block

-- What a search from the end of a text meets: a gap all the way, or behind a gap a kind that stops
-- it or a closer that closes no block.
inductive Prospect (skip : SkipSet) : List Kind → Prop
  | skipped {text : List Kind} (gap : Gap skip text) : Prospect skip text
  | stops {outer rest : List Kind} {k : Kind} (notSkipped : skip.has k = false)
      (notClose : k ≠ .attrClose) (gap : Gap skip rest) : Prospect skip (outer ++ k :: rest)
  | unopened {outer rest : List Kind} (stray : ¬ ClosesBlock outer) (gap : Gap skip rest) :
      Prospect skip (outer ++ .attrClose :: rest)

theorem Prospect.append {skip : SkipSet} {text more : List Kind} (prospect : Prospect skip text)
    (gap : Gap skip more) : Prospect skip (text ++ more) := by
  cases prospect with
  | skipped before => exact .skipped (before.append gap)
  | stops notSkipped notClose before =>
    simpa using Prospect.stops notSkipped notClose (before.append gap)
  | unopened stray before => simpa using Prospect.unopened stray (before.append gap)

-- The induction goes by the length, since a closer is passed together with its whole block.
theorem prospect (skip : SkipSet) (text : List Kind) : Prospect skip text := by
  induction length : text.length using Nat.strongRecOn generalizing text with
  | ind n ih =>
    rcases List.eq_nil_or_concat text with rfl | ⟨init, k, rfl⟩
    · exact .skipped .nil
    · rw [List.concat_eq_append] at length ⊢
      by_cases closes : k = .attrClose
      · subst closes
        by_cases opened : ClosesBlock init
        · obtain ⟨outer, block, split, complete⟩ := opened
          rw [split] at length ⊢
          have shorter : outer.length < n := by
            cases complete
            simp only [List.length_append, List.length_cons] at length
            omega
          exact (ih _ shorter outer rfl).append (by simpa using Gap.block complete .nil)
        · exact .unopened opened .nil
      · cases has : skip.has k with
        | true =>
          have shorter : init.length < n := by
            simp only [List.length_append, List.length_singleton] at length
            omega
          exact (ih _ shorter init rfl).append (.skipped has closes .nil)
        | false => exact .stops has closes .nil

-- How a search from the end of a text comes to nothing.
inductive Fruitless (skip : SkipSet) : List Kind → Prop
  | skipped {text : List Kind} (gap : Gap skip text) : Fruitless skip text
  | unopened {outer rest : List Kind} (stray : ¬ ClosesBlock outer) (gap : Gap skip rest) :
      Fruitless skip (outer ++ .attrClose :: rest)

theorem Fruitless.mono {narrow wide : SkipSet}
    (wider : ∀ k, k ≠ .attrClose → narrow.has k = true → wide.has k = true) {text : List Kind}
    (fruitless : Fruitless narrow text) : Fruitless wide text := by
  cases fruitless with
  | skipped gap => exact .skipped (gap.mono wider)
  | unopened stray gap => exact .unopened stray (gap.mono wider)

-- A search that leaves a block has met its opener.
theorem closesBlock_of_eq_some {skip : SkipSet} {text : List Kind} {found : Nat}
    (ends : significantFrom skip 1 text.reverse = some found) : ClosesBlock text := by
  generalize reversed : text.reverse = before at ends
  cases significantFrom_sound ends with
  | @stop passed rest k unclosed _ _ =>
    cases unclosed with
    | @opened _ left inner _ inside =>
      have split : text = rest.reverse ++ k :: left ++ .attrOpen :: inner := by
        simpa using congrArg List.reverse reversed
      refine ⟨rest.reverse ++ k :: left, .attrOpen :: inner ++ [.attrClose], ?_, .enclose inside⟩
      simp [split]

theorem significantFrom_behind {skip : SkipSet} {rest : List Kind} (gap : Gap skip rest)
    (outer : List Kind) (k : Kind) (before : List Kind) :
    significantFrom skip 0 ((outer ++ k :: rest).reverse ++ before) =
      significantFrom skip 0 (k :: (outer.reverse ++ before)) := by
  have reversed : (outer ++ k :: rest).reverse ++ before =
      rest.reverse ++ k :: (outer.reverse ++ before) := by
    simp
  rw [reversed, significantFrom_gap skip gap]

theorem significantFrom_eq_none_iff {skip : SkipSet} {text : List Kind} :
    significantFrom skip 0 text.reverse = none ↔ Fruitless skip text := by
  rw [← List.append_nil text.reverse]
  constructor
  · intro ends
    cases prospect skip text with
    | skipped gap => exact .skipped gap
    | stops notSkipped notClose gap =>
      rw [significantFrom_behind gap, significantFrom_stop skip notSkipped notClose] at ends
      contradiction
    | unopened stray gap => exact .unopened stray gap
  · intro fruitless
    cases fruitless with
    | skipped gap => exact significantFrom_gap skip gap []
    | @unopened outer rest stray gap =>
      rw [significantFrom_behind gap, List.append_nil]
      change significantFrom skip 1 outer.reverse = none
      cases ends : significantFrom skip 1 outer.reverse with
      | none => rfl
      | some found => exact absurd (closesBlock_of_eq_some ends) stray

-- What the significant place before `start` has to be.
structure Precedes (skip : SkipSet) (kinds : List Kind) (found : Nat) (start : Int) : Prop where
  before : (found : Int) < start
  within : start ≤ kinds.length
  stops : ∃ k, kinds[found]? = some k ∧ k ≠ .attrClose ∧ skip.has k = false
  gap : Gap skip (between kinds found start.toNat)

theorem Precedes.exists_start {skip : SkipSet} {kinds : List Kind} {found : Nat} {start : Int}
    (precedes : Precedes skip kinds found start) :
    ∃ n : Nat, start = n ∧ found < n ∧ n ≤ kinds.length := by
  have before := precedes.before
  have within := precedes.within
  exact ⟨start.toNat, by omega, by omega, by omega⟩

theorem significant?_outside {kinds : List Kind} {start : Int}
    (outside : start ≤ 0 ∨ (kinds.length : Int) < start) (skip : SkipSet) :
    significant? kinds start skip = none :=
  if_pos outside

theorem exists_start {kinds : List Kind} {start : Int}
    (inside : ¬ (start ≤ 0 ∨ (kinds.length : Int) < start)) :
    ∃ n : Nat, start = n ∧ n ≤ kinds.length :=
  ⟨start.toNat, by omega, by omega⟩

theorem significant?_iff_precedes {kinds : List Kind} {start : Int} {skip : SkipSet} {found : Nat} :
    significant? kinds start skip = some found ↔ Precedes skip kinds found start := by
  by_cases outside : start ≤ 0 ∨ (kinds.length : Int) < start
  · rw [significant?_outside outside]
    constructor
    · intro ends
      contradiction
    · intro precedes
      obtain ⟨n, rfl, before, within⟩ := precedes.exists_start
      omega
  · obtain ⟨n, rfl, within⟩ := exists_start outside
    rw [significant?_eq_some_iff within]
    constructor
    · rintro ⟨before, gap, k, here, notSkipped, notClose⟩
      exact ⟨by omega, by omega, ⟨k, here, notClose, notSkipped⟩, gap⟩
    · rintro ⟨before, _, ⟨k, here, notClose, notSkipped⟩, gap⟩
      exact ⟨by omega, gap, k, here, notSkipped, notClose⟩

theorem significant?_eq_none_iff {kinds : List Kind} {start : Int} {skip : SkipSet} :
    significant? kinds start skip = none ↔
      (start ≤ 0 ∨ (kinds.length : Int) < start) ∨ Fruitless skip (kinds.take start.toNat) := by
  by_cases outside : start ≤ 0 ∨ (kinds.length : Int) < start
  · simp [significant?_outside outside, outside]
  · obtain ⟨n, rfl, within⟩ := exists_start outside
    rw [significant?_eq_from within, significantFrom_eq_none_iff, Int.toNat_natCast]
    exact (or_iff_right outside).symm

theorem Precedes.congr {skip other : SkipSet}
    (same : ∀ k, k ≠ .attrClose → other.has k = skip.has k) {kinds : List Kind} {found : Nat}
    {start : Int} (precedes : Precedes skip kinds found start) :
    Precedes other kinds found start := by
  obtain ⟨before, within, ⟨k, here, notClose, notSkipped⟩, gap⟩ := precedes
  refine ⟨before, within, ⟨k, here, notClose, (same k notClose).trans notSkipped⟩, ?_⟩
  exact gap.mono fun k notClose has => (same k notClose).trans has

theorem search_exact (kinds : List Kind) (start : Int) (skip : SkipSet) :
    (∀ found, significant? kinds start skip = some found ↔ Precedes skip kinds found start) ∧
    (∀ found other, Precedes skip kinds found start → Precedes skip kinds other start →
      found = other) ∧
    (significant? kinds start skip = none ↔ ¬ ∃ found, Precedes skip kinds found start) ∧
    (significant? kinds start skip = none ↔
      (start ≤ 0 ∨ (kinds.length : Int) < start) ∨ Fruitless skip (kinds.take start.toNat)) ∧
    significant? kinds start (skip.insert .attrClose) = significant? kinds start skip := by
  refine ⟨fun _ => significant?_iff_precedes, ?_, ?_, significant?_eq_none_iff, ?_⟩
  · intro found other precedes otherPrecedes
    have ends := significant?_iff_precedes.mpr precedes
    have otherEnds := significant?_iff_precedes.mpr otherPrecedes
    exact Option.some.inj (ends.symm.trans otherEnds)
  · simp only [← significant?_iff_precedes, Option.eq_none_iff_forall_ne_some, not_exists]
  · apply Option.ext
    intro found
    rw [significant?_iff_precedes, significant?_iff_precedes]
    exact ⟨.congr fun k notClose => (SkipSet.has_insert_of_ne notClose skip).symm,
      .congr fun k notClose => SkipSet.has_insert_of_ne notClose skip⟩

end Lookback

end DocGuard
