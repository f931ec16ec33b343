import DocGuard.Proofs.Lookback.Nesting
import DocGuard.Proofs.Lookback.Openers
import DocGuard.Proofs.Lookback.Passage
import Mathlib.Data.List.Basic

set_option autoImplicit false

namespace DocGuard.Lookback

-- What the stack holds when the pass has come past `before`: a search that is inside `depth` other
-- blocks besides its own ends at the place that lies `depth` deep in the stack.
def Tracks (stack : List Nat) (before : List Kind) : Prop :=
  ∀ depth : Nat, openerFrom (depth + 1) before = stack[depth]?

namespace Tracks

variable {stack : List Nat} {before : List Kind}

theorem nil : Tracks [] [] := fun _ => rfl

theorem push (tracks : Tracks stack before) :
    Tracks (before.length :: stack) (.attrOpen :: before) := by
  intro depth
  cases depth with
  | zero => rfl
  | succ depth => rw [openerFrom_leave, tracks depth, List.getElem?_cons_succ]

theorem pop (tracks : Tracks stack before) : Tracks stack.tail (.attrClose :: before) := by
  intro depth
  have inner := tracks (depth + 1)
  rw [openerFrom, List.getElem?_tail, ← inner]
  rfl

theorem plain (tracks : Tracks stack before) {k : Kind} (notOpen : k ≠ .attrOpen)
    (notClose : k ≠ .attrClose) : Tracks stack (k :: before) := by
  intro depth
  rw [openerFrom_plain _ notOpen notClose, tracks depth]

end Tracks

theorem matchingFrom_plain (place : Nat) (stack : List Nat) {k : Kind} (notOpen : k ≠ .attrOpen)
    (notClose : k ≠ .attrClose) (rest : List Kind) :
    matchingFrom place stack (k :: rest) = matchingFrom (place + 1) stack rest := by
  cases k <;> first | rfl | contradiction

theorem opener?_eq_openerFrom {kinds : List Kind} {stop : Nat}
    (closes : kinds[stop]? = some .attrClose) :
    opener? kinds stop = openerFrom 1 (kinds.take stop).reverse := by
  have within : stop ≤ kinds.length := Nat.le_of_lt (List.getElem?_eq_some_iff.mp closes).1
  rw [opener?_eq_significant? closes, significant?_eq_from within]
  exact (openerFrom_eq_significantFrom 0 _).symm

-- The pass goes on over `rest` with the stack that it has from `before`.
theorem matchingFrom_eq {kinds before rest : List Kind} {stack : List Nat}
    (split : kinds = before.reverse ++ rest) (tracks : Tracks stack before) :
    matchingFrom before.length stack rest =
      (rest.idxsOf .attrClose before.length).map fun stop : Nat => (stop, opener? kinds stop) := by
  induction rest generalizing before stack with
  | nil => rfl
  | cons k rest ih =>
    have further : kinds = (k :: before).reverse ++ rest := by simpa using split
    by_cases opens : k = .attrOpen
    · subst opens
      simpa [matchingFrom, List.idxsOf_cons] using ih further tracks.push
    · by_cases closes : k = .attrClose
      · subst closes
        have here : kinds[before.length]? = some .attrClose := by simp [split]
        have passed : (kinds.take before.length).reverse = before := by
          rw [split, List.take_left' (List.length_reverse), List.reverse_reverse]
        have head : stack.head? = opener? kinds before.length := by
          rw [opener?_eq_openerFrom here, passed, List.head?_eq_getElem?]
          exact (tracks 0).symm
        simpa [matchingFrom, List.idxsOf_cons, head] using ih further tracks.pop
      · have next := ih further (tracks.plain opens closes)
        rw [matchingFrom_plain _ _ opens closes]
        simpa [List.idxsOf_cons, closes] using next

theorem matching_eq (kinds : List Kind) :
    matching kinds = (kinds.idxsOf .attrClose).map fun stop : Nat => (stop, opener? kinds stop) :=
  matchingFrom_eq rfl .nil

-- A block reaches from one place to the other.
def BlockAt (kinds : List Kind) (found stop : Nat) : Prop :=
  Block ((kinds.take (stop + 1)).drop found)

theorem blockAt_iff {kinds : List Kind} {stop : Nat} (closes : kinds[stop]? = some .attrClose)
    (found : Nat) :
    BlockAt kinds found stop ↔
      found < stop ∧ kinds[found]? = some .attrOpen ∧ Balanced (between kinds found stop) := by
  have within : stop < kinds.length := (List.getElem?_eq_some_iff.mp closes).1
  have cut : kinds.take (stop + 1) = kinds.take stop ++ [.attrClose] := by
    rw [List.take_add_one, closes]
    rfl
  unfold BlockAt
  constructor
  · intro complete
    generalize whole : (kinds.take (stop + 1)).drop found = block at complete
    cases complete with
    | @enclose inner inside =>
      have length := congrArg List.length whole
      simp only [List.length_drop, List.length_take, List.length_append, List.length_cons] at length
      have before : found < stop := by omega
      have start : found ≤ (kinds.take stop).length := by
        rw [List.length_take]
        omega
      rw [cut, List.drop_append_of_le_length start] at whole
      have opens : (kinds.take stop).drop found = .attrOpen :: inner :=
        List.append_cancel_right whole
      refine ⟨before, ?_, ?_⟩
      · rw [← List.getElem?_take_of_lt before, ← List.head?_drop, opens]
        rfl
      · have same : between kinds found stop = inner := by
          rw [between, ← List.tail_drop, opens]
          rfl
        rw [same]
        exact inside
  · rintro ⟨before, here, inside⟩
    have start : found = (kinds.take found).length := by
      rw [List.length_take]
      omega
    have whole : (kinds.take (stop + 1)).drop found =
        .attrOpen :: between kinds found stop ++ [.attrClose] := by
      rw [cut, take_eq_between here before, List.append_assoc, List.drop_left' start.symm]
    rw [whole]
    exact .enclose inside

theorem opener?_eq_some_iff_blockAt {kinds : List Kind} {stop : Nat}
    (closes : kinds[stop]? = some .attrClose) (found : Nat) :
    opener? kinds stop = some found ↔ BlockAt kinds found stop := by
  rw [opener?_eq_some_iff closes, blockAt_iff closes]

-- A search that comes to nothing has passed no more openers than closers and the blocks it was in.
theorem count_of_openerFrom_eq_none {depth : Nat} {before : List Kind}
    (ends : openerFrom (depth + 1) before = none) :
    before.count .attrOpen ≤ depth + before.count .attrClose := by
  induction before generalizing depth with
  | nil => simp
  | cons k before ih =>
    by_cases opens : k = .attrOpen
    · subst opens
      cases depth with
      | zero => simp [openerFrom] at ends
      | succ depth =>
        rw [openerFrom_leave] at ends
        have outer := ih ends
        simp only [List.count_cons, beq_iff_eq, reduceCtorEq, ↓reduceIte, BEq.rfl]
        omega
    · by_cases closes : k = .attrClose
      · subst closes
        have inner := @ih (depth + 1) (by simpa [openerFrom] using ends)
        simp only [List.count_cons, beq_iff_eq, reduceCtorEq, ↓reduceIte, BEq.rfl]
        omega
      · rw [openerFrom_plain _ opens closes] at ends
        simpa [opens, closes] using ih ends

-- In a balanced text each closer has its opener before it.
theorem Balanced.count_lt {text : List Kind} (balanced : Balanced text) {n : Nat}
    (closes : text[n]? = some .attrClose) :
    (text.take n).count .attrClose < (text.take n).count .attrOpen := by
  have upTo := balanced.count_take (n + 1)
  rw [List.take_add_one, closes] at upTo
  simp only [List.count_append, Option.toList_some, List.count_singleton, beq_iff_eq, reduceCtorEq,
    ↓reduceIte, BEq.rfl] at upTo
  omega

-- The closer at `stop` has its opener at `found`.
structure Matched (kinds : List Kind) (found stop : Nat) : Prop where
  closes : kinds[stop]? = some .attrClose
  opens : opener? kinds stop = some found

namespace Matched

variable {kinds : List Kind}

theorem before {found stop : Nat} (pair : Matched kinds found stop) : found < stop :=
  ((opener?_eq_some_iff pair.closes found).mp pair.opens).1

theorem opener {found stop : Nat} (pair : Matched kinds found stop) :
    kinds[found]? = some .attrOpen :=
  ((opener?_eq_some_iff pair.closes found).mp pair.opens).2.1

theorem balanced {found stop : Nat} (pair : Matched kinds found stop) :
    Balanced (between kinds found stop) :=
  ((opener?_eq_some_iff pair.closes found).mp pair.opens).2.2

-- A search from inside a block would have met more openers than closers at the opener of the block,
-- so it has ended before it.
theorem nested {outer stop place : Nat} (pair : Matched kinds outer stop) (after : outer < place)
    (before : place < stop) (closes : kinds[place]? = some .attrClose) :
    ∃ found, Matched kinds found place ∧ outer < found ∧ found < place := by
  have inside : (between kinds outer stop)[place - (outer + 1)]? = some .attrClose := by
    rwa [getElem?_between after before]
  have more := pair.balanced.count_lt inside
  rw [take_between after (Nat.le_of_lt before)] at more
  have reversed : (kinds.take place).reverse =
      (between kinds outer place).reverse ++ .attrOpen :: (kinds.take outer).reverse := by
    simp [take_eq_between pair.opener after]
  have search : opener? kinds place = significantFrom allButOpener 0
      ((between kinds outer place).reverse ++ .attrOpen :: (kinds.take outer).reverse) := by
    rw [opener?_eq_openerFrom closes, reversed]
    exact openerFrom_eq_significantFrom 0 _
  cases passage allButOpener 0 (between kinds outer place).reverse with
  | leaves inner result =>
    have nothing : openerFrom 1 (between kinds outer place).reverse = none := by
      have passed := result []
      rw [List.append_nil, ← openerFrom_eq_significantFrom 0] at passed
      simpa [significantFrom] using passed
    have fewer := @count_of_openerFrom_eq_none 0 _ nothing
    simp only [List.count_reverse] at fewer
    omega
  | ends left k right split result =>
    rw [result] at search
    have inner : Matched kinds _ place := ⟨closes, search⟩
    have within : outer < kinds.length := (List.getElem?_eq_some_iff.mp pair.opener).1
    refine ⟨_, inner, ?_, inner.before⟩
    simp only [List.length_cons, List.length_reverse, List.length_take]
    omega

theorem apart {found other first second : Nat} (firstPair : Matched kinds found first)
    (secondPair : Matched kinds other second) (order : first < second) :
    first < other ∨ other < found := by
  rcases Nat.lt_trichotomy first other with before | equal | after
  · exact .inl before
  · subst equal
    simpa [firstPair.closes] using secondPair.opener
  · obtain ⟨inner, pair, inside, _⟩ := secondPair.nested after order firstPair.closes
    have same : found = inner := Option.some.inj (firstPair.opens.symm.trans pair.opens)
    exact .inr (same ▸ inside)

theorem not_lt {found first second : Nat} (firstPair : Matched kinds found first)
    (secondPair : Matched kinds found second) : ¬ first < second := by
  intro order
  have before := firstPair.before
  have either := firstPair.apart secondPair order
  omega

theorem stop_unique {found first second : Nat} (firstPair : Matched kinds found first)
    (secondPair : Matched kinds found second) : first = second :=
  Nat.le_antisymm (Nat.le_of_not_lt (secondPair.not_lt firstPair))
    (Nat.le_of_not_lt (firstPair.not_lt secondPair))

end Matched

theorem mem_matching_iff {kinds : List Kind} {stop : Nat} {found : Option Nat} :
    (stop, found) ∈ matching kinds ↔
      kinds[stop]? = some .attrClose ∧ opener? kinds stop = found := by
  have closer : stop ∈ kinds.idxsOf .attrClose ↔ kinds[stop]? = some .attrClose := by
    simp [List.mem_idxsOf_iff_getElem_sub_pos, List.getElem?_eq_some_iff]
  rw [matching_eq, List.mem_map, ← closer]
  constructor
  · rintro ⟨place, member, same⟩
    obtain ⟨rfl, rfl⟩ := Prod.mk.inj same
    exact ⟨member, rfl⟩
  · rintro ⟨member, rfl⟩
    exact ⟨stop, member, rfl⟩

theorem matching_exact (kinds : List Kind) :
    matching kinds =
      (kinds.idxsOf .attrClose).map (fun stop : Nat => (stop, opener? kinds stop)) ∧
    (∀ stop : Nat, kinds[stop]? = some .attrClose →
      (∀ found, (stop, found) ∈ matching kinds ↔ opener? kinds stop = found) ∧
      (∀ found, opener? kinds stop = some found ↔ BlockAt kinds found stop) ∧
      (∀ found other, BlockAt kinds found stop → BlockAt kinds other stop → found = other) ∧
      (opener? kinds stop = none ↔ ¬ ∃ found, BlockAt kinds found stop)) ∧
    (∀ found first second, Matched kinds found first → Matched kinds found second →
      first = second) ∧
    (∀ found other first second, Matched kinds found first → Matched kinds other second →
      first < second → first < other ∨ other < found) ∧
    (∀ outer stop place, Matched kinds outer stop → outer < place → place < stop →
      kinds[place]? = some .attrClose →
      ∃ found, Matched kinds found place ∧ outer < found ∧ found < place) := by
  refine ⟨matching_eq kinds, ?_, ?_, ?_, ?_⟩
  · intro stop closes
    have block := opener?_eq_some_iff_blockAt closes
    refine ⟨fun found => ?_, block, ?_, ?_⟩
    · rw [mem_matching_iff, and_iff_right closes]
    · intro found other first second
      exact Option.some.inj (((block found).mpr first).symm.trans ((block other).mpr second))
    · simp only [← block, Option.eq_none_iff_forall_ne_some, not_exists]
  · intro found first second firstPair secondPair
    exact firstPair.stop_unique secondPair
  · intro found other first second firstPair secondPair
    exact firstPair.apart secondPair
  · intro outer stop place pair after before
    exact pair.nested after before

-- The first closer has no opener and the last opener no closer; one block holds two others.
theorem matching_exact_stray :
    let kinds : List Kind := [.attrClose, .attrOpen, .attrOpen, .attrClose, .docClose, .attrOpen,
      .attrClose, .attrClose, .attrOpen]
    matching kinds = [(0, none), (3, some 2), (6, some 5), (7, some 1)] ∧
      Matched kinds 1 7 ∧ BlockAt kinds 1 7 ∧ Matched kinds 2 3 ∧ (3 < 1 ∨ 1 < 2) ∧
      (¬ ∃ found, BlockAt kinds found 0) ∧
      ∃ found, Matched kinds found 6 ∧ 1 < found ∧ found < 6 := by
  intro kinds
  obtain ⟨pass, closers, _, apart, nested⟩ := matching_exact kinds
  have outer : Matched kinds 1 7 := ⟨rfl, by decide⟩
  have inner : Matched kinds 2 3 := ⟨rfl, by decide⟩
  have block := ((closers 7 rfl).2.1 1).mp outer.opens
  have stray := (closers 0 rfl).2.2.2.mp (by decide)
  refine ⟨?_, outer, block, inner, apart 2 1 3 7 inner outer (by decide), stray, ?_⟩
  · rw [pass]
    decide
  · exact nested 1 7 6 outer (by decide) (by decide) rfl

end DocGuard.Lookback
