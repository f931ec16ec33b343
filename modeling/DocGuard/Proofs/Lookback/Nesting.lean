import DocGuard.Proofs.Lookback.Search

set_option autoImplicit false

namespace DocGuard.Lookback

theorem Balanced.count_eq {text : List Kind} (balanced : Balanced text) :
    text.count .attrOpen = text.count .attrClose := by
  induction balanced with
  | nil => rfl
  | plain notOpen notClose _ ih => simpa [notOpen, notClose] using ih
  | block _ _ insideIH restIH =>
    simp only [List.cons_append, List.count_cons, List.count_append, insideIH, restIH, beq_iff_eq,
      reduceCtorEq, ↓reduceIte, BEq.rfl]
    omega

theorem Balanced.count_take {text : List Kind} (balanced : Balanced text) (n : Nat) :
    (text.take n).count .attrClose ≤ (text.take n).count .attrOpen := by
  induction balanced generalizing n with
  | nil => simp
  | plain notOpen notClose _ ih =>
    cases n with
    | zero => simp
    | succ n => simpa [notOpen, notClose] using ih n
  | @block inner rest inside _ insideIH restIH =>
    cases n with
    | zero => simp
    | succ n =>
      have within := insideIH n
      simp only [List.cons_append, List.take_succ_cons, List.take_append, List.count_cons,
        List.count_append]
      -- The cut lies inside the block or behind its closer.
      cases past : n - inner.length with
      | zero =>
        simp only [List.take_zero, List.count_nil, beq_iff_eq, reduceCtorEq, ↓reduceIte, BEq.rfl]
        omega
      | succ m =>
        have whole : inner.take n = inner := List.take_of_length_le (by omega)
        have equal := inside.count_eq
        have behind := restIH m
        simp only [whole, List.take_succ_cons, List.count_cons, beq_iff_eq, reduceCtorEq, ↓reduceIte,
          BEq.rfl]
        omega

theorem Balanced.count_drop {text : List Kind} (balanced : Balanced text) (n : Nat) :
    (text.drop n).count .attrOpen ≤ (text.drop n).count .attrClose := by
  have start := balanced.count_take n
  have whole := balanced.count_eq
  rw [← List.take_append_drop n text, List.count_append, List.count_append] at whole
  omega

theorem Block.balanced {block : List Kind} (complete : Block block) : Balanced block := by
  cases complete with
  | enclose inside => exact .block inside .nil

theorem Gap.count_drop {skip : SkipSet} (noOpen : skip.has .attrOpen = false) {text : List Kind}
    (gap : Gap skip text) (n : Nat) :
    (text.drop n).count .attrOpen ≤ (text.drop n).count .attrClose := by
  induction gap generalizing n with
  | nil => simp
  | @skipped k rest has notClose _ ih =>
    have notOpen : k ≠ .attrOpen := by
      rintro rfl
      simp [noOpen] at has
    cases n with
    | zero => simpa [notOpen, notClose] using ih 0
    | succ n => simpa using ih n
  | @block block rest complete _ ih =>
    have first := complete.balanced.count_drop n
    have second := ih (n - block.length)
    simp only [List.drop_append, List.count_append]
    omega

-- A kind that a gap does not skip stands inside one of its blocks, with that opener before it.
theorem Gap.opener_before {skip : SkipSet} {text : List Kind} (gap : Gap skip text) {n : Nat}
    {k : Kind} (here : text[n]? = some k) (notSkipped : skip.has k = false)
    (notOpen : k ≠ .attrOpen) :
    ∃ outer inner, text.take n = outer ++ .attrOpen :: inner ∧
      inner.count .attrClose ≤ inner.count .attrOpen := by
  induction gap generalizing n with
  | nil => simp at here
  | @skipped head rest has _ _ ih =>
    cases n with
    | zero =>
      simp only [List.getElem?_cons_zero, Option.some.injEq] at here
      simp [here, notSkipped] at has
    | succ n =>
      obtain ⟨outer, inner, split, count⟩ := ih (by simpa using here)
      exact ⟨head :: outer, inner, by simp [split], count⟩
  | @block block rest complete _ ih =>
    by_cases within : n < block.length
    · cases complete with
      | @enclose inner inside =>
        cases n with
        | zero => simp [Ne.symm notOpen] at here
        | succ n =>
          have short : n ≤ inner.length := Nat.le_of_lt_succ (by simpa using within)
          refine ⟨[], inner.take n, ?_, inside.count_take n⟩
          simp [List.take_append_of_le_length, short]
    · rw [List.getElem?_append_right (by omega)] at here
      obtain ⟨outer, inner, split, count⟩ := ih here
      refine ⟨block ++ outer, inner, ?_, count⟩
      rw [List.take_append, List.take_of_length_le (by omega), split, List.append_assoc]

theorem Gap.not_gap_take {skip other : SkipSet} {text : List Kind} (gap : Gap skip text) {n : Nat}
    {k : Kind} (here : text[n]? = some k) (notSkipped : skip.has k = false)
    (notOpen : k ≠ .attrOpen) (noOpen : other.has .attrOpen = false) :
    ¬ Gap other (text.take n) := by
  intro start
  obtain ⟨outer, inner, split, count⟩ := gap.opener_before here notSkipped notOpen
  have rest := start.count_drop noOpen outer.length
  rw [split, List.drop_left] at rest
  simp only [List.count_cons, beq_iff_eq, reduceCtorEq, ↓reduceIte, BEq.rfl] at rest
  omega

theorem take_between {kinds : List Kind} {found i j : Nat} (before : found < i) (later : i ≤ j) :
    (between kinds found j).take (i - (found + 1)) = between kinds found i := by
  have cut : found + 1 + (i - (found + 1)) = i := by omega
  rw [between, List.take_drop, List.take_take, cut, Nat.min_eq_left later]
  rfl

theorem getElem?_between {kinds : List Kind} {found i j : Nat} (before : found < i)
    (later : i < j) : (between kinds found j)[i - (found + 1)]? = kinds[i]? := by
  have place : found + 1 + (i - (found + 1)) = i := by omega
  rw [between, List.getElem?_drop, place, List.getElem?_take_of_lt later]

theorem significant?_ne {kinds : List Kind} {i j : Nat} (order : i < j) (within : j ≤ kinds.length)
    {k : Kind} (here : kinds[i]? = some k) (notOpen : k ≠ .attrOpen) {skip other : SkipSet}
    (noOpen : skip.has .attrOpen = false) (notSkipped : other.has k = false) {first second : Nat}
    (ends : significant? kinds i skip = some first)
    (otherEnds : significant? kinds j other = some second) : first ≠ second := by
  rintro rfl
  obtain ⟨before, gap, _⟩ := (significant?_eq_some_iff (by omega) skip first).mp ends
  obtain ⟨_, longer, _⟩ := (significant?_eq_some_iff within other first).mp otherEnds
  rw [← take_between before (by omega : i ≤ j)] at gap
  exact longer.not_gap_take (by rwa [getElem?_between before order]) notSkipped notOpen noOpen gap

end DocGuard.Lookback
