import DocGuard.Lookback.Grammar

set_option autoImplicit false

namespace DocGuard.Lookback

theorem Balanced.append {left right : List Kind} (first : Balanced left) (second : Balanced right) :
    Balanced (left ++ right) := by
  induction first with
  | nil => exact second
  | plain notOpen notClose _ ih => exact .plain notOpen notClose ih
  | block inside _ _ ih => simpa using Balanced.block inside ih

theorem Balanced.of_plain {kinds : List Kind} (noOpen : .attrOpen ∉ kinds)
    (noClose : .attrClose ∉ kinds) : Balanced kinds := by
  induction kinds with
  | nil => exact .nil
  | cons k rest ih =>
    simp only [List.mem_cons, not_or] at noOpen noClose
    exact .plain (Ne.symm noOpen.1) (Ne.symm noClose.1) (ih noOpen.2 noClose.2)

theorem Gap.append {skip : SkipSet} {left right : List Kind} (first : Gap skip left)
    (second : Gap skip right) : Gap skip (left ++ right) := by
  induction first with
  | nil => exact second
  | skipped has notClose _ ih => exact .skipped has notClose ih
  | block complete _ ih => simpa using Gap.block complete ih

section Passing

variable (skip : SkipSet)

theorem significantFrom_plain (depth : Nat) {k : Kind} (notOpen : k ≠ .attrOpen)
    (notClose : k ≠ .attrClose) (before : List Kind) :
    significantFrom skip (depth + 1) (k :: before) = significantFrom skip (depth + 1) before := by
  cases k <;> first | rfl | contradiction

-- The depth is free, since a block inside is passed one level deeper.
theorem significantFrom_balanced {inner : List Kind} (inside : Balanced inner) (depth : Nat)
    (before : List Kind) :
    significantFrom skip (depth + 1) (inner.reverse ++ before) =
      significantFrom skip (depth + 1) before := by
  induction inside generalizing depth before with
  | nil => rfl
  | plain notOpen notClose _ ih =>
    rw [List.reverse_cons, List.append_assoc, ih]
    exact significantFrom_plain skip depth notOpen notClose before
  | @block inner rest _ _ insideIH restIH =>
    have split : (.attrOpen :: inner ++ .attrClose :: rest).reverse ++ before =
        rest.reverse ++ (.attrClose :: (inner.reverse ++ .attrOpen :: before)) := by
      simp
    rw [split, restIH]
    change significantFrom skip (depth + 2) (inner.reverse ++ .attrOpen :: before) = _
    rw [insideIH]
    rfl

theorem significantFrom_block {block : List Kind} (complete : Block block) (before : List Kind) :
    significantFrom skip 0 (block.reverse ++ before) = significantFrom skip 0 before := by
  cases complete with
  | @enclose inner inside =>
    have split : (Kind.attrOpen :: inner ++ [Kind.attrClose]).reverse ++ before =
        .attrClose :: (inner.reverse ++ .attrOpen :: before) := by
      simp
    rw [split]
    change significantFrom skip 1 (inner.reverse ++ .attrOpen :: before) = _
    rw [significantFrom_balanced skip inside]
    rfl

theorem significantFrom_gap {gap : List Kind} (skipped : Gap skip gap) (before : List Kind) :
    significantFrom skip 0 (gap.reverse ++ before) = significantFrom skip 0 before := by
  induction skipped generalizing before with
  | nil => rfl
  | skipped has notClose _ ih =>
    rw [List.reverse_cons, List.append_assoc, ih]
    simp [significantFrom, has, notClose]
  | block complete _ ih =>
    rw [List.reverse_append, List.append_assoc, ih]
    exact significantFrom_block skip complete before

theorem significantFrom_stop {k : Kind} (notSkipped : skip.has k = false)
    (notClose : k ≠ .attrClose) (before : List Kind) :
    significantFrom skip 0 (k :: before) = some before.length := by
  simp [significantFrom, notSkipped, notClose]

end Passing

-- A gap after which `depth` blocks are open: what a search has yet to pass from that depth on.
inductive Unclosed (skip : SkipSet) : Nat → List Kind → Prop
  | gap {text : List Kind} (gap : Gap skip text) : Unclosed skip 0 text
  | opened {depth : Nat} {left inner : List Kind} (outer : Unclosed skip depth left)
      (inside : Balanced inner) : Unclosed skip (depth + 1) (left ++ .attrOpen :: inner)

namespace Unclosed

variable {skip : SkipSet} {depth : Nat} {text : List Kind}

theorem append_skipped {k : Kind} (unclosed : Unclosed skip 0 text) (has : skip.has k = true)
    (notClose : k ≠ .attrClose) : Unclosed skip 0 (text ++ [k]) := by
  cases unclosed with
  | gap gap => exact .gap (gap.append (.skipped has notClose .nil))

theorem append_plain {k : Kind} (unclosed : Unclosed skip (depth + 1) text)
    (notOpen : k ≠ .attrOpen) (notClose : k ≠ .attrClose) :
    Unclosed skip (depth + 1) (text ++ [k]) := by
  cases unclosed with
  | opened outer inside =>
    simpa using outer.opened (inside.append (.plain notOpen notClose .nil))

theorem append_open (unclosed : Unclosed skip depth text) :
    Unclosed skip (depth + 1) (text ++ [.attrOpen]) :=
  unclosed.opened .nil

-- The closed block becomes part of the gap or of the block around it.
theorem append_close (unclosed : Unclosed skip (depth + 1) text) :
    Unclosed skip depth (text ++ [.attrClose]) := by
  cases unclosed with
  | @opened _ left inner outer inside =>
    cases outer with
    | gap gap =>
      have block : Gap skip (.attrOpen :: inner ++ [.attrClose]) := by
        simpa using Gap.block (.enclose inside) .nil
      simpa using Unclosed.gap (gap.append block)
    | opened around surrounding =>
      have block : Balanced (.attrOpen :: inner ++ [.attrClose]) := .block inside .nil
      simpa using around.opened (surrounding.append block)

end Unclosed

-- A place at which a search from inside `depth` blocks may end, after passing `passed`.
inductive Ending (skip : SkipSet) (depth : Nat) : List Kind → Nat → Prop
  | stop {passed rest : List Kind} {k : Kind} (unclosed : Unclosed skip depth passed)
      (notSkipped : skip.has k = false) (notClose : k ≠ .attrClose) :
      Ending skip depth (passed.reverse ++ k :: rest) rest.length

theorem Ending.cons {skip : SkipSet} {depth inner : Nat} {k : Kind} {before : List Kind}
    {found : Nat} (ending : Ending skip inner before found)
    (extend : ∀ passed, Unclosed skip inner passed → Unclosed skip depth (passed ++ [k])) :
    Ending skip depth (k :: before) found := by
  cases ending with
  | @stop passed _ _ unclosed notSkipped notClose =>
    simpa using Ending.stop (extend passed unclosed) notSkipped notClose

-- What was passed is rebuilt from its far end: each kind closes, opens or extends what the rest of
-- the search has left unclosed.
theorem significantFrom_sound {skip : SkipSet} {depth : Nat} {before : List Kind} {found : Nat}
    (ends : significantFrom skip depth before = some found) : Ending skip depth before found := by
  fun_induction significantFrom skip depth before with
  | case1 => contradiction
  | case2 before ih => exact (ih ends).cons fun _ unclosed => unclosed.append_close
  | case3 k before notClose has ih =>
    exact (ih ends).cons fun _ unclosed => unclosed.append_skipped has notClose
  | case4 k before notClose has =>
    obtain rfl := Option.some.inj ends
    exact @Ending.stop skip 0 [] before k (.gap .nil) (by simpa using has) notClose
  | case5 depth before ih => exact (ih ends).cons fun _ unclosed => unclosed.append_close
  | case6 depth before ih => exact (ih ends).cons fun _ unclosed => unclosed.append_open
  | case7 depth k before notClose notOpen ih =>
    exact (ih ends).cons fun _ unclosed => unclosed.append_plain notOpen notClose

theorem significantFrom_complete {skip : SkipSet} {before : List Kind} {found : Nat}
    (ending : Ending skip 0 before found) : significantFrom skip 0 before = some found := by
  cases ending with
  | stop unclosed notSkipped notClose =>
    cases unclosed with
    | gap gap =>
      rw [significantFrom_gap skip gap]
      exact significantFrom_stop skip notSkipped notClose _

-- The kinds strictly between two places.
def between (kinds : List Kind) (found start : Nat) : List Kind :=
  (kinds.take start).drop (found + 1)

theorem take_eq_between {kinds : List Kind} {found start : Nat} {k : Kind}
    (here : kinds[found]? = some k) (before : found < start) :
    kinds.take start = kinds.take found ++ k :: between kinds found start := by
  have inside : (kinds.take start)[found]? = some k := by simpa [before] using here
  obtain ⟨short, same⟩ := List.getElem?_eq_some_iff.mp inside
  have split := List.take_append_drop found (kinds.take start)
  rw [List.drop_eq_getElem_cons short, same, List.take_take,
    Nat.min_eq_left (Nat.le_of_lt before)] at split
  exact split.symm

theorem significant?_eq_from {kinds : List Kind} {start : Nat} (within : start ≤ kinds.length)
    (skip : SkipSet) :
    significant? kinds start skip = significantFrom skip 0 (kinds.take start).reverse := by
  by_cases zero : start = 0
  · simp [significant?, significantFrom, zero]
  · have inside : ¬((start : Int) ≤ 0 ∨ (kinds.length : Int) < start) := by omega
    simp only [significant?, inside, if_false, Int.toNat_natCast]

theorem significant?_eq_some_iff {kinds : List Kind} {start : Nat} (within : start ≤ kinds.length)
    (skip : SkipSet) (found : Nat) :
    significant? kinds start skip = some found ↔
      found < start ∧ Gap skip (between kinds found start) ∧
        ∃ k, kinds[found]? = some k ∧ skip.has k = false ∧ k ≠ .attrClose := by
  rw [significant?_eq_from within]
  constructor
  · intro ends
    generalize whole : (kinds.take start).reverse = before at ends
    cases significantFrom_sound ends with
    | @stop gap rest k unclosed notSkipped notClose =>
      have split : kinds.take start = rest.reverse ++ k :: gap := by
        simpa using congrArg List.reverse whole
      have long : start = rest.length + 1 + gap.length := by
        have := congrArg List.length split
        simp only [List.length_take, List.length_append, List.length_reverse,
          List.length_cons] at this
        omega
      have here : (kinds.take start)[rest.length]? = some k := by simp [split]
      cases unclosed with
      | gap passed =>
        refine ⟨by omega, ?_, k, ?_, notSkipped, notClose⟩
        · have same : between kinds rest.length start = gap := by
            simp [between, split, List.drop_append]
          rw [same]
          exact passed
        · rwa [List.getElem?_take_of_lt (by omega)] at here
  · rintro ⟨before, gap, k, here, notSkipped, notClose⟩
    have long : found = (kinds.take found).reverse.length := by
      simp only [List.length_reverse, List.length_take]
      omega
    have ending := @Ending.stop skip 0 _ (kinds.take found).reverse k (.gap gap) notSkipped notClose
    rw [← long] at ending
    apply significantFrom_complete
    simpa [take_eq_between here before] using ending

end DocGuard.Lookback
