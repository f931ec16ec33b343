import DocGuard.Proofs.Lookback.Search

set_option autoImplicit false

namespace DocGuard.Lookback

-- As in a search, `text` is read from its nearest kind on.
inductive Passage (skip : SkipSet) (depth : Nat) (text : List Kind) : Prop
  | ends (left : List Kind) (k : Kind) (right : List Kind) (split : text = left ++ k :: right)
      (result : ∀ before,
        significantFrom skip depth (text ++ before) = some (right.length + before.length))
  | leaves (inner : Nat)
      (result : ∀ before,
        significantFrom skip depth (text ++ before) = significantFrom skip inner before)

theorem Passage.cons {skip : SkipSet} {depth inner : Nat} {k : Kind} {text : List Kind}
    (rest : Passage skip inner text)
    (step : ∀ before,
      significantFrom skip depth (k :: before) = significantFrom skip inner before) :
    Passage skip depth (k :: text) := by
  cases rest with
  | ends left stop right split result =>
    refine .ends (k :: left) stop right (by simp [split]) fun before => ?_
    rw [List.cons_append, step, result]
  | leaves deeper result =>
    refine .leaves deeper fun before => ?_
    rw [List.cons_append, step, result]

theorem passage (skip : SkipSet) (depth : Nat) (text : List Kind) : Passage skip depth text := by
  fun_induction significantFrom skip depth text with
  | case1 depth => exact .leaves depth fun _ => rfl
  | case2 text ih => exact ih.cons fun _ => rfl
  | case3 k text notClose has ih => exact ih.cons fun _ => by simp [significantFrom, notClose, has]
  | case4 k text notClose has =>
    refine .ends [] k text rfl fun before => ?_
    simp [significantFrom, notClose, has]
  | case5 depth text ih => exact ih.cons fun _ => rfl
  | case6 depth text ih => exact ih.cons fun _ => rfl
  | case7 depth k text notClose notOpen ih =>
    exact ih.cons (significantFrom_plain skip depth notOpen notClose)

theorem significantFrom_lt {skip : SkipSet} {depth : Nat} {before : List Kind} {found : Nat}
    (ends : significantFrom skip depth before = some found) : found < before.length := by
  cases significantFrom_sound ends with
  | stop =>
    simp only [List.length_append, List.length_cons]
    omega

end DocGuard.Lookback
