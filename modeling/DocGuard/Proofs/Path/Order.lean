import DocGuard.Path
import Mathlib.Data.List.TakeWhile

set_option autoImplicit false

namespace DocGuard.Path

section Order

theorem precedes_iff (a b : List String) : precedes a b = true ↔ a = b ∨ a < b := by
  induction a generalizing b with
  | nil => cases b <;> simp [precedes]
  | cons x as ih =>
    cases b with
    | nil => simp [precedes]
    | cons y bs =>
      rw [precedes, List.cons_lt_cons_iff, List.cons.injEq]
      by_cases same : x = y
      · simp only [same, beq_self_eq_true, if_true, ih, true_and, String.lt_irrefl, false_or]
      · simp only [same, beq_iff_eq, if_false, decide_eq_true_eq, false_and, or_false, false_or]

theorem precedes_total (a b : List String) : (precedes a b || precedes b a) = true := by
  induction a generalizing b with
  | nil => simp [precedes]
  | cons x as ih =>
    cases b with
    | nil => simp [precedes]
    | cons y bs =>
      by_cases same : x = y
      · simpa only [precedes, same, beq_self_eq_true, if_true] using ih bs
      · have either : x < y ∨ y < x := by
          rcases String.le_total x y with below | above
          · exact .inl (String.not_le.mp fun above => same (String.le_antisymm below above))
          · exact .inr (String.not_le.mp fun below => same (String.le_antisymm below above))
        simpa only [precedes, beq_iff_eq, same, Ne.symm same, if_false, Bool.or_eq_true,
          decide_eq_true_eq] using either

theorem precedes_trans (a b c : List String) (first : precedes a b = true)
    (second : precedes b c = true) : precedes a c = true := by
  rw [precedes_iff] at first second ⊢
  rcases first with rfl | first
  · exact second
  · rcases second with rfl | second
    · exact .inr first
    · exact .inr (List.lt_trans first second)

-- Sorting lists of names that are all different leaves each before the next.
theorem pairwise_lt_mergeSort {names : List (List String)} (distinct : names.Nodup) :
    (names.mergeSort precedes).Pairwise (· < ·) := by
  have sorted : (names.mergeSort precedes).Pairwise fun a b => precedes a b = true :=
    List.pairwise_mergeSort precedes_trans precedes_total names
  have apart : (names.mergeSort precedes).Nodup :=
    (List.mergeSort_perm names precedes).nodup_iff.mpr distinct
  refine (sorted.and apart).imp ?_
  intro a b ⟨before, different⟩
  exact ((precedes_iff a b).mp before).resolve_left different

end Order

section Endings

-- The ending of a name: all from its last dot on, but nothing if that dot is its first or its last
-- character.
inductive HasEnding (name : String) : String → Prop
  | dotted {stem tail : List Char} (split : name.toList = stem ++ '.' :: tail) (last : '.' ∉ tail)
      (stemmed : stem ≠ []) (tailed : tail ≠ []) : HasEnding name (String.ofList ('.' :: tail))
  | outermost {stem tail : List Char} (split : name.toList = stem ++ '.' :: tail) (last : '.' ∉ tail)
      (outer : stem = [] ∨ tail = []) : HasEnding name ""
  | dotless (lacks : '.' ∉ name.toList) : HasEnding name ""

theorem exists_last_dot {text : List Char} (dot : '.' ∈ text) :
    ∃ stem tail, text = stem ++ '.' :: tail ∧ '.' ∉ tail := by
  obtain ⟨tail, stem, split, last⟩ := List.eq_append_cons_of_mem (List.mem_reverse.mpr dot)
  refine ⟨stem.reverse, tail.reverse, ?_, by simpa using last⟩
  rw [← List.reverse_reverse text, split]
  simp

theorem takeWhile_ne_dot {text : List Char} (lacks : '.' ∉ text) (rest : List Char) :
    (text ++ '.' :: rest).takeWhile (· != '.') = text := by
  have plain : ∀ c ∈ text, (c != '.') = true := by
    intro c member
    have other : c ≠ '.' := fun dot => lacks (dot ▸ member)
    simpa using other
  rw [List.takeWhile_append_of_pos plain]
  simp

theorem suffix_of_split {name : String} {stem tail : List Char}
    (split : name.toList = stem ++ '.' :: tail) (last : '.' ∉ tail) :
    suffix name =
      if stem = [] ∨ tail = [] then "" else String.ofList ('.' :: tail) := by
  have behind : name.toList.reverse.takeWhile (· != '.') = tail.reverse := by
    rw [split, List.reverse_append, List.reverse_cons, List.append_assoc, List.singleton_append]
    exact takeWhile_ne_dot (by simpa using last) _
  have length : name.length = stem.length + 1 + tail.length := by
    rw [← String.length_toList, split]
    simp only [List.length_append, List.length_cons]
    omega
  have shorter : tail.length < name.length := by omega
  have before : name.length - tail.length - 1 = stem.length := by omega
  simp only [suffix, behind, List.length_reverse, List.reverse_reverse, before, shorter,
    decide_true, Bool.true_and, Bool.and_eq_true, decide_eq_true_eq, List.length_pos_iff]
  by_cases stemmed : stem = [] <;> by_cases tailed : tail = [] <;> simp [stemmed, tailed]

theorem suffix_of_dotless {name : String} (lacks : '.' ∉ name.toList) : suffix name = "" := by
  have whole : name.toList.reverse.takeWhile (· != '.') = name.toList.reverse := by
    rw [List.takeWhile_eq_self_iff]
    intro c member
    have other : c ≠ '.' := fun dot => lacks (dot ▸ List.mem_reverse.mp member)
    simpa using other
  simp [suffix, whole, String.length_toList]

theorem hasEnding_iff {name ending : String} : HasEnding name ending ↔ suffix name = ending := by
  constructor
  · intro has
    cases has with
    | dotted split last stemmed tailed => simp [suffix_of_split split last, stemmed, tailed]
    | outermost split last outer => rw [suffix_of_split split last, if_pos outer]
    | dotless lacks => exact suffix_of_dotless lacks
  · rintro rfl
    by_cases dot : '.' ∈ name.toList
    · obtain ⟨stem, tail, split, last⟩ := exists_last_dot dot
      rw [suffix_of_split split last]
      split
      next outer => exact .outermost split last outer
      next inner =>
        obtain ⟨stemmed, tailed⟩ := not_or.mp inner
        exact .dotted split last stemmed tailed
    · rw [suffix_of_dotless dot]
      exact .dotless dot

end Endings

end DocGuard.Path
