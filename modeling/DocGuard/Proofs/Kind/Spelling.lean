import DocGuard.Kind
import Mathlib.Data.List.TakeWhile

set_option autoImplicit false

namespace DocGuard

namespace Text

theorem trim_append {inClass : Char → Bool} {left core right : List Char}
    (before : ∀ c ∈ left, inClass c = true) (inside : ∀ c ∈ core, inClass c = false)
    (after : ∀ c ∈ right, inClass c = true) : trim inClass (left ++ core ++ right) = core := by
  have keeps {chars : List Char} (outside : ∀ c ∈ chars, inClass c = false) :
      chars.dropWhile inClass = chars := by
    rw [List.dropWhile_eq_self_iff]
    intro within
    rw [outside _ (List.getElem_mem within)]
    decide
  cases core with
  | nil =>
    have dropped : (left ++ right).dropWhile inClass = [] := by
      rw [List.dropWhile_append_of_pos before, List.dropWhile_eq_nil_iff]
      exact after
    simp [trim, dropped]
  | cons c rest =>
    have keepsStart : (c :: rest ++ right).dropWhile inClass = c :: rest ++ right := by
      simp [inside c (by simp)]
    have fromEnd : ∀ c ∈ right.reverse, inClass c = true :=
      fun c member => after c (List.mem_reverse.mp member)
    have keepsEnd := keeps fun c member => inside c (List.mem_reverse.mp member)
    rw [trim, List.append_assoc, List.dropWhile_append_of_pos before, keepsStart,
      List.reverse_append, List.dropWhile_append_of_pos fromEnd, keepsEnd, List.reverse_reverse]

-- No capital is blank.
theorem toLower_of_isBlank {c : Char} (blank : isBlank c = true) : c.toLower = c := by
  have notCapital : ¬ (c.val ≥ 'A'.val ∧ c.val ≤ 'Z'.val) := by
    intro capital
    have bounds : 65 ≤ c.toNat ∧ c.toNat ≤ 90 := by
      simpa [UInt32.le_iff_toNat_le] using capital
    simp only [isBlank, Bool.or_eq_true, Bool.and_eq_true, decide_eq_true_eq, beq_iff_eq] at blank
    omega
  exact dif_neg notCapital

end Text

namespace Kind

-- Any letter case, blanks around the name, and the mark `t_` in front or not.
def Spells (k : Kind) (spelling : String) : Prop :=
  ∃ left mark body right : List Char,
    spelling.toList = left ++ (mark ++ body) ++ right ∧
    left.all Text.isBlank = true ∧ right.all Text.isBlank = true ∧
    (mark = [] ∨ mark.map Char.toLower = ['t', '_']) ∧
    body.map Char.toLower = k.word.toList

-- A character that only ASCII letter case can change, and that no blank is mistaken for.
def isPlain (c : Char) : Bool := !Text.isBlank c && c != '\u212a'

theorem isPlain_of_mem_word (k : Kind) : ∀ c ∈ k.word.toList, isPlain c = true :=
  List.all_eq_true.mp (by cases k <;> decide)

theorem isPlain_of_mem_mark : ∀ c ∈ ['t', '_'], isPlain c = true :=
  List.all_eq_true.mp (by decide)

theorem isBlank_of_toLower {c : Char} (plain : isPlain c.toLower = true) :
    Text.isBlank c = false := by
  by_contra notLetter
  have blank : Text.isBlank c = true := by simpa using notLetter
  rw [Text.toLower_of_isBlank blank] at plain
  simp [isPlain, blank] at plain

theorem smallLetter_of_toLower {c : Char} (plain : isPlain c.toLower = true) :
    smallLetter c = c.toLower := by
  have notKelvin : c ≠ '\u212a' := by
    rintro rfl
    exact absurd plain (by decide)
  simp [smallLetter, notKelvin]

theorem map_smallLetter {chars : List Char}
    (plain : ∀ c ∈ chars.map Char.toLower, isPlain c = true) :
    chars.map smallLetter = chars.map Char.toLower :=
  List.map_congr_left fun _ member => smallLetter_of_toLower (plain _ (List.mem_map_of_mem member))

-- No name starts with the mark, so dropping it once takes nothing from a name.
theorem dropMark_word (k : Kind) : dropMark k.word.toList = k.word.toList := by
  cases k <;> rfl

theorem bareName_of_spells {k : Kind} {spelling : String} (spells : k.Spells spelling) :
    bareName spelling.toList = k.word.toList := by
  obtain ⟨left, mark, body, right, parts, before, after, marked, named⟩ := spells
  have plain : ∀ c ∈ (mark ++ body).map Char.toLower, isPlain c = true := by
    rw [List.map_append, named]
    intro c member
    rcases List.mem_append.mp member with inMark | inWord
    · rcases marked with rfl | marked
      · simp at inMark
      · rw [marked] at inMark
        exact isPlain_of_mem_mark c inMark
    · exact isPlain_of_mem_word k c inWord
  have inside : ∀ c ∈ mark ++ body, Text.isBlank c = false :=
    fun c member => isBlank_of_toLower (plain _ (List.mem_map_of_mem member))
  have stripped : Text.strip spelling.toList = mark ++ body := by
    rw [parts]
    exact Text.trim_append (List.all_eq_true.mp before) inside (List.all_eq_true.mp after)
  rw [bareName, stripped, map_smallLetter plain, List.map_append, named]
  rcases marked with rfl | marked
  · exact dropMark_word k
  · rw [marked]
    rfl

theorem ofSpelling_of_spells {k : Kind} {spelling : String} (spells : k.Spells spelling) :
    ofSpelling spelling = k := by
  rw [ofSpelling, bareName_of_spells spells]
  cases k <;> rfl

end Kind

end DocGuard
