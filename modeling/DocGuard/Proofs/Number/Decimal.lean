import DocGuard.Number.Integer
import Mathlib.Data.List.TakeDrop
import Mathlib.Data.List.TakeWhile

set_option autoImplicit false

namespace DocGuard

namespace Numeral

theorem plainChar_of_lt {c : Char} (ascii : c.toNat < 127) : plainChar c = c := by
  simp [plainChar, ascii]

theorem digit_bounds {c : Char} (digit : c.isDigit = true) : 48 ≤ c.toNat ∧ c.toNat ≤ 57 := by
  simpa [Char.isDigit, UInt32.le_iff_toNat_le] using digit

theorem digitValue?_of_isDigit {c : Char} (digit : c.isDigit = true) :
    digitValue? c = some (c.toNat - 48) := by
  have bounds := digit_bounds digit
  have within : '0' ≤ c ∧ c ≤ '9' := by
    simpa [Char.le_def, UInt32.le_iff_toNat_le] using bounds
  simp [digitValue?, within]

theorem isDigitOf_ten {c : Char} (digit : c.isDigit = true) : isDigitOf 10 c = true := by
  have bounds := digit_bounds digit
  simp only [isDigitOf, digitValue?_of_isDigit digit, decide_eq_true_eq]
  omega

theorem isPadding_of_isDigit {c : Char} (digit : c.isDigit = true) : isPadding c = false := by
  have bounds := digit_bounds digit
  have notSpace : c ≠ ' ' := by
    rintro rfl
    simp at bounds
  simp only [isPadding, Bool.or_eq_false_iff, beq_eq_false_iff_ne, Bool.and_eq_false_iff,
    decide_eq_false_iff_not]
  exact ⟨notSpace, by omega⟩

theorem ne_of_isDigit {c other : Char} (digit : c.isDigit = true)
    (notDigit : other.isDigit = false) : c ≠ other := by
  rintro rfl
  simp [digit] at notDigit

theorem ofDigits_ten {digits : List Char} (all : ∀ c ∈ digits, c.isDigit = true) :
    ofDigits 10 digits = Nat.ofDigitChars 10 digits 0 := by
  have onTop (n : Nat) : digits.foldl (fun n c => n * 10 + (digitValue? c).getD 0) n =
      Nat.ofDigitChars 10 digits n := by
    induction digits generalizing n with
    | nil => rfl
    | cons c rest ih =>
      have here := digitValue?_of_isDigit (all c (by simp))
      have later := ih fun other member => all other (List.mem_cons_of_mem _ member)
      rw [List.foldl_cons, here, later, Option.getD_some, Nat.mul_comm]
      rfl
  exact onTop 0

theorem dropSeparators?_digits {digits : List Char} (all : ∀ c ∈ digits, c.isDigit = true)
    {previous : Char} (separate : previous ≠ '_') :
    dropSeparators? (isDigitOf 10) previous digits = some digits := by
  induction digits generalizing previous with
  | nil => simp [dropSeparators?, separate]
  | cons c rest ih =>
    have here : c ≠ '_' := ne_of_isDigit (all c (by simp)) (by decide)
    have later := ih (fun other member => all other (List.mem_cons_of_mem _ member)) here
    simp [dropSeparators?, here, separate, later]

end Numeral

namespace Integer

open Numeral

theorem toList_toString (n : Int) :
    (toString n).toList = (if n < 0 then ['-'] else []) ++ Nat.toDigits 10 n.natAbs := by
  cases n with
  | ofNat k => simp [Int.toString_eq_repr, Int.repr]
  | negSucc k => simp [Int.toString_eq_repr, Int.repr, Int.negSucc_lt_zero]

theorem isDigit_of_mem_toDigits {n : Nat} : ∀ c ∈ Nat.toDigits 10 n, c.isDigit = true :=
  fun _ => Nat.isDigit_of_mem_toDigits (by decide) (by decide)

theorem mem_toString {n : Int} {c : Char} (member : c ∈ (toString n).toList) :
    c = '-' ∨ c.isDigit = true := by
  rw [toList_toString, List.mem_append] at member
  rcases member with sign | digit
  · split at sign
    next => exact .inl (List.mem_singleton.mp sign)
    next => simp at sign
  · exact .inr (isDigit_of_mem_toDigits c digit)

theorem dropBaseMark_ten (text : List Char) : dropBaseMark 10 text = text := by
  unfold dropBaseMark
  split <;> rfl

-- A text of digits, with or without a minus, has no padding, and its characters stand for themselves.
theorem start_of_digits {text : List Char} (written : ∀ c ∈ text, c = '-' ∨ c.isDigit = true) :
    (text.map plainChar).dropWhile isPadding = text := by
  have plain : ∀ c ∈ text, plainChar c = id c := by
    intro c member
    apply plainChar_of_lt
    rcases written c member with rfl | digit
    · decide
    · have bounds := digit_bounds digit
      omega
  rw [List.map_congr_left plain, List.map_id, List.dropWhile_eq_self_iff]
  intro within
  rcases written _ (List.getElem_mem within) with minus | digit
  · simp [minus, isPadding]
  · simp [isPadding_of_isDigit digit]

theorem splitSign_of_digits (negative : Bool) {digits : List Char}
    (all : ∀ c ∈ digits, c.isDigit = true) :
    splitSign ((if negative then ['-'] else []) ++ digits) = (negative, digits) := by
  cases negative with
  | true => rfl
  | false =>
    cases digits with
    | nil => rfl
    | cons c rest =>
      have notMinus : c ≠ '-' := ne_of_isDigit (all c (by simp)) (by decide)
      have notPlus : c ≠ '+' := ne_of_isDigit (all c (by simp)) (by decide)
      simp [splitSign, notMinus, notPlus]

theorem span_of_digits {digits : List Char} (all : ∀ c ∈ digits, c.isDigit = true) :
    (digits.span fun c => isDigitOf 10 c || c == '_') = (digits, []) := by
  have passes : ∀ c ∈ digits, (isDigitOf 10 c || c == '_') = true := by
    intro c member
    simp [isDigitOf_ten (all c member)]
  rw [List.span_eq_takeWhile_dropWhile, List.takeWhile_eq_self_iff.mpr passes,
    List.dropWhile_eq_nil_iff.mpr passes]

theorem length_toDigits_le {n length : Nat} (positive : 0 < length)
    (bounded : n < Nat.pow 10 length) : (Nat.toDigits 10 n).length ≤ length :=
  (Nat.length_toDigits_le_iff (by decide) positive).mpr bounded

theorem read_toString {n : Int} (writable : isWritable n = true) :
    read 10 (toString n) = .ok n := by
  have all : ∀ c ∈ Nat.toDigits 10 n.natAbs, c.isDigit = true := isDigit_of_mem_toDigits
  have start := start_of_digits fun c (member : c ∈ (toString n).toList) => mem_toString member
  have signed : splitSign (toString n).toList = (decide (n < 0), Nat.toDigits 10 n.natAbs) := by
    rw [toList_toString]
    simpa using splitSign_of_digits (decide (n < 0)) all
  have separated := dropSeparators?_digits all (by decide : ' ' ≠ '_')
  have short := length_toDigits_le (by decide) (of_decide_eq_true writable)
  have notLong : ¬ maxDigits < (Nat.toDigits 10 n.natAbs).length := Nat.not_lt.mpr short
  have size : ofDigits 10 (Nat.toDigits 10 n.natAbs) = n.natAbs := by
    rw [ofDigits_ten all, Nat.ofDigitChars_ten_toDigits]
  have value : (if decide (n < 0) = true then -(n.natAbs : Int) else n.natAbs) = n := by
    split
    next negative =>
      rw [decide_eq_true_eq] at negative
      omega
    next positive =>
      rw [decide_eq_true_eq] at positive
      omega
  simp only [read, start, signed, dropBaseMark_ten, span_of_digits all, separated, size, value]
  simp [notLong]

end Integer

end DocGuard
