import DocGuard.RuleSet
import Mathlib.Data.List.Basic

set_option autoImplicit false

namespace DocGuard

theorem Severity.ofSpelling?_eq_some_iff {spelling : String} {level : Severity} :
    ofSpelling? spelling = some level ↔ spelling.map capital = level.name := by
  unfold ofSpelling? ofName
  by_cases error : spelling.map capital = "ERROR"
  · cases level <;> simp [all, name, error, Except.toOption]
  · by_cases warning : spelling.map capital = "WARNING"
    · cases level <;> simp [all, name, warning, Except.toOption]
    · have neither : all.find? (fun level => level.name == spelling.map capital) = none := by
        simp [all, name, Ne.symm error, Ne.symm warning]
      rw [neither]
      cases level <;> simp [name, error, warning, Except.toOption]

theorem Severity.ofSpelling?_eq_none_iff {spelling : String} :
    ofSpelling? spelling = none ↔ ∀ level : Severity, spelling.map capital ≠ level.name := by
  simp [Option.eq_none_iff_forall_ne_some, ofSpelling?_eq_some_iff]

namespace Assoc

variable {K V : Type} [BEq K] [LawfulBEq K]

theorem map_fst_put [DecidableEq K] (entries : List (K × V)) (key : K) (value : V) :
    (put (· == ·) entries key value).map Prod.fst =
      if key ∈ entries.map Prod.fst then entries.map Prod.fst else entries.map Prod.fst ++ [key] := by
  induction entries with
  | nil => simp [put]
  | cons entry rest ih =>
    by_cases here : entry.1 = key
    · simp [put, here]
    · by_cases later : key ∈ rest.map Prod.fst
      · rw [if_pos later] at ih
        simp [put, here, later, ih]
      · rw [if_neg later] at ih
        simp [put, here, later, Ne.symm here, ih]

theorem isSome_get?_iff {entries : List (K × V)} {key : K} :
    (get? entries key).isSome = true ↔ key ∈ entries.map Prod.fst := by
  simp [get?, List.find?_isSome]

end Assoc

namespace RuleSet

-- An entry gives its code a level.
structure Grades (entry : Value × Value) (level : Severity) : Prop where
  writable : (entry.1.isWritable && entry.2.isWritable) = true
  named : entry.2.display.map Severity.capital = level.name

-- An entry cannot be taken over: its level has no such name, or it cannot be written at all.
inductive Refuses : Value × Value → Fault → Prop
  | wrongLevel {code level : Value} (writable : (code.isWritable && level.isWritable) = true)
      (nameless : ∀ severity : Severity, level.display.map Severity.capital ≠ severity.name) :
      Refuses (code, level) (.wrongLevel code level)
  | unwritable {code level : Value} (long : (code.isWritable && level.isWritable) = false) :
      Refuses (code, level) .unwritable

theorem grades_or_refuses (entry : Value × Value) :
    (∃ level, Grades entry level) ∨ ∃ fault, Refuses entry fault := by
  obtain ⟨code, level⟩ := entry
  cases short : code.isWritable && level.isWritable with
  | false => exact .inr ⟨_, .unwritable short⟩
  | true =>
    cases spelled : Severity.ofSpelling? level.display with
    | none => exact .inr ⟨_, .wrongLevel short (Severity.ofSpelling?_eq_none_iff.mp spelled)⟩
    | some severity => exact .inl ⟨severity, short, Severity.ofSpelling?_eq_some_iff.mp spelled⟩

-- The first entry that is refused tells why.
def FirstRefused (entries : List (Value × Value)) (fault : Fault) : Prop :=
  ∃ before entry after, entries = before ++ entry :: after ∧
    (∀ earlier ∈ before, ∃ level, Grades earlier level) ∧ Refuses entry fault

-- The levels of a mapping: one for each text that a code has, in the order in which the texts first
-- come, and always the last that is given.
structure GradedBy (entries : List (Value × Value)) (graded : List (String × Severity)) : Prop where
  codes : graded.map Prod.fst = (entries.map fun entry => entry.1.display).eraseDups
  level : ∀ (code : String) (level : Severity), Assoc.get? graded code = some level ↔
    ∃ last, (entries.filter fun entry => entry.1.display = code).getLast? = some last ∧
      last.2.display.map Severity.capital = level.name

theorem GradedBy.isSome_iff {entries : List (Value × Value)} {graded : List (String × Severity)}
    (gradedBy : GradedBy entries graded) (code : String) :
    (Assoc.get? graded code).isSome = true ↔ ∃ entry ∈ entries, entry.1.display = code := by
  rw [Assoc.isSome_get?_iff, gradedBy.codes, List.mem_eraseDups, List.mem_map]

theorem gradedBy_nil : GradedBy [] [] where
  codes := rfl
  level := by simp

section Step

variable {entry : Value × Value}

theorem grade_of_grades {level : Severity} (grades : Grades entry level)
    (graded : List (String × Severity)) (rest : List (Value × Value)) :
    grade graded (entry :: rest) =
      grade (Assoc.put (· == ·) graded entry.1.display level) rest := by
  obtain ⟨code, spelling⟩ := entry
  obtain ⟨writable, named⟩ := grades
  simp only [grade, writable, Severity.ofSpelling?_eq_some_iff.mpr named, if_true]

theorem grade_of_refuses {fault : Fault} (refuses : Refuses entry fault)
    (graded : List (String × Severity)) (rest : List (Value × Value)) :
    grade graded (entry :: rest) = .error fault := by
  cases refuses with
  | wrongLevel writable nameless =>
    simp only [grade, writable, Severity.ofSpelling?_eq_none_iff.mpr nameless, if_true]
  | unwritable long => simp [grade, long]

theorem GradedBy.put {entries : List (Value × Value)} {graded : List (String × Severity)}
    (gradedBy : GradedBy entries graded) {level : Severity} (grades : Grades entry level) :
    GradedBy (entries ++ [entry]) (Assoc.put (· == ·) graded entry.1.display level) where
  codes := by
    have known : entry.1.display ∈ graded.map Prod.fst ↔
        entry.1.display ∈ entries.map fun entry => entry.1.display := by
      rw [gradedBy.codes, List.mem_eraseDups]
    rw [Assoc.map_fst_put, List.map_append, List.eraseDups_append, gradedBy.codes.symm]
    by_cases there : entry.1.display ∈ graded.map Prod.fst
    · simp [there, known.mp there, List.removeAll]
    · simp [there, mt known.mpr there, List.removeAll, List.eraseDups_cons]
  level := by
    intro code other
    rw [Assoc.get?_put, List.filter_append]
    by_cases same : entry.1.display = code
    · have names : level = other ↔ level.name = other.name := by
        cases level <;> cases other <;> decide
      simp [same, names, grades.named]
    · simpa [same] using gradedBy.level code other

end Step

theorem GradedBy.grade {done rest : List (Value × Value)} {graded result : List (String × Severity)}
    (gradedBy : GradedBy done graded) (accepted : RuleSet.grade graded rest = .ok result) :
    GradedBy (done ++ rest) result := by
  induction rest generalizing done graded with
  | nil =>
    obtain rfl := Except.ok.inj accepted
    rwa [List.append_nil]
  | cons entry rest ih =>
    rcases grades_or_refuses entry with ⟨level, grades⟩ | ⟨fault, refuses⟩
    · rw [grade_of_grades grades] at accepted
      simpa using ih (gradedBy.put grades) accepted
    · rw [grade_of_refuses refuses] at accepted
      contradiction

theorem Refuses.not_grades {entry : Value × Value} {fault : Fault} (refuses : Refuses entry fault)
    (level : Severity) : ¬ Grades entry level := by
  intro grades
  have both := (grade_of_refuses refuses [] []).symm.trans (grade_of_grades grades [] [])
  contradiction

theorem Refuses.unique {entry : Value × Value} {fault other : Fault} (refuses : Refuses entry fault)
    (also : Refuses entry other) : fault = other :=
  Except.error.inj ((grade_of_refuses refuses [] []).symm.trans (grade_of_refuses also [] []))

theorem firstRefused_of_grades {entry : Value × Value} {level : Severity}
    (grades : Grades entry level) (rest : List (Value × Value)) (fault : Fault) :
    FirstRefused (entry :: rest) fault ↔ FirstRefused rest fault := by
  constructor
  · intro ⟨before, refused, after, split, accepted, refuses⟩
    cases before with
    | nil =>
      obtain ⟨rfl, _⟩ := List.cons.inj split
      exact absurd grades (refuses.not_grades level)
    | cons first earlier =>
      obtain ⟨_, rfl⟩ := List.cons.inj split
      exact ⟨earlier, refused, after, rfl, fun e member => accepted e (by simp [member]), refuses⟩
  · intro ⟨before, refused, after, split, accepted, refuses⟩
    refine ⟨entry :: before, refused, after, by simp [split], ?_, refuses⟩
    intro earlier member
    rcases List.mem_cons.mp member with rfl | later
    · exact ⟨level, grades⟩
    · exact accepted earlier later

theorem firstRefused_of_refuses {entry : Value × Value} {own : Fault} (refuses : Refuses entry own)
    (rest : List (Value × Value)) (fault : Fault) :
    FirstRefused (entry :: rest) fault ↔ own = fault := by
  constructor
  · intro ⟨before, refused, after, split, accepted, also⟩
    cases before with
    | nil =>
      obtain ⟨rfl, _⟩ := List.cons.inj split
      exact refuses.unique also
    | cons first earlier =>
      obtain ⟨rfl, _⟩ := List.cons.inj split
      obtain ⟨level, grades⟩ := accepted entry List.mem_cons_self
      exact absurd grades (refuses.not_grades level)
  · intro same
    exact ⟨[], entry, rest, rfl, by simp, same ▸ refuses⟩

theorem grade_eq_error_iff {graded : List (String × Severity)} {entries : List (Value × Value)}
    {fault : Fault} : grade graded entries = .error fault ↔ FirstRefused entries fault := by
  induction entries generalizing graded with
  | nil => simp [grade, FirstRefused]
  | cons entry rest ih =>
    rcases grades_or_refuses entry with ⟨level, grades⟩ | ⟨own, refuses⟩
    · rw [grade_of_grades grades, firstRefused_of_grades grades, ih]
    · rw [grade_of_refuses refuses, firstRefused_of_refuses refuses, Except.error.injEq]

end RuleSet

end DocGuard
