import DocGuard.Dump
import DocGuard.Proofs.Number.Decimal
import DocGuard.Proofs.Value.Writable

set_option autoImplicit false

namespace DocGuard.Dump

section Messages

-- A complaint about one token of a dump.
def said (index : Nat) (complaint : String) : String := s!"Token {index} {complaint}"

-- The index that a message names, which is the number after its first word.
def indexNamed (message : String) : Option Nat :=
  match message.toList with
  | 'T' :: 'o' :: 'k' :: 'e' :: 'n' :: ' ' :: rest =>
    let digits := rest.takeWhile Char.isDigit
    if digits.isEmpty then none else some (Nat.ofDigitChars 10 digits 0)
  | _ => none

theorem indexNamed_said (index : Nat) (complaint : String) :
    indexNamed (said index complaint) = some index := by
  have text : (said index complaint).toList =
      'T' :: 'o' :: 'k' :: 'e' :: 'n' :: ' ' ::
        (Nat.toDigits 10 index ++ ' ' :: complaint.toList) := by
    simp [said, toString]
  have digits : (Nat.toDigits 10 index ++ ' ' :: complaint.toList).takeWhile Char.isDigit =
      Nat.toDigits 10 index := by
    rw [List.takeWhile_append_of_pos Integer.isDigit_of_mem_toDigits]
    simp
  simp [indexNamed, text, digits, Nat.ofDigitChars_ten_toDigits]

-- The entry that a fault is about, and what is wrong with it.
def Fault.complaint? : Fault → Option (Nat × String)
  | .noType position => some (position, "has no type")
  | .wrongLine position => some (position, "has a non-integer line")
  | .wrongEntry position => some (position, "is not a mapping, pair or name")
  | .notList | .endlessLine | .unwritable => none

theorem message_of_complaint {fault : Fault} {index : Nat} {complaint : String}
    (about : fault.complaint? = some (index, complaint)) :
    fault.message = said index complaint := by
  cases fault <;> cases about <;>
    simp only [Fault.message, said, String.append_assoc] <;> rfl

theorem indexNamed_message (fault : Fault) :
    indexNamed fault.message = fault.complaint?.map Prod.fst := by
  cases about : fault.complaint? with
  | some complaint => rw [message_of_complaint about, indexNamed_said, Option.map_some]
  | none =>
    cases fault with
    | noType | wrongLine | wrongEntry => cases about
    | notList | endlessLine | unwritable => decide +kernel

end Messages

section Causes

-- A mapping with a kind, whose line is no number that ends.
def HasEndlessLine (entry : Value) : Prop :=
  ∃ fields name negative, entry = .map fields ∧
    firstField? fields kindKeys = some name ∧ name ≠ .null ∧
    Value.field? fields "line" = some (.float (.infinite negative))

variable {position : Nat} {fault : Fault}

theorem lineNumber_eq_error {line : Value} (refused : lineNumber position line = .error fault) :
    fault = .wrongLine position ∨
      fault = .endlessLine ∧ ∃ negative, line = .float (.infinite negative) := by
  have numeral {s : String} (refused : lineNumber.numeral position s = .error fault) :
      fault = .wrongLine position := by
    simp only [lineNumber.numeral] at refused
    cases read : Integer.read 10 s <;> simp_all [Except.mapError]
  unfold lineNumber at refused
  split at refused
  next => cases refused
  next => cases refused
  next negative =>
    cases refused
    exact .inr ⟨rfl, negative, rfl⟩
  next =>
    split at refused
    next => cases refused
    next =>
      cases refused
      exact .inl rfl
  next => exact .inl (numeral refused)
  next =>
    split at refused
    next => exact .inl (numeral refused)
    next =>
      cases refused
      exact .inl rfl
  next =>
    cases refused
    exact .inl rfl

theorem line?_eq_error {line : Option Value} (refused : line? position line = .error fault) :
    fault = .wrongLine position ∨
      fault = .endlessLine ∧ ∃ negative, line = some (.float (.infinite negative)) := by
  unfold line? at refused
  split at refused
  next => cases refused
  next => cases refused
  next line _ =>
    cases number : lineNumber position line with
    | ok n => simp [number, Except.map] at refused
    | error other =>
      obtain rfl : other = fault := by simpa [number, Except.map] using refused
      simpa using lineNumber_eq_error number

theorem ofParts_eq_error {name text : Value} {line : Option Int}
    (refused : ofParts position name text line = .error fault) :
    fault = .unwritable ∧ (name.isWritable && text.isWritable) = false := by
  unfold ofParts at refused
  split at refused
  next => cases refused
  next long =>
    cases refused
    exact ⟨rfl, by simpa using long⟩

theorem isWritable_of_firstField? {fields : List (Value × Value)}
    (writable : (Value.map fields).isWritable = true) {keys : List String} {v : Value}
    (found : firstField? fields keys = some v) : v.isWritable = true := by
  obtain ⟨_, key, _, _, here, _⟩ := List.findSome?_eq_some_iff.mp found
  exact Value.isWritable_of_field? writable here

theorem isWritable_fieldText {fields : List (Value × Value)}
    (writable : (Value.map fields).isWritable = true) (keys : List String) :
    (fieldText (firstField? fields keys)).isWritable = true := by
  unfold fieldText
  split
  next => rfl
  next => rfl
  next text found => exact isWritable_of_firstField? writable found

theorem ofFields_eq_error {fields : List (Value × Value)}
    (refused : ofFields position fields = .error fault) :
    fault.complaint?.map Prod.fst = some position ∨
      fault = .endlessLine ∧ HasEndlessLine (.map fields) ∨
      fault = .unwritable ∧ (Value.map fields).isWritable = false := by
  unfold ofFields at refused
  split at refused
  next =>
    cases refused
    exact .inl rfl
  next =>
    cases refused
    exact .inl rfl
  next name filled named =>
    split at refused
    next lineFault lined =>
      obtain rfl : lineFault = fault := by simpa using refused
      rcases line?_eq_error lined with rfl | ⟨rfl, negative, endless⟩
      · exact .inl rfl
      · exact .inr (.inl ⟨rfl, fields, name, negative, rfl, named, filled, endless⟩)
    next =>
      obtain ⟨rfl, long⟩ := ofParts_eq_error refused
      refine .inr (.inr ⟨rfl, Bool.eq_false_iff.mpr fun writable => ?_⟩)
      rw [isWritable_of_firstField? writable named, isWritable_fieldText writable] at long
      cases long

-- How an entry is read: by the fields of a mapping, by a kind and a text that are all there is to it,
-- or not at all.
inductive Shape (entry : Value) : Prop
  | fields {fields : List (Value × Value)} (mapping : entry = .map fields)
  | parts {name text : Value} (whole : entry.isWritable = (name.isWritable && text.isWritable))
      (made : ∀ position, token position entry = ofParts position name text none)
  | other (refused : ∀ position, token position entry = .error (.wrongEntry position))

theorem shape (entry : Value) : Shape entry := by
  cases entry with
  | map fields => exact .fields rfl
  | text s => exact @Shape.parts _ (.text s) (.text "") rfl fun _ => rfl
  | list items | tuple items =>
    rcases items with _ | ⟨name, _ | ⟨text, _ | ⟨more, rest⟩⟩⟩
    · exact .other fun _ => rfl
    · exact @Shape.parts _ name (.text "") (by simp [Value.isWritable, Value.areWritable]) fun _ => rfl
    · exact @Shape.parts _ name text (by simp [Value.isWritable, Value.areWritable]) fun _ => rfl
    · exact .other fun _ => rfl
  | _ => exact .other fun _ => rfl

theorem token_eq_error {entry : Value} (refused : token position entry = .error fault) :
    fault.complaint?.map Prod.fst = some position ∨
      fault = .endlessLine ∧ HasEndlessLine entry ∨
      fault = .unwritable ∧ entry.isWritable = false := by
  cases shape entry with
  | fields mapping =>
    subst mapping
    exact ofFields_eq_error refused
  | parts whole made =>
    rw [made] at refused
    obtain ⟨rfl, long⟩ := ofParts_eq_error refused
    exact .inr (.inr ⟨rfl, whole.trans long⟩)
  | other wrong =>
    obtain rfl : .wrongEntry position = fault := Except.error.inj ((wrong position).symm.trans refused)
    exact .inl rfl

theorem token_of_endless {entry : Value} (endless : HasEndlessLine entry) (position : Nat) :
    token position entry = .error .endlessLine := by
  obtain ⟨fields, name, negative, rfl, named, filled, line⟩ := endless
  simp [token, ofFields, named, line, line?, lineNumber, Except.map]

end Causes

end DocGuard.Dump
