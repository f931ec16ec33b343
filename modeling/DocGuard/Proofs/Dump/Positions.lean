import DocGuard.Proofs.Dump.Faults
import Mathlib.Data.List.Forall2

set_option autoImplicit false

namespace DocGuard

def Token.moved (distance : Nat) (t : Token) : Token := { t with position := t.position + distance }

namespace Dump

def Fault.moved (distance : Nat) : Fault → Fault
  | .noType position => .noType (position + distance)
  | .wrongLine position => .wrongLine (position + distance)
  | .wrongEntry position => .wrongEntry (position + distance)
  | fault => fault

section Moving

theorem isInvalidDump_moved (distance : Nat) (fault : Fault) :
    (fault.moved distance).isInvalidDump = fault.isInvalidDump := by
  cases fault <;> rfl

theorem complaint?_moved (distance : Nat) (fault : Fault) :
    (fault.moved distance).complaint? =
      fault.complaint?.map fun about => (about.1 + distance, about.2) := by
  cases fault <;> rfl

-- A fault that is moved names a later index, if it names one at all, and complains of the same.
theorem message_moved (distance : Nat) (fault : Fault) :
    match indexNamed fault.message with
    | none => fault.moved distance = fault
    | some index => ∃ complaint, fault.message = said index complaint ∧
        (fault.moved distance).message = said (index + distance) complaint := by
  rw [indexNamed_message]
  cases about : fault.complaint? with
  | none =>
    cases fault with
    | noType | wrongLine | wrongEntry => cases about
    | notList | endlessLine | unwritable => rfl
  | some complaint =>
    refine ⟨complaint.2, message_of_complaint about, message_of_complaint ?_⟩
    rw [complaint?_moved, about, Option.map_some]

-- What is read from a place further on, when all else stays the same.
def shifted {R : Type} (move : R → R) (distance : Nat) (result : Except Fault R) : Except Fault R :=
  (result.map move).mapError (Fault.moved distance)

@[simp]
theorem shifted_ok {R : Type} (move : R → R) (distance : Nat) (r : R) :
    shifted move distance (.ok r) = .ok (move r) := rfl

@[simp]
theorem shifted_error {R : Type} (move : R → R) (distance : Nat) (fault : Fault) :
    shifted move distance (.error fault) = .error (fault.moved distance) := rfl

theorem lineNumber_moved (position distance : Nat) (line : Value) :
    lineNumber (position + distance) line =
      (lineNumber position line).mapError (Fault.moved distance) := by
  have numeral (s : String) : lineNumber.numeral (position + distance) s =
      (lineNumber.numeral position s).mapError (Fault.moved distance) := by
    simp only [lineNumber.numeral]
    cases Integer.read 10 s <;> rfl
  cases line with
  | float x =>
    cases x with
    | finite negative mantissa exponent =>
      simp only [lineNumber]
      cases (Binary64.finite negative mantissa exponent).truncate? <;> rfl
    | nan | infinite => rfl
  | text s => exact numeral s
  | bytes bs =>
    simp only [lineNumber]
    split
    next => exact numeral _
    next => rfl
  | _ => rfl

theorem line?_moved (position distance : Nat) (line : Option Value) :
    line? (position + distance) line =
      (line? position line).mapError (Fault.moved distance) := by
  unfold line?
  split
  next => rfl
  next => rfl
  next =>
    rw [lineNumber_moved]
    cases lineNumber position _ <;> rfl

theorem ofParts_moved (position distance : Nat) (name text : Value) (line : Option Int) :
    ofParts (position + distance) name text line =
      shifted (Token.moved distance) distance (ofParts position name text line) := by
  unfold ofParts
  split <;> rfl

theorem ofFields_moved (position distance : Nat) (fields : List (Value × Value)) :
    ofFields (position + distance) fields =
      shifted (Token.moved distance) distance (ofFields position fields) := by
  unfold ofFields
  split
  next => rfl
  next => rfl
  next =>
    rw [line?_moved]
    cases line? position _ with
    | error fault => rfl
    | ok line => exact ofParts_moved _ _ _ _ _

theorem token_moved (position distance : Nat) (entry : Value) :
    token (position + distance) entry =
      shifted (Token.moved distance) distance (token position entry) := by
  cases shape entry with
  | fields mapping =>
    subst mapping
    exact ofFields_moved position distance _
  | parts _ made => rw [made, made, ofParts_moved]
  | other refused =>
    rw [refused, refused]
    rfl

theorem tokensFrom_moved (position distance : Nat) (entries : List Value) :
    tokensFrom (position + distance) entries =
      shifted (List.map (Token.moved distance)) distance (tokensFrom position entries) := by
  induction entries generalizing position with
  | nil => rfl
  | cons entry rest ih =>
    have next := ih (position + 1)
    rw [Nat.add_right_comm] at next
    simp only [tokensFrom, token_moved, next]
    cases token position entry with
    | error fault => rfl
    | ok first => cases tokensFrom (position + 1) rest <;> rfl

theorem position_of_ofParts {position : Nat} {name text : Value} {line : Option Int} {t : Token}
    (made : ofParts position name text line = .ok t) : t.position = position := by
  unfold ofParts at made
  split at made
  next =>
    cases made
    rfl
  next => cases made

theorem position_of_ofFields {position : Nat} {fields : List (Value × Value)} {t : Token}
    (made : ofFields position fields = .ok t) : t.position = position := by
  unfold ofFields at made
  split at made
  next => cases made
  next => cases made
  next =>
    split at made
    next => cases made
    next => exact position_of_ofParts made

theorem position_of_token {position : Nat} {entry : Value} {t : Token}
    (made : token position entry = .ok t) : t.position = position := by
  cases shape entry with
  | fields mapping =>
    subst mapping
    exact position_of_ofFields made
  | parts _ parts => exact position_of_ofParts ((parts position).symm.trans made)
  | other refused => cases (refused position).symm.trans made

end Moving

section Runs

theorem tokensFrom_append (position : Nat) (first second : List Value) :
    tokensFrom position (first ++ second) =
      match tokensFrom position first with
      | .error fault => .error fault
      | .ok tokens => (tokensFrom (position + first.length) second).map (tokens ++ ·) := by
  induction first generalizing position with
  | nil => cases read : tokensFrom position second <;> simp [tokensFrom, read, Except.map]
  | cons entry rest ih =>
    simp only [List.cons_append, tokensFrom]
    cases token position entry with
    | error fault => rfl
    | ok t =>
      have length : position + 1 + rest.length = position + (entry :: rest).length := by
        rw [List.length_cons]
        omega
      rw [ih, length]
      cases tokensFrom (position + 1) rest with
      | error fault => rfl
      | ok tokens => cases tokensFrom (position + (entry :: rest).length) second <;> rfl

theorem positions_of_tokensFrom {position : Nat} {entries : List Value} {stream : List Token}
    (read : tokensFrom position entries = .ok stream) :
    stream.map (·.position) = List.range' position stream.length := by
  induction entries generalizing position stream with
  | nil =>
    cases read
    rfl
  | cons entry rest ih =>
    simp only [tokensFrom] at read
    cases made : token position entry with
    | error fault => simp [made] at read
    | ok t =>
      cases later : tokensFrom (position + 1) rest with
      | error fault => simp [made, later, Except.map] at read
      | ok tokens =>
        obtain rfl : t :: tokens = stream := by simpa [made, later, Except.map] using read
        rw [List.map_cons, List.length_cons, List.range'_succ, position_of_token made, ih later]

-- What an entry gives when it is the first of a dump.
def alone (entry : Value) : Except Fault Token := token 0 entry

theorem token_eq_alone (position : Nat) (entry : Value) :
    token position entry = shifted (Token.moved position) position (alone entry) := by
  simpa [alone] using token_moved 0 position entry

theorem tokensFrom_of_each {entries : List Value} {read : List Token}
    (each : List.Forall₂ (fun entry t => alone entry = .ok t) entries read) (position : Nat) :
    tokensFrom position entries = .ok (read.mapIdx fun i t => t.moved (i + position)) := by
  induction each generalizing position with
  | nil => rfl
  | cons here _ ih =>
    have later (i : Nat) : i + 1 + position = i + (position + 1) := by omega
    simp [tokensFrom, token_eq_alone, here, ih, List.mapIdx_cons, Except.map, later]

theorem exists_each {entries : List Value} (readable : ∀ entry ∈ entries, ∃ t, alone entry = .ok t) :
    ∃ read, List.Forall₂ (fun entry t => alone entry = .ok t) entries read := by
  induction entries with
  | nil => exact ⟨[], .nil⟩
  | cons entry rest ih =>
    obtain ⟨t, here⟩ := readable entry List.mem_cons_self
    obtain ⟨read, each⟩ := ih fun other member => readable other (List.mem_cons_of_mem _ member)
    exact ⟨t :: read, .cons here each⟩

theorem tokensFrom_of_first {before : List Value}
    (readable : ∀ entry ∈ before, ∃ t, alone entry = .ok t) {entry : Value} {fault : Fault}
    (fails : alone entry = .error fault) (after : List Value) :
    tokensFrom 0 (before ++ entry :: after) = .error (fault.moved before.length) := by
  obtain ⟨read, each⟩ := exists_each readable
  rw [tokensFrom_append, tokensFrom_of_each each]
  simp [tokensFrom, token_eq_alone, fails, Except.map]

theorem each_or_first (entries : List Value) :
    (∀ entry ∈ entries, ∃ t, alone entry = .ok t) ∨
      ∃ before entry after fault, entries = before ++ entry :: after ∧
        (∀ other ∈ before, ∃ t, alone other = .ok t) ∧ alone entry = .error fault := by
  induction entries with
  | nil => exact .inl (by simp)
  | cons entry rest ih =>
    cases here : alone entry with
    | error fault => exact .inr ⟨[], entry, rest, fault, rfl, by simp, here⟩
    | ok t =>
      rcases ih with readable | ⟨before, first, after, fault, rfl, readable, fails⟩
      · exact .inl (List.forall_mem_cons.mpr ⟨⟨t, here⟩, readable⟩)
      · exact .inr ⟨entry :: before, first, after, fault, rfl,
          List.forall_mem_cons.mpr ⟨⟨t, here⟩, readable⟩, fails⟩

end Runs

section Reading

theorem tokens_list (entries : List Value) : tokens (.list entries) = tokensFrom 0 entries := rfl

-- What is looked at in a value: the value itself, or what a mapping holds under `tokens`. A mapping
-- in a mapping is not opened again.
inductive Opens : Value → Value → Prop
  | bare {v : Value} (other : ∀ fields, v ≠ .map fields) : Opens v v
  | wrapped {fields : List (Value × Value)} {inner : Value}
      (held : Value.field? fields "tokens" = some inner) : Opens (.map fields) inner
  | missing {fields : List (Value × Value)} (lacks : Value.field? fields "tokens" = none) :
      Opens (.map fields) .null

-- How a value is read as a dump, entry by entry.
inductive Reading (v : Value) : Except Fault (List Token) → Prop
  | null (opened : Opens v .null) : Reading v (.ok [])
  | notList {inner : Value} (opened : Opens v inner) (filled : inner ≠ .null)
      (other : ∀ entries, inner ≠ .list entries) : Reading v (.error .notList)
  | whole {entries : List Value} {read : List Token} (opened : Opens v (.list entries))
      (each : List.Forall₂ (fun entry t => alone entry = .ok t) entries read) :
      Reading v (.ok (read.mapIdx Token.moved))
  | first {before after : List Value} {entry : Value} {fault : Fault}
      (opened : Opens v (.list (before ++ entry :: after)))
      (readable : ∀ other ∈ before, ∃ t, alone other = .ok t) (fails : alone entry = .error fault) :
      Reading v (.error (fault.moved before.length))

theorem exists_opens (v : Value) : ∃ inner, Opens v inner := by
  cases v with
  | map fields =>
    cases held : Value.field? fields "tokens" with
    | none => exact ⟨.null, .missing held⟩
    | some inner => exact ⟨inner, .wrapped held⟩
  | _ => exact ⟨_, .bare (by simp)⟩

theorem Opens.tokens_eq {v inner : Value} (opened : Opens v inner) :
    tokens v = ofEntries inner := by
  cases opened with
  | bare other =>
    unfold tokens
    split
    next fields => exact absurd rfl (other fields)
    next => rfl
  | wrapped held => simp [tokens, held]
  | missing lacks => simp [tokens, lacks]

theorem ofEntries_of_other {inner : Value} (filled : inner ≠ .null)
    (other : ∀ entries, inner ≠ .list entries) : ofEntries inner = .error .notList := by
  unfold ofEntries
  split
  next => exact absurd rfl filled
  next entries => exact absurd rfl (other entries)
  next => rfl

theorem Reading.tokens_eq {v : Value} {result : Except Fault (List Token)}
    (reading : Reading v result) : tokens v = result := by
  cases reading with
  | null opened => exact opened.tokens_eq
  | notList opened filled other => exact opened.tokens_eq.trans (ofEntries_of_other filled other)
  | whole opened each => exact opened.tokens_eq.trans (tokensFrom_of_each each 0)
  | first opened readable fails =>
    exact opened.tokens_eq.trans (tokensFrom_of_first readable fails _)

theorem exists_reading (v : Value) : ∃ result, Reading v result := by
  obtain ⟨inner, opened⟩ := exists_opens v
  by_cases empty : inner = .null
  · exact ⟨_, .null (empty ▸ opened)⟩
  by_cases other : ∀ entries, inner ≠ .list entries
  · exact ⟨_, .notList opened empty other⟩
  obtain ⟨entries, rfl⟩ : ∃ entries, inner = .list entries := by simpa using other
  rcases each_or_first entries with readable | ⟨before, entry, after, fault, rfl, readable, fails⟩
  · obtain ⟨read, each⟩ := exists_each readable
    exact ⟨_, .whole opened each⟩
  · exact ⟨_, .first opened readable fails⟩

theorem tokens_eq_iff_reading {v : Value} {result : Except Fault (List Token)} :
    tokens v = result ↔ Reading v result := by
  constructor
  · rintro rfl
    obtain ⟨result, reading⟩ := exists_reading v
    exact reading.tokens_eq ▸ reading
  · exact Reading.tokens_eq

theorem indexNamed_of_alone {entry : Value} {fault : Fault} (fails : alone entry = .error fault)
    (own : fault.isInvalidDump = true) (position : Nat) :
    indexNamed (fault.moved position).message = some position := by
  rw [indexNamed_message, complaint?_moved, Option.map_map]
  rcases token_eq_error fails with named | ⟨rfl, _⟩ | ⟨rfl, _⟩
  · obtain ⟨about, complains, start⟩ := Option.map_eq_some_iff.mp named
    simp [complains, start]
  · cases own
  · cases own

theorem positions_of_tokens {v : Value} {stream : List Token} (read : tokens v = .ok stream) :
    stream.map (·.position) = List.range stream.length := by
  obtain ⟨inner, opened⟩ := exists_opens v
  rw [opened.tokens_eq] at read
  unfold ofEntries at read
  split at read
  next =>
    cases read
    rfl
  next => rw [positions_of_tokensFrom read, List.range_eq_range']
  next => cases read

-- The laws of whole dumps: how a value is read, what its tokens and its fault say of places, and how
-- two lists of entries are read one after the other.
theorem reading_exact (v : Value) (first second : List Value) :
    (∀ result, tokens v = result ↔ Reading v result) ∧
    Fault.notList.isInvalidDump = true ∧
    (∀ stream, tokens v = .ok stream →
      stream.map (·.position) = List.range stream.length) ∧
    (∀ entry fault, alone entry = .error fault → fault.isInvalidDump = true →
      ∀ index, indexNamed (fault.moved index).message = some index) ∧
    tokens (.list (first ++ second)) =
      (match tokens (.list first), tokens (.list second) with
      | .error fault, _ => .error fault
      | .ok stream, .ok more => .ok (stream ++ more.map (Token.moved first.length))
      | .ok _, .error fault => .error (fault.moved first.length)) ∧
    ∀ (fault : Fault) (distance : Nat),
      (fault.moved distance).isInvalidDump = fault.isInvalidDump ∧
      match indexNamed fault.message with
      | none => fault.moved distance = fault
      | some index => ∃ complaint, fault.message = said index complaint ∧
          (fault.moved distance).message = said (index + distance) complaint := by
  refine ⟨fun _ => tokens_eq_iff_reading, rfl, fun _ => positions_of_tokens,
    fun _ _ => indexNamed_of_alone, ?_, fun fault distance =>
      ⟨isInvalidDump_moved distance fault, message_moved distance fault⟩⟩
  have moved := tokensFrom_moved 0 first.length second
  rw [Nat.zero_add] at moved
  simp only [tokens_list, tokensFrom_append, Nat.zero_add, moved]
  cases tokensFrom 0 first with
  | error fault => rfl
  | ok stream => cases tokensFrom 0 second <;> rfl

end Reading

end Dump

end DocGuard
