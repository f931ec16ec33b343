import DocGuard.Proofs.Number.Decimal
import DocGuard.Report.Json
import DocGuard.Report.Table
import Mathlib.Data.List.Induction
import Mathlib.Data.String.Basic

set_option autoImplicit false

namespace DocGuard

namespace Integer

variable {A B : Type}

-- A value made of the texts of some numbers: there is one if all of them can be written.
def written (numbers : List Int) (value : A) : Except WriteFault A :=
  if ∀ n ∈ numbers, isWritable n = true then .ok value else .error .tooLong

theorem write_eq (n : Int) : write n = written [n] (toString n) := by
  simp [write, written]

theorem written_map (f : A → B) (numbers : List Int) (value : A) :
    (written numbers value).map f = written numbers (f value) := by
  unfold written
  split <;> rfl

theorem written_pure (f : A → B) (numbers : List Int) (value : A) :
    (written numbers value >>= fun x => pure (f x)) = written numbers (f value) := by
  unfold written
  split <;> rfl

theorem written_bind (f : A → B) (numbers more : List Int) (value : A) :
    (written numbers value >>= fun x => written more (f x)) =
      written (numbers ++ more) (f value) := by
  by_cases first : ∀ n ∈ numbers, isWritable n = true
  · have whole : (∀ n ∈ numbers ++ more, isWritable n = true) ↔ ∀ n ∈ more, isWritable n = true := by
      rw [List.forall_mem_append]
      exact and_iff_right first
    simp only [written, if_pos first, whole]
    rfl
  · have whole : ¬ ∀ n ∈ numbers ++ more, isWritable n = true :=
      fun all => first fun n member => all n (List.mem_append_left _ member)
    simp only [written, if_neg first, if_neg whole]
    rfl

theorem mapM_written (numbers : A → List Int) (value : A → B) (items : List A) :
    (items.mapM fun item => written (numbers item) (value item)) =
      written (items.flatMap numbers) (items.map value) := by
  induction items with
  | nil => rfl
  | cons item rest ih =>
    rw [List.mapM_cons, ih]
    simp only [written_pure, written_bind, List.flatMap_cons, List.map_cons]

theorem written_eq_ok_iff {numbers : List Int} {value other : A} :
    written numbers value = .ok other ↔
      (∀ n ∈ numbers, isWritable n = true) ∧ value = other := by
  unfold written
  split <;> simp_all

theorem written_succeeds_iff {numbers : List Int} {value : A} :
    (∃ other, written numbers value = .ok other) ↔ ∀ n ∈ numbers, isWritable n = true := by
  simp [written_eq_ok_iff]

theorem newline_not_mem_toString (n : Int) : '\n' ∉ (toString n).toList := by
  intro inside
  rcases mem_toString inside with minus | digit
  · simp at minus
  · simp at digit

end Integer

section Lines

def linesOf (text : String) : List (List Char) := text.toList.splitOn '\n'

theorem linesOf_intercalate {lines : List String} (plain : ∀ line ∈ lines, '\n' ∉ line.toList)
    (more : lines ≠ []) : linesOf ("\n".intercalate lines) = lines.map String.toList := by
  rw [linesOf, String.toList_intercalate]
  exact List.splitOn_intercalate '\n' (by simpa using plain) (by simpa using more)

-- Lines without a line end in them come out of the text whole, whatever stands behind them.
theorem linesOf_intercalate_append {before after : List String}
    (plain : ∀ line ∈ before, '\n' ∉ line.toList) (more : after ≠ []) :
    linesOf ("\n".intercalate (before ++ after)) =
      before.map String.toList ++ linesOf ("\n".intercalate after) := by
  induction before with
  | nil => rfl
  | cons first rest ih =>
    have later := ih fun line member => plain line (List.mem_cons_of_mem _ member)
    have here := plain first List.mem_cons_self
    have mark : "\n".toList = ['\n'] := rfl
    simp only [linesOf, String.toList_intercalate, mark] at later ⊢
    rw [List.cons_append, List.map_cons, List.intercalate_cons_of_ne_nil (by simp [more]),
      List.append_assoc, List.singleton_append, List.splitOn_append_cons_self_of_not_mem here, later]
    rfl

theorem ofList_intercalate_linesOf (text : String) :
    String.ofList (['\n'].intercalate (linesOf text)) = text := by
  rw [linesOf, List.intercalate_splitOn, String.ofList_toList]

end Lines

namespace Finding

-- The number in the location of a finding: its line if it is known, its position otherwise.
def shownNumber (f : Finding) : Int := f.line.getD f.position

def place (f : Finding) : String :=
  match f.line with
  | some line => f.path ++ ":" ++ toString line
  | none => f.path ++ "@" ++ toString f.position

def entry (f : Finding) : List String :=
  ["[" ++ f.severity.name ++ "] " ++ f.code ++ " " ++ f.message ++ " (" ++ f.rule ++ ")",
    "  Location: " ++ f.place]

theorem location_eq (f : Finding) : f.location = Integer.written [f.shownNumber] f.place := by
  cases line : f.line <;>
    simp only [location, line, shownNumber, place, Integer.write_eq, Integer.written_map] <;> rfl

end Finding

namespace Report

variable (r : Report) (limit : Option Int)

section Table

theorem countLine_eq (entry : Severity × Int) :
    countLine entry = Integer.written [entry.2] (row entry.1.name (toString entry.2)) := by
  rw [countLine, Integer.write_eq, Integer.written_map]

theorem findingLines_eq (f : Finding) :
    findingLines f = Integer.written [f.shownNumber] f.entry := by
  rw [findingLines, f.location_eq, Integer.written_map]
  rfl

def countLines : List String :=
  [row "ERROR" (toString r.tally.error), row "WARNING" (toString r.tally.warning)]

-- What a table prints above its status.
def heading : List String :=
  ["Scan Summary", ruler 40 '=', header, ruler header.length '-'] ++ r.countLines ++
    [ruler header.length '-']

-- What a table prints above its list of findings.
def preamble : List String :=
  r.heading ++ ["Status    : " ++ r.status, "Files     : " ++ toString r.files.length,
    "Findings  : " ++ toString r.tally.total]

def tableLines : List String := r.preamble ++ findingSection ((r.top limit).map Finding.entry)

-- The numbers that a table has to write, apart from how many files there are.
def tableNumbers : List Int :=
  [r.tally.error, r.tally.warning, r.tally.total] ++ (r.top limit).map Finding.shownNumber

theorem table_eq :
    r.table limit =
      Integer.written (r.tableNumbers limit) ("\n".intercalate (r.tableLines limit)) := by
  have counts : r.tally.rows.mapM countLine =
      Integer.written [r.tally.error, r.tally.warning] r.countLines := by
    rw [funext countLine_eq, Integer.mapM_written]
    rfl
  have entries : (r.top limit).mapM findingLines =
      Integer.written ((r.top limit).map Finding.shownNumber)
        ((r.top limit).map Finding.entry) := by
    rw [funext findingLines_eq, Integer.mapM_written, ← List.map_eq_flatMap]
  rw [table, counts, Integer.write_eq, entries]
  simp only [Integer.written_pure, Integer.written_bind]
  rfl

theorem table_succeeds_iff :
    (∃ text, r.table limit = .ok text) ↔
      ∀ n ∈ r.tableNumbers limit, Integer.isWritable n = true := by
  rw [table_eq]
  exact Integer.written_succeeds_iff

variable {r limit} in
theorem eq_of_table {text : String} (printed : r.table limit = .ok text) :
    text = "\n".intercalate (r.tableLines limit) := by
  rw [table_eq] at printed
  exact (Integer.written_eq_ok_iff.mp printed).2.symm

variable {r limit} in
theorem table_eq_error {n : Int} (needed : n ∈ r.tableNumbers limit)
    (long : Integer.isWritable n = false) : r.table limit = .error .tooLong := by
  rw [table_eq, Integer.written, if_neg]
  intro short
  simp [short n needed] at long

theorem newline_not_mem_row {severity count : String} (plain : '\n' ∉ severity.toList)
    (number : '\n' ∉ count.toList) : '\n' ∉ (row severity count).toList := by
  simp [row, padRight, padLeft, plain, number]

theorem newline_not_mem_heading : ∀ line ∈ r.heading, '\n' ∉ line.toList := by
  have title : '\n' ∉ header.toList := newline_not_mem_row (by decide) (by decide)
  have errors := newline_not_mem_row (by decide : '\n' ∉ "ERROR".toList)
    (Integer.newline_not_mem_toString r.tally.error)
  have warnings := newline_not_mem_row (by decide : '\n' ∉ "WARNING".toList)
    (Integer.newline_not_mem_toString r.tally.warning)
  intro line member
  simp only [heading, countLines, List.cons_append, List.nil_append, List.mem_cons,
    List.not_mem_nil, or_false] at member
  rcases member with rfl | rfl | rfl | rfl | rfl | rfl | rfl
  · decide
  · simp [ruler]
  · exact title
  · simp [ruler]
  · exact errors
  · exact warnings
  · simp [ruler]

theorem newline_not_mem_status : '\n' ∉ ("Status    : " ++ r.status).toList := by
  unfold status
  split <;> decide

theorem newline_not_mem_preamble : ∀ line ∈ r.preamble, '\n' ∉ line.toList := by
  have files : '\n' ∉ (toString r.files.length).toList :=
    Integer.newline_not_mem_toString r.files.length
  have total := Integer.newline_not_mem_toString r.tally.total
  intro line member
  rcases List.mem_append.mp member with above | below
  · exact r.newline_not_mem_heading line above
  · simp only [List.mem_cons, List.not_mem_nil, or_false] at below
    rcases below with rfl | rfl | rfl
    · exact r.newline_not_mem_status
    · rw [String.toList_append, List.mem_append]
      simpa using files
    · rw [String.toList_append, List.mem_append]
      simpa using total

end Table

end Report

namespace Json

mutual

-- The numbers that a value has to write.
def numbers : Json → List Int
  | .null | .bool _ | .text _ => []
  | .number n => [n]
  | .list items => numbersOfItems items
  | .object entries => numbersOfEntries entries

def numbersOfItems : List Json → List Int
  | [] => []
  | item :: items => numbers item ++ numbersOfItems items

def numbersOfEntries : List (String × Json) → List Int
  | [] => []
  | (_, value) :: entries => numbers value ++ numbersOfEntries entries

end

theorem isOk_map {A B : Type} (f : A → B) (result : Except Integer.WriteFault A) :
    (result.map f).isOk = result.isOk := by
  cases result <;> rfl

mutual

theorem isOk_render (level : Nat) : ∀ value : Json,
    (value.render level).isOk = value.numbers.all Integer.isWritable
  | .null | .bool _ | .text _ => rfl
  | .number n => by
    cases short : Integer.isWritable n <;> simp [render, numbers, Integer.write, short] <;> rfl
  | .list items => by
    rw [render, isOk_map, isOk_renderItems, numbers]
  | .object entries => by
    rw [render, isOk_map, isOk_renderEntries, numbers]

theorem isOk_renderItems (level : Nat) : ∀ items : List Json,
    (renderItems level items).isOk = (numbersOfItems items).all Integer.isWritable
  | [] => rfl
  | item :: items => by
    rw [numbersOfItems, List.all_append, ← isOk_render level item, ← isOk_renderItems level items]
    rw [renderItems]
    cases item.render level with
    | error fault => rfl
    | ok text => cases renderItems level items <;> rfl

theorem isOk_renderEntries (level : Nat) : ∀ entries : List (String × Json),
    (renderEntries level entries).isOk = (numbersOfEntries entries).all Integer.isWritable
  | [] => rfl
  | (key, value) :: entries => by
    rw [numbersOfEntries, List.all_append, ← isOk_render level value,
      ← isOk_renderEntries level entries]
    rw [renderEntries]
    cases value.render level with
    | error fault => rfl
    | ok text => cases renderEntries level entries <;> rfl

end

theorem numbersOfItems_map {A : Type} (f : A → Json) (items : List A) :
    numbersOfItems (items.map f) = items.flatMap fun item => (f item).numbers := by
  induction items with
  | nil => rfl
  | cons item rest ih => rw [List.map_cons, numbersOfItems, ih, List.flatMap_cons]

end Json

namespace Report

variable (r : Report)

-- The numbers that the JSON form of a report has to write.
def jsonNumbers : List Int :=
  r.tally.error :: r.tally.warning :: r.findings.flatMap fun f => f.position :: f.line.toList

theorem numbers_toJson : r.toJson.numbers = r.jsonNumbers := by
  have finding (f : Finding) : f.toJson.numbers = f.position :: f.line.toList := by
    cases line : f.line <;> simp [Finding.toJson, line, Json.numbers, Json.numbersOfEntries]
  simp [toJson, Json.numbers, Json.numbersOfEntries, Json.numbersOfItems_map, finding, jsonNumbers]

theorem json_succeeds_iff :
    (∃ text, r.jsonText = .ok text) ↔ ∀ n ∈ r.jsonNumbers, Integer.isWritable n = true := by
  have outcome : r.jsonText.isOk = r.jsonNumbers.all Integer.isWritable := by
    rw [jsonText, Json.isOk_render, numbers_toJson]
  rw [← List.all_eq_true, ← outcome]
  cases r.jsonText <;> simp [Except.isOk, Except.toBool]

end Report

end DocGuard
