import DocGuard.Proofs.FileTree.Files

set_option autoImplicit false

namespace DocGuard

namespace Path

-- What an entry of a folder can be called, and what stands between the slashes of a path.
def IsName (name : String) : Prop := name ≠ "" ∧ name ≠ "." ∧ '/' ∉ name.toList

instance (name : String) : Decidable (IsName name) :=
  inferInstanceAs (Decidable (_ ∧ _))

def Regular (p : Path) : Prop := ∀ name ∈ p.parts, IsName name

theorem not_mem_of_mem_splitOn {mark : Char} {text part : List Char}
    (piece : part ∈ text.splitOn mark) : mark ∉ part := by
  induction text generalizing part with
  | nil => simp_all
  | cons c rest ih =>
    rw [List.splitOn_cons_eq_if_modifyHead] at piece
    by_cases here : c = mark
    · simp only [here, beq_self_eq_true, if_true] at piece
      rcases List.mem_cons.mp piece with rfl | later
      · simp
      · exact ih later
    · cases split : rest.splitOn mark with
      | nil => exact absurd split (List.splitOn_ne_nil mark rest)
      | cons first others =>
        simp only [split, beq_iff_eq, here, if_false, List.modifyHead_cons] at piece
        rcases List.mem_cons.mp piece with rfl | later
        · simp [Ne.symm here, ih (split ▸ List.mem_cons_self)]
        · exact ih (split ▸ List.mem_cons_of_mem _ later)

theorem regular_ofText (text : String) : (ofText text).Regular := by
  intro name member
  simp only [ofText, List.mem_filter, List.mem_map, Bool.and_eq_true, bne_iff_ne, ne_eq] at member
  obtain ⟨⟨part, piece, rfl⟩, notEmpty, notDot⟩ := member
  refine ⟨notEmpty, notDot, ?_⟩
  simpa using not_mem_of_mem_splitOn piece

theorem Regular.append {p : Path} (regular : p.Regular) {names : List String}
    (proper : ∀ name ∈ names, IsName name) : (p.append names).Regular := by
  intro name member
  rcases List.mem_append.mp member with here | below
  · exact regular name here
  · exact proper name below

def partsOf (text : List Char) : List String :=
  ((text.splitOn '/').map String.ofList).filter fun part => part != "" && part != "."

theorem ofText_eq (text : String) : ofText text = ⟨.ofText text.toList, partsOf text.toList⟩ := rfl

theorem partsOf_slash (rest : List Char) : partsOf ('/' :: rest) = partsOf rest := by
  simp [partsOf, List.splitOn_cons_eq_if_modifyHead]

theorem partsOf_intercalate {names : List String} (proper : ∀ name ∈ names, IsName name) :
    partsOf ("/".intercalate names).toList = names := by
  by_cases empty : names = []
  · subst empty
    decide
  · have plain : ∀ part ∈ names.map String.toList, '/' ∉ part := by
      simpa using fun name member => (proper name member).2.2
    have kept : ∀ name ∈ names, (name != "" && name != ".") = true := by
      intro name member
      obtain ⟨notEmpty, notDot, _⟩ := proper name member
      simp [notEmpty, notDot]
    have split := List.splitOn_intercalate '/' plain (by simpa using empty)
    rw [partsOf, String.toList_intercalate]
    simpa [split, Function.comp_def] using kept

-- What is written behind the root starts with no slash, so the root can be told from it.
theorem start_ofText {names : List String} (proper : ∀ name ∈ names, IsName name) (start : Start) :
    Start.ofText (start.text ++ "/".intercalate names).toList = start := by
  have first : ("/".intercalate names).toList.head? ≠ some '/' := by
    cases names with
    | nil => simp
    | cons name rest =>
      obtain ⟨notEmpty, _, plain⟩ := proper name List.mem_cons_self
      obtain ⟨c, others, text⟩ : ∃ c others, name.toList = c :: others :=
        List.exists_cons_of_ne_nil (by simpa using notEmpty)
      have other : c ≠ '/' := by
        rintro rfl
        simp [text] at plain
      cases rest <;> simp [String.toList_intercalate, text, other]
  rw [String.toList_append]
  generalize ("/".intercalate names).toList = body at first
  cases body with
  | nil => cases start <;> rfl
  | cons c others =>
    have other : c ≠ '/' := by simpa using first
    cases start <;> simp [Start.ofText, Start.text, other]

theorem ofText_toText {p : Path} (regular : p.Regular) : ofText p.toText = p := by
  obtain ⟨start, parts⟩ := p
  rw [toText]
  split
  next nothing =>
    obtain ⟨rfl, rfl⟩ := nothing
    decide
  next =>
    have rooted : partsOf (start.text ++ "/".intercalate parts).toList = parts := by
      cases start <;> simpa [Start.text, partsOf_slash] using partsOf_intercalate regular
    rw [ofText_eq, start_ofText regular, rooted]

theorem toText_inj {p q : Path} (regular : p.Regular) (otherRegular : q.Regular)
    (same : p.toText = q.toText) : p = q := by
  rw [← ofText_toText regular, same, ofText_toText otherRegular]

theorem ofText_of_isName {name : String} (proper : IsName name) :
    ofText name = ⟨.home, [name]⟩ := by
  have regular : Regular ⟨.home, [name]⟩ := by simpa [Regular] using proper
  have text : toText ⟨.home, [name]⟩ = name := by simp [toText, Start.text]
  rw [← ofText_toText regular, text]

end Path

namespace FileTree

variable {A : Type}

mutual

-- Every entry has a proper name.
def Named : FileTree A → Prop
  | .file _ => True
  | .folder entries => NamedIn entries

def NamedIn : List (String × FileTree A) → Prop
  | [] => True
  | (name, tree) :: rest => Path.IsName name ∧ Named tree ∧ NamedIn rest

end

mutual

theorem isName_of_mem_files : ∀ {tree : FileTree A}, tree.Named →
    ∀ file ∈ tree.files, ∀ name ∈ file.1, Path.IsName name
  | .file _, _ => by simp [files]
  | .folder _, named => isName_of_mem_filesIn named

theorem isName_of_mem_filesIn : ∀ {entries : List (String × FileTree A)}, NamedIn entries →
    ∀ file ∈ filesIn entries, ∀ name ∈ file.1, Path.IsName name
  | [], _ => by simp [filesIn]
  | (first, tree) :: rest, ⟨proper, named, others⟩ => by
    have below := isName_of_mem_files named
    have beside := isName_of_mem_filesIn others
    intro file member name inside
    rcases List.mem_append.mp member with here | later
    · obtain ⟨inner, innerMember, rfl⟩ := List.mem_map.mp here
      rcases List.mem_cons.mp inside with rfl | deeper
      · exact proper
      · exact below inner innerMember name deeper
    · exact beside file later name inside

end

theorem named_of_child? {name : String} {entries : List (String × FileTree A)}
    (named : NamedIn entries) {below : FileTree A} (found : child? name entries = some below) :
    below.Named := by
  induction entries with
  | nil => simp [child?] at found
  | cons entry rest ih =>
    obtain ⟨key, tree⟩ := entry
    obtain ⟨_, here, others⟩ := named
    simp only [child?] at found
    split at found
    next =>
      obtain rfl := Option.some.inj found
      exact here
    next => exact ih others found

theorem Named.at? {disk : Disk A} (named : disk.tree.Named) {p : Path} {below : FileTree A}
    (found : disk.at? p = .ok (some below)) : below.Named :=
  at?_inherits (fun inside => named_of_child? inside) named found

end FileTree

end DocGuard
