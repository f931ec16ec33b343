import DocGuard.FileTree
import Mathlib.Data.List.Nodup

set_option autoImplicit false

namespace DocGuard.FileTree

variable {A : Type}

section Below

variable {P : FileTree A → Prop}
  (inherited : ∀ {entries : List (String × FileTree A)} {name : String} {below : FileTree A},
    P (.folder entries) → child? name entries = some below → P below)

include inherited

-- What a folder hands down to its entries holds wherever names lead.
theorem get?_inherits {tree : FileTree A} (holds : P tree) {names : List String}
    {below : FileTree A} (found : tree.get? names = some below) : P below := by
  induction names generalizing tree with
  | nil =>
    simp only [get?, Option.some.injEq] at found
    exact found ▸ holds
  | cons name rest ih =>
    cases tree with
    | file content => simp [get?] at found
    | folder entries =>
      simp only [get?, Option.bind_eq_some_iff] at found
      obtain ⟨next, child, later⟩ := found
      exact ih (inherited holds child) later

theorem at?_inherits {disk : Disk A} (holds : P disk.tree) {p : Path} {below : FileTree A}
    (found : disk.at? p = .ok (some below)) : P below := by
  unfold Disk.at? at found
  split at found
  next => simp at found
  next =>
    split at found
    next names _ => exact get?_inherits inherited holds (Except.ok.inj found)
    all_goals simp at found

end Below

mutual

-- No folder has two entries of one name.
def Distinct : FileTree A → Prop
  | .file _ => True
  | .folder entries => DistinctIn entries

def DistinctIn : List (String × FileTree A) → Prop
  | [] => True
  | (name, tree) :: rest => name ∉ rest.map Prod.fst ∧ Distinct tree ∧ DistinctIn rest

end

theorem child?_eq_none {name : String} {entries : List (String × FileTree A)}
    (absent : name ∉ entries.map Prod.fst) : child? name entries = none := by
  induction entries with
  | nil => rfl
  | cons entry rest ih =>
    obtain ⟨other, later⟩ : name ≠ entry.1 ∧ name ∉ rest.map Prod.fst := by simpa using absent
    simp [child?, Ne.symm other, ih later]

theorem distinct_of_child? {entries : List (String × FileTree A)} {name : String}
    {below : FileTree A} (distinct : DistinctIn entries) (found : child? name entries = some below) :
    below.Distinct := by
  induction entries with
  | nil => simp [child?] at found
  | cons entry rest ih =>
    obtain ⟨_, here, others⟩ := distinct
    simp only [child?] at found
    split at found
    next => exact Option.some.inj found ▸ here
    next => exact ih others found

theorem Distinct.at? {disk : Disk A} (distinct : disk.tree.Distinct) {p : Path} {below : FileTree A}
    (found : disk.at? p = .ok (some below)) : below.Distinct :=
  at?_inherits distinct_of_child? distinct found

theorem get?_folder_cons (name : String) (tree : FileTree A) (rest : List (String × FileTree A))
    (first : String) (more : List String) :
    (folder ((name, tree) :: rest)).get? (first :: more) =
      if name = first then tree.get? more else (folder rest).get? (first :: more) := by
  by_cases same : name = first <;> simp [get?, child?, same]

theorem get?_absent {name : String} {rest : List (String × FileTree A)}
    (absent : name ∉ rest.map Prod.fst) (more : List String) :
    (folder rest).get? (name :: more) = none := by
  simp [get?, child?_eq_none absent]

mutual

theorem mem_files_iff : ∀ {tree : FileTree A}, tree.Distinct → ∀ {names : List String} {content : A},
    (names, content) ∈ tree.files ↔ tree.get? names = some (.file content)
  | .file _, _, names, _ => by cases names <;> simp [files, get?, eq_comm]
  | .folder _, distinct, _, _ => mem_filesIn_iff distinct

theorem mem_filesIn_iff : ∀ {entries : List (String × FileTree A)}, DistinctIn entries →
    ∀ {names : List String} {content : A},
    (names, content) ∈ filesIn entries ↔ (folder entries).get? names = some (.file content)
  | [], _, names, _ => by cases names <;> simp [filesIn, get?, child?]
  | (name, tree) :: rest, ⟨absent, distinct, others⟩, names, content => by
    have below := @mem_files_iff tree distinct
    have beside := @mem_filesIn_iff rest others
    rw [filesIn, List.mem_append, beside]
    cases names with
    | nil => simp [get?]
    | cons first more =>
      rw [get?_folder_cons]
      by_cases same : name = first
      · subst same
        simp [get?_absent absent, below]
      · simp [same]

end

theorem head_of_mem_filesIn {entries : List (String × FileTree A)} {file : List String × A}
    (member : file ∈ filesIn entries) : ∃ name more, file.1 = name :: more ∧
      name ∈ entries.map Prod.fst := by
  induction entries with
  | nil => simp [filesIn] at member
  | cons entry rest ih =>
    rw [filesIn, List.mem_append] at member
    rcases member with here | later
    · obtain ⟨inner, _, rfl⟩ := List.mem_map.mp here
      exact ⟨entry.1, inner.1, rfl, by simp⟩
    · obtain ⟨name, more, names, known⟩ := ih later
      exact ⟨name, more, names, by simp [known]⟩

mutual

theorem nodup_files : ∀ {tree : FileTree A}, tree.Distinct → (tree.files.map Prod.fst).Nodup
  | .file _, _ => by simp [files]
  | .folder _, distinct => nodup_filesIn distinct

theorem nodup_filesIn : ∀ {entries : List (String × FileTree A)}, DistinctIn entries →
    ((filesIn entries).map Prod.fst).Nodup
  | [], _ => by simp [filesIn]
  | (name, tree) :: rest, ⟨absent, distinct, others⟩ => by
    have below := nodup_files distinct
    have beside := nodup_filesIn others
    rw [filesIn, List.map_append, List.map_map]
    refine List.nodup_append.mpr ⟨?_, beside, ?_⟩
    · have prefixed : (files tree).map (Prod.fst ∘ fun file => (name :: file.1, file.2)) =
          ((files tree).map Prod.fst).map (name :: ·) := by simp [Function.comp_def]
      exact prefixed ▸ below.map (List.cons_injective)
    · -- What is listed for the other entries starts with another name.
      intro names here others later
      obtain ⟨inner, _, rfl⟩ := List.mem_map.mp here
      obtain ⟨file, member, rfl⟩ := List.mem_map.mp later
      obtain ⟨other, more, start, known⟩ := head_of_mem_filesIn member
      rw [start]
      rintro same
      exact absent ((List.cons.inj same).1 ▸ known)

end

mutual

theorem mem_folders_iff : ∀ {tree : FileTree A}, tree.Distinct → ∀ {names : List String},
    names ∈ tree.folders ↔ ∃ entries, tree.get? names = some (.folder entries)
  | .file _, _, names => by cases names <;> simp [folders, get?]
  | .folder entries, distinct, names => by
    rw [folders, List.mem_cons, mem_foldersIn_iff distinct]
    cases names <;> simp [get?]

theorem mem_foldersIn_iff : ∀ {entries : List (String × FileTree A)}, DistinctIn entries →
    ∀ {names : List String}, names ∈ foldersIn entries ↔
      names ≠ [] ∧ ∃ inner, (folder entries).get? names = some (.folder inner)
  | [], _, names => by cases names <;> simp [foldersIn, get?, child?]
  | (name, tree) :: rest, ⟨absent, distinct, others⟩, names => by
    have below := @mem_folders_iff tree distinct
    have beside := @mem_foldersIn_iff rest others
    rw [foldersIn, List.mem_append, beside]
    cases names with
    | nil => simp
    | cons first more =>
      rw [get?_folder_cons]
      by_cases same : name = first
      · subst same
        simp [get?_absent absent, below]
      · simp [same]

end

end DocGuard.FileTree
