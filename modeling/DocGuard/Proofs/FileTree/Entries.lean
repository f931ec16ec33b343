import DocGuard.FileTree

set_option autoImplicit false

namespace DocGuard.FileTree

variable {A : Type}

inductive Entry (A : Type)
  | file (content : A)
  | folder
  deriving DecidableEq

def entry : FileTree A → Entry A
  | .file content => .file content
  | .folder _ => .folder

-- What stands under names that lead downwards only.
def entryAt (tree : FileTree A) (names : List String) : Option (Entry A) :=
  (tree.get? names).map entry

theorem entryAt_eq_folder {tree : FileTree A} {names : List String} :
    tree.entryAt names = some .folder ↔ ∃ entries, tree.get? names = some (.folder entries) := by
  cases found : tree.get? names with
  | none => simp [entryAt, found]
  | some below => cases below <;> simp [entryAt, found, entry]

theorem entryAt_eq_file {tree : FileTree A} {names : List String} {content : A} :
    tree.entryAt names = some (.file content) ↔ tree.get? names = some (.file content) := by
  cases found : tree.get? names with
  | none => simp [entryAt, found]
  | some below => cases below <;> simp [entryAt, found, entry]

theorem get?_append (tree : FileTree A) (names more : List String) :
    tree.get? (names ++ more) = (tree.get? names).bind fun below => below.get? more := by
  induction names generalizing tree with
  | nil => simp [get?]
  | cons name rest ih =>
    cases tree with
    | file content => simp [get?]
    | folder entries => simp [get?, ih, Option.bind_assoc]

theorem get?_concat {tree : FileTree A} {names : List String} {entries : List (String × FileTree A)}
    (here : tree.get? names = some (.folder entries)) (name : String) :
    tree.get? (names ++ [name]) = child? name entries := by
  cases found : child? name entries <;> simp [get?_append, here, get?, found]

theorem child?_setChild (name other : String) (new : FileTree A)
    (entries : List (String × FileTree A)) :
    child? other (setChild name new entries) =
      if other = name then some new else child? other entries := by
  induction entries with
  | nil =>
    by_cases found : other = name <;> simp [setChild, child?, found, Ne.symm]
  | cons entry rest ih =>
    obtain ⟨key, old⟩ := entry
    by_cases here : key = name
    · subst here
      by_cases found : other = key <;> simp [setChild, child?, found, Ne.symm]
    · by_cases found : other = key
      · subst found
        simp [setChild, child?, here]
      · simp [setChild, child?, here, Ne.symm found, ih]

-- Nothing stands below a tree.
def IsLeaf (tree : FileTree A) : Prop := ∀ name rest, tree.get? (name :: rest) = none

theorem isLeaf_file (content : A) : (file content).IsLeaf := fun _ _ => by simp [get?]

theorem isLeaf_folder : (folder ([] : List (String × FileTree A))).IsLeaf :=
  fun _ _ => by simp [get?, child?]

theorem entryAt_put {tree : FileTree A} {names : List String} {entries : List (String × FileTree A)}
    (parent : tree.get? names = some (.folder entries)) {name : String}
    (vacant : tree.entryAt (names ++ [name]) ≠ some .folder) {new : FileTree A} (leaf : new.IsLeaf)
    (other : List String) :
    (put new (names ++ [name]) tree).entryAt other =
      if other = names ++ [name] then some new.entry else tree.entryAt other := by
  induction names generalizing tree other with
  | nil =>
    obtain rfl := Option.some.inj parent
    cases other with
    | nil => simp [put, entryAt, get?, entry]
    | cons first rest =>
      by_cases same : first = name
      · subst same
        cases rest with
        | nil => simp [put, entryAt, get?, child?_setChild]
        | cons second rest =>
          -- Nothing is below the new leaf, and nothing was below what it takes the place of.
          have old : (folder entries).get? (first :: second :: rest) = none := by
            cases found : child? first entries with
            | none => simp [get?, found]
            | some below =>
              cases below with
              | file content => simp [get?, found]
              | folder inner => simp [entryAt, get?, found, entry] at vacant
          have fresh : (put new [first] (folder entries)).get? (first :: second :: rest) = none := by
            simpa [put, get?, child?_setChild] using leaf second rest
          simp [entryAt, old, fresh]
      · simp [put, entryAt, get?, child?_setChild, same]
  | cons first names ih =>
    cases tree with
    | file content => simp [get?] at parent
    | folder outer =>
      simp only [get?, Option.bind_eq_some_iff] at parent
      obtain ⟨below, child, parent⟩ := parent
      have inner := ih parent (by simpa [entryAt, get?, child] using vacant)
      cases other with
      | nil => simp [put, entryAt, get?, entry]
      | cons start rest =>
        by_cases same : start = first
        · subst same
          simpa [put, entryAt, get?, child?_setChild, child] using inner rest
        · simp [put, entryAt, get?, child?_setChild, same]

-- Where one name of a path leads from a folder; above the root stands the root.
def step (tree : FileTree A) (here : List String) (part : String) :
    Except Obstacle (List String) :=
  match tree.entryAt here.reverse with
  | none => .error .missing
  | some (.file _) => .error .notFolder
  | some .folder =>
    if part = ".." then .ok here.tail
    else if Path.nameIsTooLong part then .error .tooLong
    else if (tree.entryAt (here.reverse ++ [part])).isSome then .ok (part :: here)
    else .error .missing

section Step

variable {tree : FileTree A} {here next : List String} {part : String}

theorem tooLong_of_step (stops : tree.step here part = .error .tooLong) :
    Path.nameIsTooLong part := by
  unfold step at stops
  grind

theorem file_of_step (stops : tree.step here part = .error .notFolder) :
    ∃ content, tree.entryAt here.reverse = some (.file content) := by
  unfold step at stops
  grind

theorem folder_of_entryAt_concat {names : List String} {name : String}
    (there : (tree.entryAt (names ++ [name])).isSome) : tree.entryAt names = some .folder := by
  cases found : tree.get? names with
  | none => simp [entryAt, get?_append, found] at there
  | some below =>
    cases below with
    | file content => simp [entryAt, get?_append, found, get?] at there
    | folder entries => simp [entryAt, found, entry]

theorem folder_of_tail (inside : tree.entryAt here.reverse = some .folder) :
    tree.entryAt here.tail.reverse = some .folder := by
  cases here with
  | nil => exact inside
  | cons last above =>
    rw [List.reverse_cons] at inside
    exact folder_of_entryAt_concat (Option.isSome_of_eq_some inside)

theorem isSome_entryAt_of_step (leads : tree.step here part = .ok next) :
    (tree.entryAt next.reverse).isSome := by
  unfold step at leads
  split at leads
  next => cases leads
  next => cases leads
  next inside =>
    split at leads
    next =>
      obtain rfl := Except.ok.inj leads
      rw [folder_of_tail inside]
      rfl
    next =>
      split at leads
      next => cases leads
      next =>
        split at leads
        next there =>
          obtain rfl := Except.ok.inj leads
          simpa using there
        next => cases leads

theorem step_of_name (inside : tree.entryAt here.reverse = some .folder) (down : part ≠ "..")
    (short : Path.nameIsTooLong part = false)
    (there : (tree.entryAt (here.reverse ++ [part])).isSome) :
    tree.step here part = .ok (part :: here) := by
  simp [step, inside, down, short, there]

end Step

section Locate

variable {tree : FileTree A} {here parts names : List String}

theorem locateFrom_cons (tree : FileTree A) (here : List String) (part : String)
    (parts : List String) :
    tree.locateFrom here (part :: parts) =
      match tree.step here part with
      | .error obstacle => .error obstacle
      | .ok next => tree.locateFrom next parts := by
  rw [locateFrom.eq_def, step]
  cases found : tree.get? here.reverse with
  | none => simp [entryAt, found]
  | some below =>
    cases below with
    | file content => simp [entryAt, found, entry]
    | folder entries =>
      have child := get?_concat found part
      by_cases up : part = ".."
      · simp [entryAt, found, entry, up]
      · cases long : Path.nameIsTooLong part <;> cases inside : child? part entries <;>
          simp [entryAt, found, entry, child, inside, up, long]

theorem locateFrom_append (tree : FileTree A) (here first second : List String) :
    tree.locateFrom here (first ++ second) =
      match tree.locateFrom here first with
      | .error obstacle => .error obstacle
      | .ok names => tree.locateFrom names.reverse second := by
  induction first generalizing here with
  | nil => simp [locateFrom]
  | cons part rest ih =>
    simp only [List.cons_append, locateFrom_cons]
    cases tree.step here part with
    | error obstacle => rfl
    | ok next => exact ih next

theorem isSome_entryAt_of_locateFrom (start : (tree.entryAt here.reverse).isSome)
    (leads : tree.locateFrom here parts = .ok names) : (tree.entryAt names).isSome := by
  induction parts generalizing here with
  | nil =>
    obtain rfl : here.reverse = names := Except.ok.inj leads
    exact start
  | cons part rest ih =>
    rw [locateFrom_cons] at leads
    split at leads
    next => cases leads
    next next moved => exact ih (isSome_entryAt_of_step moved) leads

theorem tooLong_of_locateFrom (stops : tree.locateFrom here parts = .error .tooLong) :
    ∃ name ∈ parts, Path.nameIsTooLong name := by
  induction parts generalizing here with
  | nil => simp [locateFrom] at stops
  | cons part rest ih =>
    rw [locateFrom_cons] at stops
    split at stops
    next obstacle moved =>
      obtain rfl : obstacle = .tooLong := by simpa using stops
      exact ⟨part, List.mem_cons_self, tooLong_of_step moved⟩
    next next moved =>
      obtain ⟨name, member, long⟩ := ih stops
      exact ⟨name, List.mem_cons_of_mem _ member, long⟩

-- A path that stops before a file has an initial part that leads to it.
theorem file_of_locateFrom (stops : tree.locateFrom here parts = .error .notFolder) :
    ∃ first names content, first <+: parts ∧ tree.locateFrom here first = .ok names ∧
      tree.entryAt names = some (.file content) := by
  induction parts generalizing here with
  | nil => simp [locateFrom] at stops
  | cons part rest ih =>
    rw [locateFrom_cons] at stops
    split at stops
    next obstacle moved =>
      obtain rfl : obstacle = .notFolder := by simpa using stops
      obtain ⟨content, there⟩ := file_of_step moved
      exact ⟨[], here.reverse, content, List.nil_prefix, rfl, there⟩
    next next moved =>
      obtain ⟨first, names, content, initial, leads, there⟩ := ih stops
      refine ⟨part :: first, names, content, List.cons_prefix_cons.mpr ⟨rfl, initial⟩, ?_, there⟩
      rw [locateFrom_cons, moved]
      exact leads

end Locate

-- Entries are added, and files may get another content; nothing is taken away.
structure Grows (before after : FileTree A) : Prop where
  folders : ∀ names, before.entryAt names = some .folder → after.entryAt names = some .folder
  present : ∀ names, (before.entryAt names).isSome → (after.entryAt names).isSome

namespace Grows

variable {before after : FileTree A}

theorem step (grows : Grows before after) {here next : List String} {part : String}
    (leads : before.step here part = .ok next) : after.step here part = .ok next := by
  have folder := grows.folders here.reverse
  have present := grows.present (here.reverse ++ [part])
  unfold FileTree.step at leads ⊢
  grind

theorem locateFrom (grows : Grows before after) {here parts names : List String}
    (leads : before.locateFrom here parts = .ok names) :
    after.locateFrom here parts = .ok names := by
  induction parts generalizing here with
  | nil => exact leads
  | cons part rest ih =>
    rw [locateFrom_cons] at leads ⊢
    split at leads
    next => cases leads
    next next moved =>
      rw [grows.step moved]
      exact ih leads

theorem locate (grows : Grows before after) {home names : List String} {p : Path}
    (leads : before.locate home p = .ok names) : after.locate home p = .ok names := by
  unfold FileTree.locate at leads ⊢
  split at leads
  next => cases leads
  next short => simpa [short] using grows.locateFrom leads

end Grows

end DocGuard.FileTree
