import DocGuard.Discovery
import DocGuard.Proofs.Path.Text

set_option autoImplicit false

namespace DocGuard.Discovery

namespace Search

theorem andThen_of_complete {first : Search} (complete : first.fault = none) (rest : Search) :
    first.andThen rest = { rest with dumps := first.dumps ++ rest.dumps } := by
  simp [andThen, complete]

theorem andThen_of_fault {first : Search} {fault : Path.TooLong} (stopped : first.fault = some fault)
    (rest : Search) : first.andThen rest = first := by
  simp [andThen, stopped]

end Search

variable {A : Type} (disk : Disk A) (extensions : List String)

theorem search_fault_eq_none_iff (sources : List String) :
    (search disk extensions sources).fault = none ↔
      ∀ source ∈ sources, (dumpsAt disk extensions source).fault = none := by
  induction sources with
  | nil => simp [search]
  | cons source rest ih =>
    cases found : (dumpsAt disk extensions source).fault with
    | some fault => simp [search, Search.andThen_of_fault found, found]
    | none => simp [search, Search.andThen_of_complete found, found, ih]

theorem search_dumps {sources : List String}
    (complete : (search disk extensions sources).fault = none) :
    (search disk extensions sources).dumps =
      sources.flatMap fun source => (dumpsAt disk extensions source).dumps := by
  induction sources with
  | nil => rfl
  | cons source rest ih =>
    have each := (search_fault_eq_none_iff disk extensions (source :: rest)).mp complete
    obtain ⟨here, others⟩ := List.forall_mem_cons.mp each
    have later := ih ((search_fault_eq_none_iff disk extensions rest).mpr others)
    simp [search, Search.andThen_of_complete here, later]

theorem search_fault_perm {sources others : List String} (same : sources.Perm others) :
    (search disk extensions sources).fault = none ↔
      (search disk extensions others).fault = none := by
  simp only [search_fault_eq_none_iff, same.mem_iff]

theorem search_dumps_perm {sources others : List String} (same : sources.Perm others)
    (complete : (search disk extensions sources).fault = none) :
    (search disk extensions sources).dumps.Perm (search disk extensions others).dumps := by
  rw [search_dumps disk extensions complete,
    search_dumps disk extensions ((search_fault_perm disk extensions same).mp complete)]
  exact same.flatMap_right _

variable {disk} {extensions}

theorem isName_of_mem_dumpsBelow {entries : List (String × FileTree A)}
    (named : FileTree.NamedIn entries) :
    ∀ names ∈ dumpsBelow extensions entries, ∀ name ∈ names, Path.IsName name := by
  intro names member
  rw [dumpsBelow, List.mem_mergeSort] at member
  obtain ⟨file, present, rfl⟩ := List.mem_map.mp (List.mem_filter.mp member).1
  exact FileTree.isName_of_mem_filesIn named file present

theorem regular_dumpsAt (named : disk.tree.Named) (source : String) :
    ∀ p ∈ (dumpsAt disk extensions source).dumps, p.Regular := by
  have root := Path.regular_ofText source
  intro p member
  simp only [dumpsAt] at member
  split at member
  next => simp at member
  next => simp at member
  next =>
    obtain rfl := List.mem_singleton.mp member
    exact root
  next entries found =>
    split at member
    next => simp at member
    next =>
      have inside : FileTree.NamedIn entries := named.at? found
      obtain ⟨names, below, rfl⟩ := List.mem_map.mp ((List.takeWhile_sublist _).subset member)
      exact root.append (isName_of_mem_dumpsBelow inside names below)

theorem regular_search (named : disk.tree.Named) {sources : List String}
    (complete : (search disk extensions sources).fault = none) :
    ∀ p ∈ (search disk extensions sources).dumps, p.Regular := by
  rw [search_dumps disk extensions complete]
  intro p member
  obtain ⟨source, _, found⟩ := List.mem_flatMap.mp member
  exact regular_dumpsAt named source p found

end DocGuard.Discovery
