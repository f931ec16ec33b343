import DocGuard.Proofs.Discovery.Sources
import DocGuard.Proofs.FileTree.Saving
import DocGuard.Proofs.Path.Order

set_option autoImplicit false

namespace DocGuard.Discovery

variable {A : Type}

section Below

-- The files below a folder at a path that have one of the endings, each once and in order.
structure Listed (extensions : List String) (p : Path) (entries : List (String × FileTree A))
    (paths : List Path) : Prop where
  exact : ∀ q, q ∈ paths ↔ ∃ names content name ending, q = p.append names ∧
    (FileTree.folder entries).get? names = some (.file content) ∧
    names.getLast? = some name ∧ Path.HasEnding name ending ∧ ending ∈ extensions
  ordered : paths.Pairwise fun a b => a.parts < b.parts

variable {extensions : List String} {entries : List (String × FileTree A)}

theorem isDump_iff {names : List String} :
    isDump extensions names = true ↔
      ∃ name ending, names.getLast? = some name ∧ Path.HasEnding name ending ∧
        ending ∈ extensions := by
  cases last : names.getLast? <;> simp [isDump, last, Path.hasEnding_iff]

theorem mem_dumpsBelow_iff (distinct : FileTree.DistinctIn entries) {names : List String} :
    names ∈ dumpsBelow extensions entries ↔
      (∃ content, (FileTree.folder entries).get? names = some (.file content)) ∧
        isDump extensions names = true := by
  rw [dumpsBelow, List.mem_mergeSort, List.mem_filter]
  simp [FileTree.mem_filesIn_iff distinct]

theorem listed_dumpsBelow (distinct : FileTree.DistinctIn entries) (p : Path) :
    Listed extensions p entries ((dumpsBelow extensions entries).map p.append) where
  exact q := by
    simp only [List.mem_map, mem_dumpsBelow_iff distinct, isDump_iff]
    constructor
    · rintro ⟨names, ⟨⟨content, there⟩, name, ending, last, has, chosen⟩, rfl⟩
      exact ⟨names, content, name, ending, rfl, there, last, has, chosen⟩
    · rintro ⟨names, content, name, ending, rfl, there, last, has, chosen⟩
      exact ⟨names, ⟨⟨content, there⟩, name, ending, last, has, chosen⟩, rfl⟩
  ordered := by
    have apart := (FileTree.nodup_filesIn distinct).filter (isDump extensions)
    refine List.pairwise_map.mpr ((Path.pairwise_lt_mergeSort apart).imp ?_)
    intro a b before
    exact List.append_left_lt before

end Below

section Paths

variable {disk : Disk A} {p : Path}

theorem overlong_of_at? {fault : Path.TooLong} (stops : disk.at? p = .error fault) :
    fault = ⟨p⟩ ∧ p.Overlong := by
  unfold Disk.at? at stops
  split at stops
  next => cases stops
  next =>
    split at stops
    next => cases stops
    next => cases stops
    next => cases stops
    next located =>
      cases stops
      exact ⟨rfl, FileTree.overlong_of_locate located⟩

end Paths

section Sources

variable (disk : Disk A) (extensions : List String)

-- Every folder below the one at a path can be looked up.
def Reachable (p : Path) (entries : List (String × FileTree A)) : Prop :=
  ∀ names inner, (FileTree.folder entries).get? names = some (.folder inner) → names ≠ [] →
    (p.append names).isTooLong = false

-- The dumps that a source stands for.
inductive Stands (source : String) : List Path → Prop
  | file {content : A} (there : disk.at? (Path.ofText source) = .ok (some (.file content))) :
      Stands source [Path.ofText source]
  | nothing (missing : disk.at? (Path.ofText source) = .ok none) : Stands source []
  | folder {entries : List (String × FileTree A)} {paths : List Path}
      (there : disk.at? (Path.ofText source) = .ok (some (.folder entries)))
      (reachable : Reachable (Path.ofText source) entries)
      (listed : Listed extensions (Path.ofText source) entries paths)
      (short : ∀ q ∈ paths, q.isTooLong = false) : Stands source paths

-- The dumps of a source before a path that is too long to be looked up: its own, that of a folder
-- below it, or that of a dump.
inductive Stops (source : String) : List Path → Path → Prop
  | source (long : (Path.ofText source).Overlong)
      (there : disk.at? (Path.ofText source) = .error ⟨Path.ofText source⟩) :
      Stops source [] (Path.ofText source)
  | folder {entries inner : List (String × FileTree A)} {names : List String}
      (there : disk.at? (Path.ofText source) = .ok (some (.folder entries)))
      (below : (FileTree.folder entries).get? names = some (.folder inner))
      (long : ((Path.ofText source).append names).isTooLong = true) :
      Stops source [] ((Path.ofText source).append names)
  | dump {entries : List (String × FileTree A)} {before after : List Path} {q : Path}
      (there : disk.at? (Path.ofText source) = .ok (some (.folder entries)))
      (reachable : Reachable (Path.ofText source) entries)
      (listed : Listed extensions (Path.ofText source) entries (before ++ q :: after))
      (short : ∀ other ∈ before, other.isTooLong = false) (long : q.isTooLong = true) :
      Stops source before q

variable {disk} {extensions}

theorem ofPaths_cons {q : Path} (short : q.isTooLong = false) (rest : List Path) :
    Search.ofPaths (q :: rest) = Search.andThen { dumps := [q] } (.ofPaths rest) := by
  simp [Search.ofPaths, Search.andThen, short]

theorem ofPaths_cases (paths : List Path) :
    (∀ q ∈ paths, q.isTooLong = false) ∧ Search.ofPaths paths = { dumps := paths } ∨
      ∃ before q after, paths = before ++ q :: after ∧
        (∀ other ∈ before, other.isTooLong = false) ∧ q.isTooLong = true ∧
        Search.ofPaths paths = { dumps := before, fault := some ⟨q⟩ } := by
  induction paths with
  | nil => exact .inl ⟨by simp, rfl⟩
  | cons q rest ih =>
    cases here : q.isTooLong with
    | true => exact .inr ⟨[], q, rest, rfl, by simp, here, by simp [Search.ofPaths, here]⟩
    | false =>
      rw [ofPaths_cons here]
      rcases ih with ⟨short, found⟩ | ⟨before, deep, after, rfl, short, long, found⟩
      · exact .inl ⟨List.forall_mem_cons.mpr ⟨here, short⟩, by rw [found]; rfl⟩
      · exact .inr ⟨q :: before, deep, after, rfl, List.forall_mem_cons.mpr ⟨here, short⟩, long,
          by rw [found]; rfl⟩

theorem folder_cases {source : String} {entries : List (String × FileTree A)}
    (there : disk.at? (Path.ofText source) = .ok (some (.folder entries)))
    (distinct : FileTree.DistinctIn entries) :
    (∃ paths, Stands disk extensions source paths ∧
      dumpsAt disk extensions source = { dumps := paths }) ∨
    ∃ before deep, Stops disk extensions source before deep ∧
      dumpsAt disk extensions source = { dumps := before, fault := some ⟨deep⟩ } := by
  simp only [dumpsAt, there]
  split
  next deep first =>
    obtain ⟨names, folder, rfl⟩ := List.mem_map.mp (List.mem_of_find?_eq_some first)
    obtain ⟨_, inner, below⟩ := (FileTree.mem_foldersIn_iff distinct).mp folder
    exact .inr ⟨[], _, .folder there below (List.find?_some first), rfl⟩
  next shallow =>
    have reachable : Reachable (Path.ofText source) entries := by
      intro names inner below named
      have folder := (FileTree.mem_foldersIn_iff distinct).mpr ⟨named, inner, below⟩
      simpa using List.find?_eq_none.mp shallow _ (List.mem_map_of_mem folder)
    have listed := @listed_dumpsBelow _ extensions _ distinct (Path.ofText source)
    rcases ofPaths_cases ((dumpsBelow extensions entries).map (Path.ofText source).append) with
      ⟨short, whole⟩ | ⟨before, deep, after, split, short, long, cut⟩
    · exact .inl ⟨_, .folder there reachable listed short, whole⟩
    · exact .inr ⟨before, deep, .dump there reachable (split ▸ listed) short long, cut⟩

theorem dumpsAt_cases (distinct : disk.tree.Distinct) (extensions : List String) (source : String) :
    (∃ paths, Stands disk extensions source paths ∧
      dumpsAt disk extensions source = { dumps := paths }) ∨
    ∃ before deep, Stops disk extensions source before deep ∧
      dumpsAt disk extensions source = { dumps := before, fault := some ⟨deep⟩ } := by
  cases found : disk.at? (Path.ofText source) with
  | error fault =>
    obtain ⟨rfl, long⟩ := overlong_of_at? found
    exact .inr ⟨[], _, .source long found, by simp only [dumpsAt, found]⟩
  | ok entry =>
    cases entry with
    | none => exact .inl ⟨[], .nothing found, by simp only [dumpsAt, found]⟩
    | some below =>
      cases below with
      | file content => exact .inl ⟨_, .file found, by simp only [dumpsAt, found]⟩
      | folder entries => exact folder_cases found (distinct.at? found)

theorem dumps_exact (distinct : disk.tree.Distinct) (extensions : List String) (sources : List String) :
    (∃ parts, List.Forall₂ (Stands disk extensions) sources parts ∧
      search disk extensions sources = { dumps := parts.flatten }) ∨
    ∃ done source rest parts before deep, sources = done ++ source :: rest ∧
      List.Forall₂ (Stands disk extensions) done parts ∧
      Stops disk extensions source before deep ∧
      search disk extensions sources =
        { dumps := parts.flatten ++ before, fault := some ⟨deep⟩ } := by
  induction sources with
  | nil => exact .inl ⟨[], .nil, rfl⟩
  | cons source sources ih =>
    rw [search]
    rcases dumpsAt_cases distinct extensions source with
      ⟨paths, stands, found⟩ | ⟨before, deep, stops, found⟩
    · rw [found, Search.andThen_of_complete rfl]
      rcases ih with ⟨parts, each, rest⟩ |
        ⟨done, next, more, parts, before, deep, rfl, each, stops, rest⟩
      · exact .inl ⟨paths :: parts, .cons stands each, by simp [rest]⟩
      · exact .inr ⟨source :: done, next, more, paths :: parts, before, deep, rfl,
          .cons stands each, stops, by simp [rest]⟩
    · rw [found, Search.andThen_of_fault rfl]
      exact .inr ⟨[], source, sources, [], before, deep, rfl, .nil, stops, rfl⟩

end Sources

-- A folder may be called like a dump; dots at either end of a name give it no ending.
theorem dumps_exact_nested :
    let r : List (String × FileTree Unit) :=
      [("a", .folder [("x.json", .file ()), ("y.JSON", .file ())]),
        ("a-b", .folder [("x.json", .file ())]),
        ("a.yaml", .folder [(".x.yaml", .file ()), (".yaml", .file ()), ("z.yaml.", .file ())])]
    let tree : FileTree Unit := .folder [("r", .folder r), ("w", .folder [("f", .file ())])]
    let disk : Disk Unit := ⟨tree, ["w"], rfl⟩
    let sources := ["../r", "f/b", "/w/f"]
    let dumps : List Path := [⟨.home, ["..", "r", "a", "x.json"]⟩,
      ⟨.home, ["..", "r", "a-b", "x.json"]⟩, ⟨.home, ["..", "r", "a.yaml", ".x.yaml"]⟩,
      ⟨.root, ["w", "f"]⟩]
    disk.tree.Distinct ∧ ∃ parts, List.Forall₂ (Stands disk usualExtensions) sources parts ∧
      parts.flatten = dumps ∧ search disk usualExtensions sources = { dumps := dumps } := by
  intro r tree disk sources dumps
  have distinct : disk.tree.Distinct := by
    simp [disk, tree, r, FileTree.Distinct, FileTree.DistinctIn]
  have below : dumpsBelow usualExtensions r =
      [["a", "x.json"], ["a-b", "x.json"], ["a.yaml", ".x.yaml"]] := by
    rw [dumpsBelow, List.mergeSort_of_pairwise (by decide +kernel)]
    decide +kernel
  have searched : search disk usualExtensions sources = { dumps := dumps } := by
    have folder : Path.ofText "../r" = ⟨.home, ["..", "r"]⟩ := by decide +kernel
    have missing : Path.ofText "f/b" = ⟨.home, ["f", "b"]⟩ := by decide +kernel
    have file : Path.ofText "/w/f" = ⟨.root, ["w", "f"]⟩ := by decide +kernel
    have inside : disk.at? ⟨.home, ["..", "r"]⟩ = .ok (some (.folder r)) := rfl
    have nothing : disk.at? ⟨.home, ["f", "b"]⟩ = .ok none := rfl
    have single : disk.at? ⟨.root, ["w", "f"]⟩ = .ok (some (.file ())) := rfl
    simp only [sources, search, dumpsAt, folder, missing, file, inside, nothing, single, below]
    decide +kernel
  rcases dumps_exact distinct usualExtensions sources with
    ⟨parts, each, found⟩ | ⟨_, _, _, _, _, _, _, _, _, found⟩
  · have same : parts.flatten = dumps := (Search.mk.inj (found.symm.trans searched)).1
    exact ⟨distinct, parts, each, same, searched⟩
  · cases (Search.mk.inj (found.symm.trans searched)).2

-- A name that no file can have is not passed over as missing.
theorem search_of_nameIsTooLong {name : String} (proper : Path.IsName name) (down : name ≠ "..")
    (noZero : '\x00' ∉ name.toList) (long : Path.nameIsTooLong name = true)
    (extensions : List String) (disk : Disk A) :
    search disk extensions [name] = { dumps := [], fault := some ⟨⟨.home, [name]⟩⟩ } := by
  have plain : Path.hasZero ⟨.home, [name]⟩ = false := by simpa [Path.hasZero] using noZero
  have stopped : disk.at? ⟨.home, [name]⟩ = .error ⟨⟨.home, [name]⟩⟩ := by
    simp [Disk.at?, plain, disk.locate_of_nameIsTooLong long down]
  simp [search, dumpsAt, Path.ofText_of_isName proper, stopped, Search.andThen]

theorem search_stops_at_long_name :
    let name := String.ofList (List.replicate 256 'n')
    let disk : Disk Unit := ⟨.folder [], [], rfl⟩
    disk.tree.get? [name] = none ∧
      search disk usualExtensions [name] = { dumps := [], fault := some ⟨⟨.home, [name]⟩⟩ } := by
  intro name disk
  have absent {c : Char} (other : c ≠ 'n') : c ∉ name.toList := by
    intro member
    rw [String.toList_ofList] at member
    exact other (List.eq_of_mem_replicate member)
  have proper : Path.IsName name := ⟨by decide +kernel, by decide +kernel, absent (by decide)⟩
  exact ⟨rfl, search_of_nameIsTooLong proper (by decide +kernel) (absent (by decide))
    (by decide +kernel) usualExtensions disk⟩

end DocGuard.Discovery
