import DocGuard.Proofs.FileTree.Entries

set_option autoImplicit false

namespace DocGuard

namespace Path

-- A path or a name in it is longer than a file system takes.
def Overlong (p : Path) : Prop := p.isTooLong = true ∨ ∃ name ∈ p.parts, nameIsTooLong name = true

-- A path that another one passes on its way.
structure Initial (q p : Path) : Prop where
  start : q.start = p.start
  parts : q.parts <+: p.parts

namespace Initial

variable {p q r : Path}

theorem refl (p : Path) : p.Initial p := ⟨rfl, List.prefix_rfl⟩

theorem trans (first : r.Initial q) (second : q.Initial p) : r.Initial p :=
  ⟨first.start.trans second.start, first.parts.trans second.parts⟩

theorem parent (p : Path) : p.parent.Initial p := ⟨rfl, List.dropLast_prefix _⟩

theorem origin (initial : q.Initial p) (home : List String) : q.origin home = p.origin home := by
  rw [Path.origin, Path.origin, initial.start]

end Initial

variable {p q : Path}

theorem isTooLong_iff (p : Path) :
    p.isTooLong = true ↔ 4096 ≤ (p.start.text ++ "/".intercalate p.parts).utf8ByteSize := by
  obtain ⟨start, parts⟩ := p
  simp only [isTooLong, toText, decide_eq_true_eq]
  split
  next nothing =>
    obtain ⟨rfl, rfl⟩ := nothing
    decide
  next => exact Iff.rfl

theorem utf8ByteSize_intercalate_le (names more : List String) :
    ("/".intercalate names).utf8ByteSize ≤ ("/".intercalate (names ++ more)).utf8ByteSize := by
  by_cases none : names = []
  · simp [none]
  · by_cases last : more = []
    · simp [last]
    · rw [String.intercalate_append_of_ne_nil none last, String.utf8ByteSize_append,
        String.utf8ByteSize_append]
      omega

theorem Initial.isTooLong (initial : q.Initial p) (long : q.isTooLong = true) :
    p.isTooLong = true := by
  obtain ⟨more, parts⟩ := initial.parts
  have size := utf8ByteSize_intercalate_le q.parts more
  rw [isTooLong_iff, String.utf8ByteSize_append] at long ⊢
  rw [parts] at size
  rw [initial.start] at long
  omega

theorem isTooLong_parent (fits : p.isTooLong = false) : p.parent.isTooLong = false := by
  apply Bool.eq_false_iff.mpr
  intro long
  simp [(Initial.parent p).isTooLong long] at fits

theorem Initial.overlong (initial : q.Initial p) (long : q.Overlong) : p.Overlong := by
  rcases long with long | ⟨name, member, long⟩
  · exact .inl (initial.isTooLong long)
  · exact .inr ⟨name, initial.parts.subset member, long⟩

theorem Initial.hasZero (initial : q.Initial p) (zero : q.hasZero = true) : p.hasZero = true := by
  obtain ⟨name, member, zero⟩ := List.any_eq_true.mp zero
  exact List.any_eq_true.mpr ⟨name, initial.parts.subset member, zero⟩

theorem parts_eq_concat {name : String} (last : p.parts.getLast? = some name) :
    p.parts = p.parent.parts ++ [name] := by
  obtain ⟨above, parts⟩ := List.getLast?_eq_some_iff.mp last
  simp [parent, parts]

theorem parent_eq_self (nameless : p.parts = []) : p.parent = p := by
  obtain ⟨start, parts⟩ := p
  obtain rfl : parts = [] := nameless
  rfl

end Path

namespace FileTree

variable {A : Type} {tree before middle after : FileTree A} {home names : List String} {p q : Path}

def LeadsTo (tree : FileTree A) (home : List String) (p : Path) (there : Entry A) : Prop :=
  ∃ names, tree.locate home p = .ok names ∧ tree.entryAt names = some there

-- What stands in the way of a file at a path when an attempt to save it ends with a fault.
def Blocked (tree : FileTree A) (home : List String) (p : Path) : WriteFault → Prop
  | .isFolder _ => tree.LeadsTo home p .folder
  | .exists _ | .notFolder _ =>
    ∃ q : Path, q.Initial p.parent ∧ ∃ content, tree.LeadsTo home q (.file content)
  | .tooLong _ => p.Overlong
  | .zero => p.hasZero = true
  | .missing _ => False

-- Under some names stands what stood there, or a folder that was missing above a path.
def Kept (home : List String) (p : Path) (before after : FileTree A) (names : List String) : Prop :=
  after.entryAt names = before.entryAt names ∨
    before.entryAt names = none ∧ after.entryAt names = some .folder ∧
      ∃ q : Path, q.Initial p.parent ∧ after.locate home q = .ok names

def Extended (home : List String) (p : Path) (before after : FileTree A) : Prop :=
  ∀ names, Kept home p before after names

-- The file that a path leads to is the only one that is not kept.
def Saved (home : List String) (p : Path) (content : A) (before after : FileTree A) : Prop :=
  ∃ target, after.locate home p = .ok target ∧
    before.entryAt target ≠ some .folder ∧ after.entryAt target = some (.file content) ∧
    ∀ names, names ≠ target → Kept home p before after names

theorem Extended.refl (home : List String) (p : Path) (tree : FileTree A) :
    Extended home p tree tree := fun _ => .inl rfl

theorem Extended.grows (extended : Extended home p before after) : Grows before after := by
  constructor
  · intro names old
    rcases extended names with same | ⟨missing, _⟩
    · rwa [same]
    · simp [missing] at old
  · intro names old
    rcases extended names with same | ⟨missing, _⟩
    · rwa [same]
    · simp [missing] at old

theorem Kept.grow (grows : Grows middle after) (kept : Kept home p before middle names)
    (same : after.entryAt names = middle.entryAt names) : Kept home p before after names := by
  rcases kept with old | ⟨missing, made, q, initial, leads⟩
  · exact .inl (same.trans old)
  · exact .inr ⟨missing, same.trans made, q, initial, grows.locate leads⟩

theorem Extended.trans (first : Extended home p before middle)
    (second : Extended home p middle after) : Extended home p before after := by
  intro names
  rcases second names with same | ⟨missing, made, above⟩
  · exact (first names).grow second.grows same
  · rcases first names with same | ⟨_, folder, _⟩
    · exact .inr ⟨same ▸ missing, made, above⟩
    · simp [missing] at folder

theorem locate_of_nameless (tree : FileTree A) (home : List String) (nameless : p.parts = []) :
    tree.locate home p = .ok (p.origin home) := by
  obtain ⟨start, parts⟩ := p
  obtain rfl : parts = [] := nameless
  have fits : Path.isTooLong ⟨start, []⟩ = false := by cases start <;> decide
  simp [locate, fits, locateFrom]

theorem overlong_of_locate (stops : tree.locate home p = .error .tooLong) : p.Overlong := by
  unfold locate at stops
  split at stops
  next long => exact .inl long
  next => exact .inr (tooLong_of_locateFrom stops)

theorem file_of_locate (stops : tree.locate home p = .error .notFolder) :
    ∃ q : Path, q.Initial p ∧ ∃ content, tree.LeadsTo home q (.file content) := by
  unfold locate at stops
  split at stops
  next => simp at stops
  next short =>
    obtain ⟨first, names, content, parts, leads, there⟩ := file_of_locateFrom stops
    have initial : Path.Initial ⟨p.start, first⟩ p := ⟨rfl, parts⟩
    have fits : Path.isTooLong ⟨p.start, first⟩ = false :=
      Bool.eq_false_iff.mpr fun long => short (initial.isTooLong long)
    refine ⟨_, initial, content, names, ?_, there⟩
    rw [locate, fits, initial.origin]
    exact leads

-- Where a path goes on after its parent.
theorem locate_concat {above : List String} {name : String} (fits : p.isTooLong = false)
    (last : p.parts.getLast? = some name) (parent : tree.locate home p.parent = .ok above) :
    tree.locate home p = tree.locateFrom above.reverse [name] := by
  rw [locate, Path.isTooLong_parent fits, (Path.Initial.parent p).origin] at parent
  rw [locate, fits, Path.parts_eq_concat last]
  simp only [Bool.false_eq_true, if_false] at parent ⊢
  rw [locateFrom_append, parent]

section Standing

variable (stands : tree.entryAt home = some .folder)

include stands

theorem entryAt_origin (p : Path) : tree.entryAt (p.origin home) = some .folder := by
  have root : tree.entryAt [] = some .folder := by
    cases tree with
    | folder entries => rfl
    | file content => cases home <;> simp [entryAt, get?, entry] at stands
  unfold Path.origin
  split
  · exact stands
  · exact root
  · exact root

theorem isSome_entryAt_of_locate (leads : tree.locate home p = .ok names) :
    (tree.entryAt names).isSome := by
  unfold locate at leads
  split at leads
  next => cases leads
  next =>
    have start := entryAt_origin stands p
    exact isSome_entryAt_of_locateFrom (by simp [start]) leads

end Standing

-- A path whose last name is, or can become, an entry of a folder.
def Opening (tree : FileTree A) (home : List String) (p : Path) (names : List String) : Prop :=
  ∃ above name, names = above ++ [name] ∧ p.parts.getLast? = some name ∧ p.isTooLong = false ∧
    tree.locate home p.parent = .ok above ∧ tree.entryAt above = some .folder ∧
    name ≠ ".." ∧ Path.nameIsTooLong name = false

theorem Opening.locate (opening : tree.Opening home p names)
    (there : (tree.entryAt names).isSome) : tree.locate home p = .ok names := by
  obtain ⟨above, name, rfl, last, fits, parent, folder, down, short⟩ := opening
  rw [locate_concat fits last parent, locateFrom_cons,
    step_of_name (by simpa using folder) down short (by simpa using there)]
  simp [locateFrom]

theorem Opening.grow (opening : before.Opening home p names) (grows : Grows before after) :
    after.Opening home p names := by
  obtain ⟨above, name, rfl, last, fits, parent, folder, proper⟩ := opening
  exact ⟨above, name, rfl, last, fits, grows.locate parent, grows.folders above folder, proper⟩

-- What a leaf put into an opening changes.
theorem Opening.entryAt_put (opening : tree.Opening home p names)
    (vacant : tree.entryAt names ≠ some .folder) {new : FileTree A} (leaf : new.IsLeaf)
    (other : List String) :
    (put new names tree).entryAt other =
      if other = names then some new.entry else tree.entryAt other := by
  obtain ⟨above, name, rfl, _, _, _, folder, _⟩ := opening
  obtain ⟨entries, found⟩ := entryAt_eq_folder.mp folder
  exact FileTree.entryAt_put found vacant leaf other

theorem Opening.grows_put (opening : tree.Opening home p names)
    (vacant : tree.entryAt names ≠ some .folder) {new : FileTree A} (leaf : new.IsLeaf) :
    Grows tree (put new names tree) := by
  have entries := opening.entryAt_put vacant leaf
  constructor
  · intro other old
    have apart : other ≠ names := by
      rintro rfl
      exact vacant old
    rwa [entries, if_neg apart]
  · intro other old
    rw [entries]
    split
    next => rfl
    next => exact old

theorem Opening.locate_put (opening : tree.Opening home p names)
    (vacant : tree.entryAt names ≠ some .folder) {new : FileTree A} (leaf : new.IsLeaf) :
    (put new names tree).locate home p = .ok names :=
  (opening.grow (opening.grows_put vacant leaf)).locate
    (by simp [opening.entryAt_put vacant leaf])

-- All that a slot can be, and why.
inductive SlotOf (tree : FileTree A) (home : List String) (p : Path) :
    Except WriteFault (Slot A) → Prop
  | zero (zero : p.hasZero = true) : SlotOf tree home p (.error .zero)
  | tooLong (long : p.Overlong) : SlotOf tree home p (.error (.tooLong ⟨p⟩))
  | missing (stops : tree.locate home p.parent = .error .missing) :
    SlotOf tree home p (.error (.missing p.toText))
  | notFolder {q : Path} {content : A} (initial : q.Initial p.parent)
    (there : tree.LeadsTo home q (.file content)) : SlotOf tree home p (.error (.notFolder p.toText))
  | folder (leads : tree.LeadsTo home p .folder) : SlotOf tree home p (.ok .folder)
  | taken {names : List String} {found : FileTree A} (opening : tree.Opening home p names)
    (there : tree.get? names = some found) : SlotOf tree home p (.ok (.taken names found))
  | free {names : List String} (opening : tree.Opening home p names)
    (absent : tree.entryAt names = none) : SlotOf tree home p (.ok (.free names))

theorem leadsTo_of_up {above : List String} (fits : p.isTooLong = false)
    (last : p.parts.getLast? = some "..") (parent : tree.locate home p.parent = .ok above)
    (folder : tree.entryAt above = some .folder) : tree.LeadsTo home p .folder := by
  have inside : tree.entryAt above.reverse.reverse = some .folder := by simpa using folder
  refine ⟨above.reverse.tail.reverse, ?_, folder_of_tail inside⟩
  rw [locate_concat fits last parent, locateFrom_cons]
  simp [step, folder, locateFrom]

theorem slotOf_slot (stands : tree.entryAt home = some .folder) (p : Path) :
    SlotOf tree home p (tree.slot home p) := by
  unfold slot
  split
  next zero => exact .zero zero
  next =>
    split
    next long => exact .tooLong (.inl long)
    next fits =>
      replace fits : p.isTooLong = false := by simpa using fits
      split
      next obstacle stops =>
        cases obstacle with
        | missing => exact .missing stops
        | notFolder =>
          obtain ⟨q, initial, content, there⟩ := file_of_locate stops
          exact .notFolder initial there
        | tooLong => exact .tooLong ((Path.Initial.parent p).overlong (overlong_of_locate stops))
      next above leads =>
        split
        next entries name found last =>
          have folder : tree.entryAt above = some .folder := entryAt_eq_folder.mpr ⟨_, found⟩
          split
          next up =>
            rw [beq_iff_eq.mp up] at last
            exact .folder (leadsTo_of_up fits last leads folder)
          next down =>
            split
            next long => exact .tooLong (.inr ⟨name, List.mem_of_getLast? last, long⟩)
            next short =>
              have opening : tree.Opening home p (above ++ [name]) :=
                ⟨above, name, rfl, last, fits, leads, folder, by simpa using down,
                  by simpa using short⟩
              have child := get?_concat found name
              split
              next inside => exact .taken opening (child.trans inside)
              next absent => exact .free opening (by simp [entryAt, child, absent])
        next entries found last =>
          rw [Path.parent_eq_self (List.getLast?_eq_none_iff.mp last)] at leads
          exact .folder ⟨above, leads, entryAt_eq_folder.mpr ⟨_, found⟩⟩
        next noFolder noName =>
          have there := isSome_entryAt_of_locate stands leads
          cases found : tree.get? above with
          | none => simp [entryAt, found] at there
          | some below =>
            cases below with
            | folder entries =>
              cases last : p.parts.getLast? with
              | none => exact absurd last (noName entries found)
              | some name => exact absurd last (noFolder entries name found)
            | file content =>
              exact .notFolder (.refl _) ⟨above, leads, entryAt_eq_file.mpr found⟩

-- The path whose file is to be saved stays fixed while folders above it are made.
theorem makeFolder_cases (stands : tree.entryAt home = some .folder) (initial : q.Initial p.parent) :
    match tree.makeFolder home q with
    | .ok after => Extended home p tree after ∧ ∃ names, after.locate home q = .ok names
    | .error (.missing _) => tree.locate home q.parent = .error .missing
    | .error fault => Blocked tree home p fault := by
  have whole : q.Initial p := initial.trans (.parent p)
  have view := slotOf_slot stands q
  unfold makeFolder
  generalize tree.slot home q = slot at view
  cases view with
  | zero zero => exact whole.hasZero zero
  | tooLong long => exact whole.overlong long
  | missing stops => exact stops
  | notFolder below there => exact ⟨_, below.trans ((Path.Initial.parent q).trans initial), _, there⟩
  | folder leads =>
    obtain ⟨names, leads, _⟩ := leads
    exact ⟨.refl home p tree, names, leads⟩
  | @taken names found opening there =>
    have leads := opening.locate (by simp [entryAt, there])
    cases found with
    | folder entries => exact ⟨.refl home p tree, _, leads⟩
    | file content => exact ⟨q, initial, content, names, leads, entryAt_eq_file.mpr there⟩
  | @free names opening absent =>
    have vacant : tree.entryAt names ≠ some .folder := by simp [absent]
    have leads := opening.locate_put vacant isLeaf_folder
    have entries := opening.entryAt_put vacant isLeaf_folder
    refine ⟨fun other => ?_, _, leads⟩
    by_cases same : other = names
    · subst same
      exact .inr ⟨absent, by rw [entries, if_pos rfl]; rfl, q, initial, leads⟩
    · exact .inl (by rw [entries, if_neg same])

-- How an attempt to make the folder `q` above a path ends.
def Settled (home : List String) (p q : Path) (before : FileTree A) (attempt : Attempt A) : Prop :=
  Extended home p before attempt.tree ∧
    match attempt.fault with
    | none => ∃ names, attempt.tree.locate home q = .ok names
    | some fault => Blocked attempt.tree home p fault

theorem settled_makeFolder (stands : tree.entryAt home = some .folder)
    (initial : q.Initial p.parent)
    (reached : ∀ text, tree.makeFolder home q ≠ .error (.missing text)) :
    Settled home p q tree (.ofStep tree (tree.makeFolder home q)) := by
  have result := makeFolder_cases stands initial
  cases made : tree.makeFolder home q with
  | ok after =>
    rw [made] at result
    exact result
  | error fault =>
    rw [made] at result
    refine ⟨.refl home p tree, ?_⟩
    cases fault with
    | missing text => exact absurd made (reached text)
    | _ => exact result

theorem makeFolder_ne_missing (stands : tree.entryAt home = some .folder)
    (initial : q.Initial p.parent) (leads : tree.locate home q.parent = .ok names) (text : String) :
    tree.makeFolder home q ≠ .error (.missing text) := by
  intro stops
  have result := makeFolder_cases stands initial
  simp [stops, leads] at result

theorem settled_makeFolders (stands : tree.entryAt home = some .folder) (bound : Nat)
    (initial : q.Initial p.parent) (bounded : q.parts.length ≤ bound) :
    Settled home p q tree (makeFolders home bound q tree) := by
  induction bound generalizing q with
  | zero =>
    have nameless : q.parent.parts = [] := by
      simp [Path.parent, List.length_eq_zero_iff.mp (Nat.le_zero.mp bounded)]
    exact settled_makeFolder stands initial
      (makeFolder_ne_missing stands initial (locate_of_nameless tree home nameless))
  | succ bound ih =>
    rw [makeFolders]
    split
    next =>
      have above : q.parent.Initial p.parent := (Path.Initial.parent q).trans initial
      have fewer : q.parent.parts.length ≤ bound := by
        simp [Path.parent]
        omega
      obtain ⟨extended, ending⟩ := ih above fewer
      unfold Attempt.andThen
      cases fault : (makeFolders home bound q.parent tree).fault with
      | some stop =>
        simp only [fault] at ending ⊢
        exact ⟨extended, by simpa [fault] using ending⟩
      | none =>
        simp only [fault] at ending ⊢
        obtain ⟨names, leads⟩ := ending
        have still := extended.grows.folders home stands
        obtain ⟨further, ending⟩ :=
          settled_makeFolder still initial (makeFolder_ne_missing still initial leads)
        exact ⟨extended.trans further, ending⟩
    next reached => exact settled_makeFolder stands initial reached

-- What writing a file where the folder above it is reached comes to.
def Written (home : List String) (p : Path) (content : A) (before after : FileTree A) : Prop :=
  Grows before after ∧
    ∃ target, after.locate home p = .ok target ∧ before.entryAt target ≠ some .folder ∧
      ∀ names, after.entryAt names =
        if names = target then some (.file content) else before.entryAt names

theorem Opening.written (opening : tree.Opening home p names)
    (vacant : tree.entryAt names ≠ some .folder) (content : A) :
    Written home p content tree (put (.file content) names tree) := by
  have leaf := isLeaf_file content
  exact ⟨opening.grows_put vacant leaf, names, opening.locate_put vacant leaf, vacant,
    opening.entryAt_put vacant leaf⟩

theorem writeFile_cases (stands : tree.entryAt home = some .folder)
    (leads : tree.locate home p.parent = .ok names) (content : A) :
    match tree.writeFile home p content with
    | .ok after => Written home p content tree after
    | .error fault => Blocked tree home p fault := by
  have view := slotOf_slot stands p
  unfold writeFile
  generalize tree.slot home p = slot at view
  cases view with
  | zero zero => exact zero
  | tooLong long => exact long
  | missing stops => simp [leads] at stops
  | notFolder initial there => exact ⟨_, initial, _, there⟩
  | folder leads => exact leads
  | @taken names found opening there =>
    cases found with
    | folder entries =>
      exact ⟨names, opening.locate (by simp [entryAt, there]), entryAt_eq_folder.mpr ⟨_, there⟩⟩
    | file old => exact opening.written (by simp [entryAt_eq_file.mpr there]) content
  | free opening absent => exact opening.written (by simp [absent]) content

theorem Written.saved {content : A} (extended : Extended home p before middle)
    (written : Written home p content middle after) : Saved home p content before after := by
  obtain ⟨grows, target, leads, vacant, entries⟩ := written
  refine ⟨target, leads, ?_, by rw [entries, if_pos rfl], ?_⟩
  · exact fun folder => vacant (extended.grows.folders target folder)
  · exact fun names apart => (extended names).grow grows (by rw [entries, if_neg apart])

theorem save_cases (stands : tree.entryAt home = some .folder) (p : Path) (content : A) :
    let attempt := tree.save home p content
    match attempt.fault with
    | none => Saved home p content tree attempt.tree
    | some fault => Blocked attempt.tree home p fault ∧ Extended home p tree attempt.tree := by
  have bounded : p.parent.parts.length ≤ p.parts.length := by simp [Path.parent]
  obtain ⟨extended, ending⟩ := settled_makeFolders stands _ (.refl p.parent) bounded
  unfold save Attempt.andThen
  cases fault : (makeFolders home p.parts.length p.parent tree).fault with
  | some stop =>
    simp only [fault] at ending ⊢
    exact ⟨ending, extended⟩
  | none =>
    simp only [fault] at ending ⊢
    obtain ⟨names, leads⟩ := ending
    have result := writeFile_cases (extended.grows.folders home stands) leads content
    split at result
    next after written =>
      rw [written]
      exact result.saved extended
    next stop failed =>
      rw [failed]
      exact ⟨result, extended⟩

end FileTree

namespace Disk

variable {A : Type} (disk : Disk A)

theorem entryAt_home : disk.tree.entryAt disk.home = some .folder := by
  have stands := disk.stands
  cases found : disk.tree.get? disk.home with
  | none => simp [found] at stands
  | some below =>
    cases below with
    | file content => simp [found, FileTree.isFolder] at stands
    | folder entries => exact FileTree.entryAt_eq_folder.mpr ⟨entries, found⟩

-- A name that is too long stands in no folder.
theorem locate_of_nameIsTooLong {name : String} (long : Path.nameIsTooLong name = true)
    (down : name ≠ "..") : disk.tree.locate disk.home ⟨.home, [name]⟩ = .error .tooLong := by
  have inside : disk.tree.entryAt disk.home.reverse.reverse = some .folder := by
    simpa using disk.entryAt_home
  have stuck : disk.tree.step disk.home.reverse name = .error .tooLong := by
    rw [FileTree.step, inside]
    simp [down, long]
  rw [FileTree.locate]
  split
  · rfl
  · rw [FileTree.locateFrom_cons, Path.origin, stuck]

theorem save_of_nameIsTooLong {name : String} (long : Path.nameIsTooLong name = true)
    (down : name ≠ "..") (noZero : Path.hasZero ⟨.home, [name]⟩ = false) (content : A) :
    disk.save ⟨.home, [name]⟩ content =
      ⟨disk.tree, some (.tooLong ⟨⟨.home, [name]⟩⟩)⟩ := by
  obtain ⟨entries, found⟩ := FileTree.entryAt_eq_folder.mp disk.entryAt_home
  have parent : disk.tree.locate disk.home ⟨.home, []⟩ = .ok disk.home :=
    FileTree.locate_of_nameless disk.tree disk.home rfl
  have above : disk.tree.slot disk.home ⟨.home, []⟩ = .ok .folder := by
    have fits : Path.isTooLong ⟨.home, []⟩ = false := by decide
    simp [FileTree.slot, Path.hasZero, fits, Path.parent, parent, found]
  have here : disk.tree.slot disk.home ⟨.home, [name]⟩ =
      .error (.tooLong ⟨⟨.home, [name]⟩⟩) := by
    simp [FileTree.slot, noZero, Path.parent, parent, found, down, long]
  simp [save, FileTree.save, FileTree.makeFolders, FileTree.makeFolder, Path.parent, above,
    FileTree.Attempt.ofStep, FileTree.Attempt.andThen, FileTree.writeFile, here]
theorem save_cases (p : Path) (content : A) :
    let attempt := disk.save p content
    match attempt.fault with
    | none => FileTree.Saved disk.home p content disk.tree attempt.tree
    | some fault => FileTree.Blocked attempt.tree disk.home p fault ∧
        FileTree.Extended disk.home p disk.tree attempt.tree :=
  FileTree.save_cases disk.entryAt_home p content

end Disk

end DocGuard
