import DocGuard.Proofs.Report.Listing
import DocGuard.Proofs.Report.Views
import Mathlib.Data.String.Basic

set_option autoImplicit false

namespace DocGuard

def codePoints (text : String) : List Nat := text.toList.map Char.toNat

theorem lt_iff_codePoints (a b : String) : a < b ↔ codePoints a < codePoints b := by
  rw [String.lt_iff_toList_lt, codePoints, codePoints]
  generalize a.toList = first
  generalize b.toList = second
  induction first generalizing second with
  | nil => cases second <;> simp
  | cons c rest ih =>
    cases second with
    | nil => simp
    | cons d others =>
      have smaller : c < d ↔ c.toNat < d.toNat := Iff.rfl
      have equal : c = d ↔ c.toNat = d.toNat := Char.toNat_inj.symm
      rw [List.map_cons, List.map_cons, List.cons_lt_cons_iff, List.cons_lt_cons_iff, ih, smaller,
        equal]

-- Errors come first, then the path counts, code point by code point, and then the position.
def Finding.NotAfter (f g : Finding) : Prop :=
  f.severity = .error ∧ g.severity = .warning ∨
    f.severity = g.severity ∧ (codePoints f.path < codePoints g.path ∨
      f.path = g.path ∧ f.position ≤ g.position)

theorem Finding.listedBefore_iff_notAfter (f g : Finding) :
    f.listedBefore g = true ↔ f.NotAfter g := by
  have graver : f.severity.rank < g.severity.rank ↔
      f.severity = .error ∧ g.severity = .warning := by
    cases f.severity <;> cases g.severity <;> decide
  rw [listedBefore_iff, NotAfter, graver, Severity.rank_inj, lt_iff_codePoints]

namespace Report

-- Some order of the findings by their keys in which findings of one key stay as they came.
structure IsListing (findings listing : List Finding) : Prop where
  perm : listing.Perm findings
  ordered : listing.Pairwise Finding.NotAfter
  stable : ∀ f : Finding,
    (listing.filter fun g => f.SameKey g) = findings.filter fun g => f.SameKey g

theorem isListing_ordered (r : Report) : IsListing r.findings r.ordered where
  perm := r.ordered_perm
  ordered := r.pairwise_ordered.imp fun before => (Finding.listedBefore_iff_notAfter _ _).mp before
  stable := r.filter_sameKey_ordered

theorem IsListing.unique {findings first second : List Finding} (listing : IsListing findings first)
    (other : IsListing findings second) : first = second := by
  have before {f g : Finding} (notAfter : f.NotAfter g) : f.listedBefore g = true :=
    (Finding.listedBefore_iff_notAfter f g).mpr notAfter
  apply Finding.eq_of_listed (listing.ordered.imp before) (other.ordered.imp before)
  intro f
  rw [listing.stable, other.stable]

section Cut

variable {A : Type}

theorem cut_prefix (limit : Option Int) (items : List A) : cut limit items <+: items := by
  unfold cut
  split
  next => exact List.prefix_rfl
  next => split <;> exact List.take_prefix _ _

theorem length_cut (n : Int) (items : List A) :
    ((cut (some n) items).length : Int) =
      if 0 ≤ n then min n items.length else max 0 (items.length + n) := by
  simp only [cut]
  split
  · rw [List.length_take]
    omega
  · rw [List.length_take]
    omega

-- Whatever is left of the findings once the first of the listing are taken out comes after those.
theorem IsListing.notAfter_of_omitted {findings shown omitted rest : List Finding}
    (listing : IsListing findings (shown ++ rest)) (split : (shown ++ omitted).Perm findings)
    {f g : Finding} (first : f ∈ shown) (left : g ∈ omitted) : f.NotAfter g := by
  have same : omitted.Perm rest :=
    (List.perm_append_left_iff shown).mp (split.trans listing.perm.symm)
  obtain ⟨_, _, across⟩ := List.pairwise_append.mp listing.ordered
  exact across f first g (same.mem_iff.mp left)

end Cut

section Printed

-- The lines of a printed table that stand below its counts.
def belowCounts (table : String) : List (List Char) := (linesOf table).drop 10

-- The text under the title of the findings, in a printed table that has one.
def listed? (table : String) : Option String :=
  match belowCounts table with
  | [] :: title :: _ :: entries =>
    if title = "Top Findings".toList then some (String.ofList (['\n'].intercalate entries)) else none
  | _ => none

variable {r : Report} {limit : Option Int} {text : String}

theorem belowCounts_of_nil (printed : r.table limit = .ok text) (nothing : r.top limit = []) :
    belowCounts text = [] := by
  have lines : r.tableLines limit = r.preamble := by
    rw [tableLines, nothing]
    exact List.append_nil _
  rw [belowCounts, eq_of_table printed, lines,
    linesOf_intercalate r.newline_not_mem_preamble (by simp [preamble])]
  rfl

theorem belowCounts_of_ne_nil (printed : r.table limit = .ok text) (shown : r.top limit ≠ []) :
    belowCounts text = ["".toList, "Top Findings".toList, (ruler 40 '-').toList] ++
      linesOf ("\n".intercalate ((r.top limit).flatMap Finding.entry)) := by
  have lines : r.tableLines limit = r.preamble ++ (["", "Top Findings", ruler 40 '-'] ++
      (r.top limit).flatMap Finding.entry) := by
    rw [tableLines, findingSection, if_neg (by simpa using shown), List.flatMap_def]
  have title : ∀ line ∈ ["", "Top Findings", ruler 40 '-'], '\n' ∉ line.toList := by
    simp [ruler]
  have entries : (r.top limit).flatMap Finding.entry ≠ [] := by
    obtain ⟨f, rest, split⟩ := List.exists_cons_of_ne_nil shown
    simp [split, Finding.entry]
  rw [belowCounts, eq_of_table printed, lines,
    linesOf_intercalate_append r.newline_not_mem_preamble (by simp),
    linesOf_intercalate_append title entries]
  rfl

theorem belowCounts_eq_nil_iff (printed : r.table limit = .ok text) :
    belowCounts text = [] ↔ r.top limit = [] := by
  constructor
  · intro nothing
    by_contra shown
    simp [belowCounts_of_ne_nil printed shown] at nothing
  · exact belowCounts_of_nil printed

theorem listed?_of_table (printed : r.table limit = .ok text) :
    listed? text =
      if r.top limit = [] then none
      else some ("\n".intercalate ((r.top limit).flatMap Finding.entry)) := by
  split
  next nothing => rw [listed?, belowCounts_of_nil printed nothing]
  next shown =>
    rw [listed?, belowCounts_of_ne_nil printed shown]
    simp [ofList_intercalate_linesOf]

end Printed

theorem top_exact (r : Report) :
    ∃ listing, IsListing r.findings listing ∧
      (∀ other, IsListing r.findings other → other = listing) ∧
      r.top none = listing ∧
      (∀ n : Int, ((r.top (some n)).length : Int) =
        if 0 ≤ n then min n r.findings.length else max 0 (r.findings.length + n)) ∧
      ∀ limit, r.top limit <+: listing ∧
        (∀ omitted, (r.top limit ++ omitted).Perm r.findings →
          ∀ f ∈ r.top limit, ∀ g ∈ omitted,
            f.NotAfter g ∧ (f.severity = .warning → g.severity = .warning)) ∧
        ((∃ text, r.table limit = .ok text) ↔
          (∀ n ∈ [r.tally.error, r.tally.warning, r.tally.total], Integer.isWritable n = true) ∧
            ∀ f ∈ r.top limit, Integer.isWritable (f.line.getD f.position) = true) ∧
        ∀ text, r.table limit = .ok text →
          (belowCounts text = [] ↔ r.top limit = []) ∧
          listed? text =
            if r.top limit = [] then none
            else some ("\n".intercalate ((r.top limit).flatMap Finding.entry)) := by
  have listing := r.isListing_ordered
  refine ⟨r.ordered, listing, fun other also => also.unique listing, rfl, ?_, ?_⟩
  · intro n
    rw [top, length_cut, r.ordered_perm.length_eq]
  · intro limit
    obtain ⟨rest, split⟩ := cut_prefix limit r.ordered
    have printed : (∃ text, r.table limit = .ok text) ↔
        (∀ n ∈ [r.tally.error, r.tally.warning, r.tally.total], Integer.isWritable n = true) ∧
          ∀ f ∈ r.top limit, Integer.isWritable (f.line.getD f.position) = true := by
      rw [r.table_succeeds_iff, tableNumbers, List.forall_mem_append, List.forall_mem_map]
      rfl
    refine ⟨⟨rest, split⟩, ?_, printed, fun text printed =>
      ⟨belowCounts_eq_nil_iff printed, listed?_of_table printed⟩⟩
    intro omitted parts f first g left
    rw [← split] at listing
    have notAfter := listing.notAfter_of_omitted parts first left
    refine ⟨notAfter, fun warning => ?_⟩
    rcases notAfter with ⟨error, _⟩ | ⟨same, _⟩
    · simp [warning] at error
    · exact same ▸ warning

-- Two findings of one key, cut apart by the limit, and a capital letter that comes first.
theorem top_exact_tie :
    let mild : Finding := ⟨"A.yaml", 0, none, "X", "mild", "r", .warning⟩
    let one : Finding := ⟨"b.yaml", 3, none, "X", "one", "r", .error⟩
    let two : Finding := ⟨"b.yaml", 3, some 9, "Y", "two", "r", .error⟩
    let capital : Finding := ⟨"Z.yaml", 12, none, "X", "capital", "r", .error⟩
    let r : Report := { tally := ⟨3, 1⟩, findings := [mild, one, two, capital] }
    r.top (some 2) = [capital, one] ∧ ([capital, one] ++ [two, mild]).Perm r.findings ∧
      (∀ f ∈ [capital, one], ∀ g ∈ [two, mild], f.NotAfter g) ∧
      ∃ text, r.table (some 2) = .ok text ∧
        listed? text = some ("\n".intercalate ([capital, one].flatMap Finding.entry)) := by
  intro mild one two capital r
  have graver : mild.listedBefore one = false := by decide +kernel
  have smaller : two.listedBefore capital = false := by decide +kernel
  have first : one.listedBefore capital = false := by decide +kernel
  have tie : one.listedBefore two = true := by decide +kernel
  have shown : r.top (some 2) = [capital, one] := by
    simp [top, ordered, cut, r, List.mergeSort, List.merge, graver, smaller, first, tie]
  have split : ([capital, one] ++ [two, mild]).Perm r.findings := by decide +kernel
  obtain ⟨_, _, _, _, _, cuts⟩ := top_exact r
  obtain ⟨_, after, printed, table⟩ := cuts (some 2)
  rw [shown] at after printed table
  have short : (∀ n ∈ [r.tally.error, r.tally.warning, r.tally.total], Integer.isWritable n = true) ∧
      ∀ f ∈ [capital, one], Integer.isWritable (f.line.getD f.position) = true := by
    decide +kernel
  obtain ⟨text, success⟩ := printed.mpr short
  exact ⟨shown, split, fun f first g left => (after _ split f first g left).1, text, success,
    (table text success).2⟩

-- A finding that is shown, and no table that lists it: its line is too long to be written.
theorem top_without_table :
    let f : Finding := ⟨"a", 0, some (Nat.pow 10 4300), "X", "m", "r", .error⟩
    let r := ({} : Report).add f
    r.top none = [f] ∧ r.table none = .error .tooLong ∧
      ¬ ∃ text, r.table none = .ok text ∧ listed? text = some ("\n".intercalate f.entry) := by
  intro f r
  have shown : r.top none = [f] := by decide +kernel
  have needed : f.shownNumber ∈ r.tableNumbers none := by
    rw [tableNumbers, shown]
    simp
  have fails : r.table none = .error .tooLong := table_eq_error needed (by decide +kernel)
  refine ⟨shown, fails, ?_⟩
  rintro ⟨text, printed, _⟩
  rw [fails] at printed
  cases printed

end Report

end DocGuard
