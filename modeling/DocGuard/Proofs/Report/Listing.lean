import DocGuard.Report.Table

set_option autoImplicit false

namespace DocGuard

theorem Severity.rank_inj {a b : Severity} : a.rank = b.rank ↔ a = b := by
  cases a <;> cases b <;> decide

namespace Finding

theorem listedBefore_iff (a b : Finding) :
    a.listedBefore b = true ↔
      a.severity.rank < b.severity.rank ∨ a.severity.rank = b.severity.rank ∧
        (a.path < b.path ∨ a.path = b.path ∧ a.position ≤ b.position) := by
  unfold listedBefore
  by_cases rank : a.severity.rank = b.severity.rank
  · by_cases path : a.path = b.path
    · simp [rank, path]
    · simp [rank, path]
  · simp [rank]

theorem listedBefore_total (a b : Finding) : (a.listedBefore b || b.listedBefore a) = true := by
  have positions := Int.le_total a.position b.position
  have paths : a.path < b.path ∨ a.path = b.path ∨ b.path < a.path := by
    by_cases less : a.path < b.path
    · exact .inl less
    · by_cases greater : b.path < a.path
      · exact .inr (.inr greater)
      · exact .inr (.inl (String.le_antisymm (String.not_lt.mp greater) (String.not_lt.mp less)))
  rw [Bool.or_eq_true, listedBefore_iff, listedBefore_iff]
  rcases Nat.lt_trichotomy a.severity.rank b.severity.rank with lower | same | higher
  · exact .inl (.inl lower)
  · grind
  · exact .inr (.inl higher)

theorem listedBefore_trans (a b c : Finding) (first : a.listedBefore b = true)
    (second : b.listedBefore c = true) : a.listedBefore c = true := by
  rw [listedBefore_iff] at first second ⊢
  rcases first with lower | ⟨rank, first⟩
  · rcases second with lower' | ⟨rank', _⟩ <;> omega
  · rcases second with lower' | ⟨rank', second⟩
    · omega
    · refine .inr ⟨rank.trans rank', ?_⟩
      rcases first with path | ⟨path, position⟩ <;> rcases second with path' | ⟨path', position'⟩
      · exact .inl (String.lt_trans path path')
      · exact .inl (path' ▸ path)
      · exact .inl (path ▸ path')
      · exact .inr ⟨path.trans path', Int.le_trans position position'⟩

-- What two findings share that are listed before each other.
structure SameKey (a b : Finding) : Prop where
  severity : a.severity = b.severity
  path : a.path = b.path
  position : a.position = b.position

theorem listedBefore_antisymm {a b : Finding} (first : a.listedBefore b = true)
    (second : b.listedBefore a = true) : a.SameKey b := by
  rw [listedBefore_iff] at first second
  rcases first with lower | ⟨rank, first⟩
  · omega
  rcases second with lower | ⟨_, second⟩
  · omega
  rcases first with less | ⟨path, notAfter⟩
  · rcases second with greater | ⟨path, _⟩
    · exact absurd (String.lt_trans less greater) (String.lt_irrefl _)
    · exact absurd (path ▸ less) (String.lt_irrefl _)
  · rcases second with greater | ⟨_, notBefore⟩
    · exact absurd (path ▸ greater) (String.lt_irrefl _)
    · exact ⟨Severity.rank_inj.mp rank, path, Int.le_antisymm notAfter notBefore⟩

namespace SameKey

variable {a b c : Finding}

instance : Decidable (a.SameKey b) :=
  decidable_of_iff (a.severity = b.severity ∧ a.path = b.path ∧ a.position = b.position)
    ⟨fun ⟨severity, path, position⟩ => ⟨severity, path, position⟩,
      fun key => ⟨key.severity, key.path, key.position⟩⟩

theorem refl (a : Finding) : a.SameKey a := ⟨rfl, rfl, rfl⟩

theorem symm (key : a.SameKey b) : b.SameKey a :=
  ⟨key.severity.symm, key.path.symm, key.position.symm⟩

theorem trans (first : a.SameKey b) (second : b.SameKey c) : a.SameKey c :=
  ⟨first.severity.trans second.severity, first.path.trans second.path,
    first.position.trans second.position⟩

theorem listedBefore (key : a.SameKey b) : a.listedBefore b = true := by
  rw [listedBefore_iff, key.severity, key.path, key.position]
  exact .inr ⟨rfl, .inr ⟨rfl, Int.le_refl _⟩⟩

end SameKey

theorem mem_iff_of_sameKey {first second : List Finding}
    (same : ∀ f : Finding, (first.filter fun g => f.SameKey g) = second.filter fun g => f.SameKey g)
    (f : Finding) : f ∈ first ↔ f ∈ second := by
  have key := congrArg (f ∈ ·) (same f)
  simpa [SameKey.refl] using key

-- The first finding of a listing is listed before all others, so two listings start with findings of
-- one key; and the first of that key is the same in both.
theorem eq_of_listed {first second : List Finding}
    (listed : first.Pairwise fun f g => f.listedBefore g = true)
    (otherListed : second.Pairwise fun f g => f.listedBefore g = true)
    (same : ∀ f : Finding,
      (first.filter fun g => f.SameKey g) = second.filter fun g => f.SameKey g) :
    first = second := by
  induction first generalizing second with
  | nil =>
    have none : ∀ f, f ∉ second := fun f present => by
      simpa using (mem_iff_of_sameKey same f).mpr present
    exact (List.eq_nil_iff_forall_not_mem.mpr none).symm
  | cons f rest ih =>
    cases second with
    | nil => simpa using (mem_iff_of_sameKey same f).mp List.mem_cons_self
    | cons g others =>
      have before : f.listedBefore g = true := by
        rcases List.mem_cons.mp ((mem_iff_of_sameKey same g).mpr List.mem_cons_self) with rfl | later
        · exact (SameKey.refl g).listedBefore
        · exact List.rel_of_pairwise_cons listed later
      have after : g.listedBefore f = true := by
        rcases List.mem_cons.mp ((mem_iff_of_sameKey same f).mp List.mem_cons_self) with rfl | later
        · exact (SameKey.refl f).listedBefore
        · exact List.rel_of_pairwise_cons otherListed later
      have key := listedBefore_antisymm before after
      obtain rfl : f = g := by
        have heads := same f
        simp only [List.filter_cons, SameKey.refl, key, decide_true, if_true] at heads
        exact (List.cons.inj heads).1
      have tails (h : Finding) :
          (rest.filter fun g => h.SameKey g) = others.filter fun g => h.SameKey g := by
        have whole := same h
        by_cases here : h.SameKey f <;> simpa [List.filter_cons, here] using whole
      rw [ih listed.of_cons otherListed.of_cons tails]

end Finding

namespace Report

theorem ordered_perm (r : Report) : r.ordered.Perm r.findings := List.mergeSort_perm _ _

theorem pairwise_ordered (r : Report) :
    r.ordered.Pairwise fun f g => f.listedBefore g = true :=
  List.pairwise_mergeSort Finding.listedBefore_trans Finding.listedBefore_total _

theorem ordered_eq_of_perm {a b : Report} (same : a.findings.Perm b.findings)
    (keyed : ∀ f ∈ a.findings, ∀ g ∈ a.findings, f.SameKey g → f = g) :
    a.ordered = b.ordered := by
  have perm : a.ordered.Perm b.ordered := a.ordered_perm.trans (same.trans b.ordered_perm.symm)
  apply perm.eq_of_pairwise _ a.pairwise_ordered b.pairwise_ordered
  intro f g left right before after
  have first : f ∈ a.findings := a.ordered_perm.mem_iff.mp left
  have second : g ∈ a.findings := same.mem_iff.mpr (b.ordered_perm.mem_iff.mp right)
  exact keyed f first g second (Finding.listedBefore_antisymm before after)

-- Findings of one key keep their order.
theorem filter_sameKey_ordered (r : Report) (f : Finding) :
    (r.ordered.filter fun g => f.SameKey g) = r.findings.filter fun g => f.SameKey g := by
  have equals : (r.findings.filter fun g => f.SameKey g).Pairwise
      fun g h => g.listedBefore h = true := by
    rw [List.pairwise_filter]
    apply List.pairwise_of_forall
    intro g h first second
    exact ((of_decide_eq_true first).symm.trans (of_decide_eq_true second)).listedBefore
  have kept : (r.findings.filter fun g => f.SameKey g).Sublist r.ordered :=
    List.sublist_mergeSort Finding.listedBefore_trans Finding.listedBefore_total equals
      List.filter_sublist
  have chosen := kept.filter fun g => f.SameKey g
  rw [List.filter_filter] at chosen
  simp only [Bool.and_self] at chosen
  exact (chosen.eq_of_length (r.ordered_perm.filter _).length_eq.symm).symm

-- Findings with one path stay in order, and only such findings can share a key.
theorem ordered_eq_of_paths {a b : Report}
    (same : ∀ path, (a.findings.filter fun f => f.path = path) =
      b.findings.filter fun f => f.path = path) : a.ordered = b.ordered := by
  apply Finding.eq_of_listed a.pairwise_ordered b.pairwise_ordered
  intro f
  rw [filter_sameKey_ordered, filter_sameKey_ordered]
  have keyed (findings : List Finding) : (findings.filter fun g => f.SameKey g) =
      (findings.filter fun g => g.path = f.path).filter fun g => f.SameKey g := by
    rw [List.filter_filter]
    apply List.filter_congr
    intro g _
    have path : f.SameKey g → g.path = f.path := fun key => key.path.symm
    by_cases key : f.SameKey g
    · simp [key, path key]
    · simp [key]
  rw [keyed a.findings, keyed b.findings, same]

theorem table_congr {a b : Report} {limit : Option Int} (tally : a.tally = b.tally)
    (files : a.files.length = b.files.length) (listed : a.top limit = b.top limit) :
    a.table limit = b.table limit := by
  have verdict : a.status = b.status := by rw [status, status, passed, passed, tally]
  rw [table, table, tally, verdict, files, listed]

end Report

end DocGuard
