import DocGuard.Value

set_option autoImplicit false

namespace DocGuard.Value

theorem areWritable_iff {items : List Value} :
    areWritable items = true ↔ ∀ item ∈ items, item.isWritable = true := by
  induction items with
  | nil => simp [areWritable]
  | cons item rest ih => simp [areWritable, ih]

theorem entriesAreWritable_iff {entries : List (Value × Value)} :
    entriesAreWritable entries = true ↔
      ∀ entry ∈ entries, (entry.1.isWritable && entry.2.isWritable) = true := by
  induction entries with
  | nil => simp [entriesAreWritable]
  | cons entry rest ih =>
    obtain ⟨key, value⟩ := entry
    simp [entriesAreWritable, ih]

theorem isWritable_of_field? {fields : List (Value × Value)} (writable : (map fields).isWritable = true)
    {name : String} {v : Value} (found : field? fields name = some v) : v.isWritable = true := by
  obtain ⟨entry, first, rfl⟩ := Option.map_eq_some_iff.mp found
  have both := entriesAreWritable_iff.mp writable entry (List.mem_of_find?_eq_some first)
  exact (Bool.and_eq_true_iff.mp both).2

end DocGuard.Value
