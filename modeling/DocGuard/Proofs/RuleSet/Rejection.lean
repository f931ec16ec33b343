import DocGuard.Proofs.RuleSet.Objections

set_option autoImplicit false

namespace DocGuard.RuleSet

-- What a rule set must not be.
inductive Disallowed : Value → Prop
  | notMapping {v : Value} (other : ∀ fields, v ≠ .map fields) : Disallowed v
  | rulesShape {fields : List (Value × Value)} {v : Value}
      (found : Value.field? fields "rules" = some v) (filled : v ≠ .null)
      (shapeless : ∀ names, ¬ HoldsTexts v names) : Disallowed (.map fields)
  | unknownRule {fields : List (Value × Value)} {v : Value} {names : List String} {name : String}
      (found : Value.field? fields "rules" = some v) (named : HoldsTexts v names)
      (member : name ∈ names) (unknown : name ∉ Rule.stock.map (·.name)) : Disallowed (.map fields)
  | severityShape {fields : List (Value × Value)} {v : Value}
      (found : Value.field? fields "severity" = some v) (filled : v ≠ .null)
      (shapeless : ∀ entries, v ≠ .map entries) : Disallowed (.map fields)
  | wrongLevel {fields entries : List (Value × Value)} {entry : Value × Value}
      (found : Value.field? fields "severity" = some (.map entries)) (member : entry ∈ entries)
      (nameless : ∀ level : Severity, entry.2.display.map Severity.capital ≠ level.name) :
      Disallowed (.map fields)
  | excludeShape {fields : List (Value × Value)} {v : Value}
      (found : Value.field? fields "exclude" = some v) (filled : v ≠ .null)
      (shapeless : ∀ codes, ¬ HoldsTexts v codes) : Disallowed (.map fields)

-- A field of the wrong kind that no check looks at, because its value does not count as given.
def Overlooked (v : Value) : Prop :=
  ∃ fields w, v = .map fields ∧ w ≠ .null ∧ w.given = false ∧
    (Value.field? fields "severity" = some w ∧ (∀ entries, w ≠ .map entries) ∨
      Value.field? fields "exclude" = some w ∧ ∀ codes, ¬ HoldsTexts w codes)

theorem exists_error_iff (v : Value) :
    (∃ fault, ofValue v = .error fault) ↔ ∃ fault, Objection v fault := by
  constructor
  · intro ⟨fault, refused⟩
    exact ⟨fault, (first_of_eq_error refused).1⟩
  · intro ⟨fault, objection⟩
    cases read : ofValue v with
    | error other => exact ⟨other, rfl⟩
    | ok set => exact absurd objection (not_objection_of_ok read fault)

theorem exists_firstRefused {entries : List (Value × Value)} {entry : Value × Value}
    (member : entry ∈ entries) (rejected : ∀ level, ¬ Grades entry level) :
    ∃ fault, FirstRefused entries fault := by
  induction entries with
  | nil => simp at member
  | cons first rest ih =>
    rcases grades_or_refuses first with ⟨level, grades⟩ | ⟨fault, refuses⟩
    · have later : entry ∈ rest := by
        rcases List.mem_cons.mp member with rfl | later
        · exact absurd grades (rejected level)
        · exact later
      obtain ⟨fault, refused⟩ := ih later
      exact ⟨fault, (firstRefused_of_grades grades rest fault).mpr refused⟩
    · exact ⟨fault, (firstRefused_of_refuses refuses rest fault).mpr rfl⟩

theorem filled_of_given {v : Value} (given : v.given = true) : v ≠ .null := by
  intro null
  simp [null, Value.given] at given

-- What is ruled out meets an objection, or is overlooked.
theorem Disallowed.objection {v : Value} (disallowed : Disallowed v) :
    (∃ fault, Objection v fault) ∨ Overlooked v := by
  cases disallowed with
  | notMapping other => exact .inl ⟨_, .notMapping other⟩
  | @rulesShape fields w found filled shapeless =>
    have objection : RulesObjection (some w) .rulesShape := .shape filled shapeless
    exact .inl ⟨_, .rules (found ▸ objection)⟩
  | @unknownRule fields w names name found named member unknown =>
    have strange : unknownOf names ≠ [] :=
      List.ne_nil_of_mem (List.mem_filter.mpr ⟨member, decide_eq_true unknown⟩)
    have objection : RulesObjection (some w) (.unknownRules (unknownOf names)) :=
      .unknown named strange
    exact .inl ⟨_, .rules (found ▸ objection)⟩
  | @severityShape fields w found filled shapeless =>
    cases given : w.given with
    | true =>
      have objection : SeverityObjection (some w) .severityShape := .shape given shapeless
      exact .inl ⟨_, .severity (found ▸ objection)⟩
    | false => exact .inr ⟨fields, w, rfl, filled, given, .inl ⟨found, shapeless⟩⟩
  | @wrongLevel fields entries entry found member nameless =>
    obtain ⟨fault, refused⟩ := exists_firstRefused member fun level grades =>
      nameless level grades.named
    have objection : SeverityObjection (some (.map entries)) fault := .level refused
    exact .inl ⟨fault, .severity (found ▸ objection)⟩
  | @excludeShape fields w found filled shapeless =>
    cases given : w.given with
    | true =>
      have objection : ExcludeObjection (some w) .excludeShape := .shape given shapeless
      exact .inl ⟨_, .exclude (found ▸ objection)⟩
    | false => exact .inr ⟨fields, w, rfl, filled, given, .inr ⟨found, shapeless⟩⟩

theorem Overlooked.disallowed {v : Value} (overlooked : Overlooked v) : Disallowed v := by
  obtain ⟨fields, w, rfl, filled, _, ⟨found, shapeless⟩ | ⟨found, shapeless⟩⟩ := overlooked
  · exact .severityShape found filled shapeless
  · exact .excludeShape found filled shapeless

theorem Objection.disallowed {v : Value} {fault : Fault} (objection : Objection v fault)
    (legible : fault ≠ .unwritable) : Disallowed v := by
  cases objection with
  | notMapping other => exact .notMapping other
  | @rules fields _ objection =>
    generalize found : Value.field? fields "rules" = field at objection
    cases objection with
    | shape filled shapeless => exact .rulesShape found filled shapeless
    | unknown named strange =>
      obtain ⟨name, inside⟩ := List.exists_mem_of_ne_nil _ strange
      obtain ⟨member, unknown⟩ := List.mem_filter.mp inside
      exact .unknownRule found named member (of_decide_eq_true unknown)
  | @severity fields _ objection =>
    generalize found : Value.field? fields "severity" = field at objection
    cases objection with
    | shape given shapeless => exact .severityShape found (filled_of_given given) shapeless
    | level refused =>
      obtain ⟨before, entry, after, rfl, _, refuses⟩ := refused
      have member : entry ∈ before ++ entry :: after := by simp
      cases refuses with
      | wrongLevel writable nameless => exact .wrongLevel found member nameless
      | unwritable => exact absurd rfl legible
  | @exclude fields _ objection =>
    generalize found : Value.field? fields "exclude" = field at objection
    cases objection with
    | shape given shapeless => exact .excludeShape found (filled_of_given given) shapeless

theorem rejected_iff_disallowed (v : Value) :
    (ofValue v = .error .unwritable → ∃ fields entries entry, v = .map fields ∧
      Value.field? fields "severity" = some (.map entries) ∧ entry ∈ entries ∧
      (entry.1.isWritable && entry.2.isWritable) = false) ∧
    (ofValue v ≠ .error .unwritable →
      (Disallowed v ↔ (∃ fault, ofValue v = .error fault) ∨ Overlooked v) ∧
      (¬ Overlooked v → ((∃ fault, ofValue v = .error fault) ↔ Disallowed v))) := by
  constructor
  · intro refused
    exact unwritable_of_objection (first_of_eq_error refused).1
  · intro legible
    have rejected (refused : ∃ fault, ofValue v = .error fault) : Disallowed v := by
      obtain ⟨fault, refused⟩ := refused
      apply (first_of_eq_error refused).1.disallowed
      intro unwritable
      exact legible (unwritable ▸ refused)
    have law : Disallowed v ↔ (∃ fault, ofValue v = .error fault) ∨ Overlooked v := by
      constructor
      · rw [exists_error_iff]
        exact Disallowed.objection
      · intro either
        rcases either with refused | overlooked
        · exact rejected refused
        · exact overlooked.disallowed
    refine ⟨law, fun seen => ⟨rejected, fun disallowed => ?_⟩⟩
    exact (law.mp disallowed).resolve_right seen

-- An empty list of codes is of the right kind, so the level is all that is wrong.
theorem rejected_iff_disallowed_wrong_level :
    let entries : List (Value × Value) :=
      [(.text "A", .text "Error"), (.text "B", .list [.text "ERROR"])]
    let v := Value.map [(.text "exclude", .tuple []), (.text "severity", .map entries)]
    ofValue v ≠ .error .unwritable ∧ ¬ Overlooked v ∧ Disallowed v ∧
      ∃ fault, ofValue v = .error fault := by
  intro entries v
  have legible : ofValue v ≠ .error .unwritable := by
    intro refused
    exact not_unwritable_of_isWritable (by decide +kernel) (first_of_eq_error refused).1
  have seen : ¬ Overlooked v := by
    intro ⟨fields, w, same, _, _, either⟩
    obtain rfl := Value.map.inj same
    rcases either with ⟨found, shapeless⟩ | ⟨found, shapeless⟩
    · exact shapeless entries (Option.some.inj found).symm
    · obtain rfl : .tuple [] = w := Option.some.inj found
      exact shapeless [] (.tuple [])
  have disallowed : Disallowed v := by
    have found : Value.field? [(.text "exclude", .tuple []), (.text "severity", .map entries)]
        "severity" = some (.map entries) := rfl
    refine .wrongLevel found (List.mem_cons_of_mem _ List.mem_cons_self) fun level => ?_
    cases level <;> decide +kernel
  obtain ⟨_, law⟩ := rejected_iff_disallowed v
  exact ⟨legible, seen, disallowed, ((law legible).2 seen).mpr disallowed⟩

-- A zero where the mapping of levels should stand passes for no mapping at all.
theorem ofValue_overlooks_zero :
    let v := Value.map [(.text "severity", .int 0)]
    Disallowed v ∧ Overlooked v ∧ ofValue v = .ok default := by
  intro v
  have overlooked : Overlooked v := by
    refine ⟨_, .int 0, rfl, by simp, rfl, .inl ⟨rfl, ?_⟩⟩
    intro entries
    simp
  exact ⟨overlooked.disallowed, overlooked, by rfl⟩

end DocGuard.RuleSet
