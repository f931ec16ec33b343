import DocGuard.Proofs.RuleSet.Grading
import DocGuard.Proofs.RuleSet.Rules
import DocGuard.Proofs.Value.Writable

set_option autoImplicit false

namespace DocGuard

namespace Value

theorem texts?_eq_some_iff {items : List Value} {texts : List String} :
    texts? items = some texts ↔ items = texts.map .text := by
  fun_induction texts? items generalizing texts with
  | case1 => simp [eq_comm]
  | case2 s rest ih =>
    cases texts with
    | nil => simp
    | cons first others => simp [ih, and_comm]
  | case3 item rest notText =>
    cases texts with
    | nil => simp
    | cons first others => simpa using fun same => absurd same (notText first)

end Value

namespace RuleSet

-- One text, or a list or tuple of nothing but texts.
inductive HoldsTexts : Value → List String → Prop
  | text (s : String) : HoldsTexts (.text s) [s]
  | list (texts : List String) : HoldsTexts (.list (texts.map .text)) texts
  | tuple (texts : List String) : HoldsTexts (.tuple (texts.map .text)) texts

theorem texts?_eq_some_iff {v : Value} {texts : List String} :
    texts? v = some texts ↔ HoldsTexts v texts := by
  constructor
  · intro read
    unfold texts? at read
    split at read
    next s =>
      obtain rfl := Option.some.inj read
      exact .text s
    next items =>
      obtain rfl := Value.texts?_eq_some_iff.mp read
      exact .list texts
    next items =>
      obtain rfl := Value.texts?_eq_some_iff.mp read
      exact .tuple texts
    next => contradiction
  · intro holds
    cases holds with
    | text s => rfl
    | list => exact Value.texts?_eq_some_iff.mpr rfl
    | tuple => exact Value.texts?_eq_some_iff.mpr rfl

theorem texts?_eq_none_iff {v : Value} : texts? v = none ↔ ∀ texts, ¬ HoldsTexts v texts := by
  simp [Option.eq_none_iff_forall_ne_some, texts?_eq_some_iff]

-- The names that belong to no rule.
def unknownOf (names : List String) : List String :=
  names.filter fun name => name ∉ Rule.stock.map (·.name)

theorem filter_isNone_ofName? (names : List String) :
    (names.filter fun name => (Rule.ofName? name).isNone) = unknownOf names := by
  apply List.filter_congr
  intro name _
  rw [Bool.eq_iff_iff]
  simp [Rule.ofName?]

inductive RulesObjection : Option Value → Fault → Prop
  | shape {v : Value} (filled : v ≠ .null) (shapeless : ∀ names, ¬ HoldsTexts v names) :
      RulesObjection (some v) .rulesShape
  | unknown {v : Value} {names : List String} (named : HoldsTexts v names)
      (strange : unknownOf names ≠ []) : RulesObjection (some v) (.unknownRules (unknownOf names))

inductive SeverityObjection : Option Value → Fault → Prop
  | shape {v : Value} (given : v.given = true) (shapeless : ∀ entries, v ≠ .map entries) :
      SeverityObjection (some v) .severityShape
  | level {entries : List (Value × Value)} {fault : Fault} (refused : FirstRefused entries fault) :
      SeverityObjection (some (.map entries)) fault

inductive ExcludeObjection : Option Value → Fault → Prop
  | shape {v : Value} (given : v.given = true) (shapeless : ∀ codes, ¬ HoldsTexts v codes) :
      ExcludeObjection (some v) .excludeShape

-- Whatever is wrong with a value, without regard to what else is wrong with it.
inductive Objection : Value → Fault → Prop
  | notMapping {v : Value} (other : ∀ fields, v ≠ .map fields) : Objection v .notMapping
  | rules {fields : List (Value × Value)} {fault : Fault}
      (objection : RulesObjection (Value.field? fields "rules") fault) :
      Objection (.map fields) fault
  | severity {fields : List (Value × Value)} {fault : Fault}
      (objection : SeverityObjection (Value.field? fields "severity") fault) :
      Objection (.map fields) fault
  | exclude {fields : List (Value × Value)} {fault : Fault}
      (objection : ExcludeObjection (Value.field? fields "exclude") fault) :
      Objection (.map fields) fault

-- The order of the checks. A level that cannot be written is met where a wrong one is.
def Fault.rank : Fault → Nat
  | .notMapping => 0
  | .rulesShape => 1
  | .unknownRules _ => 2
  | .severityShape => 3
  | .wrongLevel _ _ | .unwritable => 4
  | .excludeShape => 5

-- A field that is missing or null.
def Absent (field : Option Value) : Prop := field = none ∨ field = some .null

section Fields

variable {field : Option Value} {v : Value} {fault : Fault}

theorem given_of_absent (absent : Absent field) : (field.getD .null).given = false := by
  rcases absent with rfl | rfl <;> rfl

theorem exists_of_not_absent (present : ¬ Absent field) : ∃ v, field = some v ∧ v ≠ .null := by
  cases field with
  | none => exact absurd (.inl rfl) present
  | some v => exact ⟨v, rfl, fun null => present (.inr (congrArg some null))⟩

theorem exists_of_given (given : (field.getD .null).given = true) :
    ∃ v, field = some v ∧ v.given = true := by
  cases field with
  | none => simp [Value.given] at given
  | some v => exact ⟨v, rfl, given⟩

theorem ruleNames_of_absent (absent : Absent field) : ruleNames field = .ok default.rules := by
  rcases absent with rfl | rfl <;> rfl

theorem ruleNames_of_shapeless (filled : v ≠ .null) (shapeless : ∀ names, ¬ HoldsTexts v names) :
    ruleNames (some v) = .error .rulesShape := by
  rw [ruleNames, texts?_eq_none_iff.mpr shapeless]
  simpa using filled

theorem ruleNames_of_texts {names : List String} (named : HoldsTexts v names) :
    ruleNames (some v) =
      if unknownOf names = [] then .ok names else .error (.unknownRules (unknownOf names)) := by
  have filled : v ≠ .null := by
    cases named <;> simp
  rw [ruleNames, texts?_eq_some_iff.mpr named]
  · simp [filter_isNone_ofName?]
  · simpa using filled

theorem levels_of_not_given (missing : (field.getD .null).given = false) : levels field = .ok [] := by
  simp [levels, missing]

theorem levels_of_shapeless (given : v.given = true) (shapeless : ∀ entries, v ≠ .map entries) :
    levels (some v) = .error .severityShape := by
  simp [levels, given]

theorem levels_map (entries : List (Value × Value)) :
    levels (some (.map entries)) = grade [] entries := by
  cases entries <;> simp [levels, Value.given, grade]

theorem excluded_of_not_given (missing : (field.getD .null).given = false) :
    excluded field = .ok [] := by
  simp [excluded, missing]

theorem excluded_of_shapeless (given : v.given = true) (shapeless : ∀ codes, ¬ HoldsTexts v codes) :
    excluded (some v) = .error .excludeShape := by
  simp [excluded, given, texts?_eq_none_iff.mpr shapeless]

theorem excluded_of_texts {codes : List String} (given : v.given = true) (listed : HoldsTexts v codes) :
    excluded (some v) = .ok codes := by
  simp [excluded, given, texts?_eq_some_iff.mpr listed]

theorem ruleNames_eq_error_iff : ruleNames field = .error fault ↔ RulesObjection field fault := by
  constructor
  · intro refused
    by_cases absent : Absent field
    · rw [ruleNames_of_absent absent] at refused
      contradiction
    · obtain ⟨v, rfl, filled⟩ := exists_of_not_absent absent
      by_cases shaped : ∃ names, HoldsTexts v names
      · obtain ⟨names, named⟩ := shaped
        rw [ruleNames_of_texts named] at refused
        split at refused
        next => contradiction
        next strange =>
          obtain rfl := Except.error.inj refused
          exact .unknown named strange
      · rw [ruleNames_of_shapeless filled (not_exists.mp shaped)] at refused
        obtain rfl := Except.error.inj refused
        exact .shape filled (not_exists.mp shaped)
  · intro objection
    cases objection with
    | shape filled shapeless => exact ruleNames_of_shapeless filled shapeless
    | unknown named strange => rw [ruleNames_of_texts named, if_neg strange]

theorem levels_eq_error_iff : levels field = .error fault ↔ SeverityObjection field fault := by
  constructor
  · intro refused
    cases present : (field.getD .null).given with
    | false =>
      rw [levels_of_not_given present] at refused
      contradiction
    | true =>
      obtain ⟨v, rfl, given⟩ := exists_of_given present
      by_cases mapping : ∃ entries, v = .map entries
      · obtain ⟨entries, rfl⟩ := mapping
        rw [levels_map] at refused
        exact .level (grade_eq_error_iff.mp refused)
      · rw [levels_of_shapeless given (not_exists.mp mapping)] at refused
        obtain rfl := Except.error.inj refused
        exact .shape given (not_exists.mp mapping)
  · intro objection
    cases objection with
    | shape given shapeless => exact levels_of_shapeless given shapeless
    | level refused =>
      rw [levels_map]
      exact grade_eq_error_iff.mpr refused

theorem excluded_eq_error_iff :
    excluded field = .error fault ↔ ExcludeObjection field fault := by
  constructor
  · intro refused
    cases present : (field.getD .null).given with
    | false =>
      rw [excluded_of_not_given present] at refused
      contradiction
    | true =>
      obtain ⟨v, rfl, given⟩ := exists_of_given present
      by_cases shaped : ∃ codes, HoldsTexts v codes
      · obtain ⟨codes, listed⟩ := shaped
        rw [excluded_of_texts given listed] at refused
        contradiction
      · rw [excluded_of_shapeless given (not_exists.mp shaped)] at refused
        obtain rfl := Except.error.inj refused
        exact .shape given (not_exists.mp shaped)
  · intro objection
    cases objection with
    | shape given shapeless => exact excluded_of_shapeless given shapeless

theorem rank_of_ruleNames (refused : ruleNames field = .error fault) :
    1 ≤ fault.rank ∧ fault.rank ≤ 2 := by
  cases ruleNames_eq_error_iff.mp refused <;> simp [Fault.rank]

theorem rank_of_levels (refused : levels field = .error fault) :
    3 ≤ fault.rank ∧ fault.rank ≤ 4 := by
  cases levels_eq_error_iff.mp refused with
  | shape => simp [Fault.rank]
  | level first =>
    obtain ⟨_, _, _, _, _, refuses⟩ := first
    cases refuses <;> simp [Fault.rank]

theorem rank_of_excluded (refused : excluded field = .error fault) : fault.rank = 5 := by
  cases excluded_eq_error_iff.mp refused
  rfl

end Fields

theorem ofValue_of_not_mapping {v : Value} (other : ∀ fields, v ≠ .map fields) :
    ofValue v = .error .notMapping := by
  cases v with
  | map fields => exact absurd rfl (other fields)
  | _ => rfl

section Mapping

variable {fields : List (Value × Value)} {fault : Fault}

theorem objection_map_iff :
    Objection (.map fields) fault ↔
      ruleNames (Value.field? fields "rules") = .error fault ∨
        levels (Value.field? fields "severity") = .error fault ∨
        excluded (Value.field? fields "exclude") = .error fault := by
  rw [ruleNames_eq_error_iff, levels_eq_error_iff, excluded_eq_error_iff]
  constructor
  · intro objection
    cases objection with
    | notMapping other => exact absurd rfl (other fields)
    | rules objection => exact .inl objection
    | severity objection => exact .inr (.inl objection)
    | exclude objection => exact .inr (.inr objection)
  · intro either
    rcases either with objection | objection | objection
    · exact .rules objection
    · exact .severity objection
    · exact .exclude objection

-- A field is looked at only when the fields before it are in order.
theorem ofValue_map_eq_error_iff :
    ofValue (.map fields) = .error fault ↔
      ruleNames (Value.field? fields "rules") = .error fault ∨
        (∃ names, ruleNames (Value.field? fields "rules") = .ok names) ∧
          (levels (Value.field? fields "severity") = .error fault ∨
            (∃ graded, levels (Value.field? fields "severity") = .ok graded) ∧
              excluded (Value.field? fields "exclude") = .error fault) := by
  rw [ofValue]
  cases ruleNames (Value.field? fields "rules") with
  | error first => simp [bind, Except.bind]
  | ok names =>
    cases levels (Value.field? fields "severity") with
    | error second => simp [bind, Except.bind]
    | ok graded =>
      cases excluded (Value.field? fields "exclude") with
      | error third => simp [bind, Except.bind]
      | ok codes => simp [bind, Except.bind, pure, Except.pure]

end Mapping

theorem not_objection_of_ok {v : Value} {set : RuleSet} (accepted : ofValue v = .ok set)
    (fault : Fault) : ¬ Objection v fault := by
  obtain ⟨fields, rfl, rules, severity, exclude⟩ := ofValue_eq_ok accepted
  rw [objection_map_iff, rules, severity, exclude]
  simp

-- The objection that is raised comes first.
theorem first_of_eq_error {v : Value} {fault : Fault} (refused : ofValue v = .error fault) :
    Objection v fault ∧ ∀ other, Objection v other → fault.rank ≤ other.rank := by
  by_cases mapping : ∃ fields, v = .map fields
  · obtain ⟨fields, rfl⟩ := mapping
    simp only [objection_map_iff]
    rcases ofValue_map_eq_error_iff.mp refused with
      rules | ⟨⟨names, known⟩, severity | ⟨⟨graded, levelled⟩, exclude⟩⟩
    · refine ⟨.inl rules, fun other also => ?_⟩
      have bound := rank_of_ruleNames rules
      rcases also with again | later | later
      · rw [rules, Except.error.injEq] at again
        exact Nat.le_of_eq (congrArg Fault.rank again)
      · have := rank_of_levels later
        omega
      · have := rank_of_excluded later
        omega
    · refine ⟨.inr (.inl severity), fun other also => ?_⟩
      have bound := rank_of_levels severity
      rcases also with earlier | again | later
      · simp [known] at earlier
      · rw [severity, Except.error.injEq] at again
        exact Nat.le_of_eq (congrArg Fault.rank again)
      · have := rank_of_excluded later
        omega
    · refine ⟨.inr (.inr exclude), fun other also => ?_⟩
      rcases also with earlier | earlier | again
      · simp [known] at earlier
      · simp [levelled] at earlier
      · rw [exclude, Except.error.injEq] at again
        exact Nat.le_of_eq (congrArg Fault.rank again)
  · rw [ofValue_of_not_mapping (not_exists.mp mapping)] at refused
    obtain rfl := Except.error.inj refused
    exact ⟨.notMapping (not_exists.mp mapping), fun _ _ => Nat.zero_le _⟩

theorem exists_ok {A : Type} {checked : Except Fault A} (fine : ∀ fault, checked ≠ .error fault) :
    ∃ a, checked = .ok a := by
  cases checked with
  | error fault => exact absurd rfl (fine fault)
  | ok a => exact ⟨a, rfl⟩

-- Where an objection comes first, the checks before it pass.
theorem eq_error_of_first {v : Value} {fault : Fault} (objection : Objection v fault)
    (first : ∀ other, Objection v other → fault.rank ≤ other.rank) : ofValue v = .error fault := by
  by_cases mapping : ∃ fields, v = .map fields
  · obtain ⟨fields, rfl⟩ := mapping
    simp only [objection_map_iff] at objection first
    have known (late : 3 ≤ fault.rank) :
        ∃ names, ruleNames (Value.field? fields "rules") = .ok names := by
      apply exists_ok
      intro other refused
      have before := first other (.inl refused)
      have bound := rank_of_ruleNames refused
      omega
    rw [ofValue_map_eq_error_iff]
    rcases objection with rules | severity | exclude
    · exact .inl rules
    · exact .inr ⟨known (rank_of_levels severity).1, .inl severity⟩
    · have last := rank_of_excluded exclude
      refine .inr ⟨known (by omega), .inr ⟨?_, exclude⟩⟩
      apply exists_ok
      intro other refused
      have before := first other (.inr (.inl refused))
      have bound := rank_of_levels refused
      omega
  · cases objection with
    | notMapping other => exact ofValue_of_not_mapping other
    | _ => exact absurd ⟨_, rfl⟩ mapping

theorem exists_ok_iff (v : Value) :
    (∃ set, ofValue v = .ok set) ↔ ∀ fault, ¬ Objection v fault := by
  constructor
  · intro ⟨set, accepted⟩
    exact not_objection_of_ok accepted
  · intro flawless
    exact exists_ok fun fault refused => flawless fault (first_of_eq_error refused).1

-- Only the entries of a mapping of levels are ever written out.
theorem unwritable_of_objection {v : Value} (objection : Objection v .unwritable) :
    ∃ fields entries entry, v = .map fields ∧
      Value.field? fields "severity" = some (.map entries) ∧ entry ∈ entries ∧
      (entry.1.isWritable && entry.2.isWritable) = false := by
  cases objection with
  | rules objection =>
    have early := rank_of_ruleNames (ruleNames_eq_error_iff.mpr objection)
    simp [Fault.rank] at early
  | exclude objection =>
    have last := rank_of_excluded (excluded_eq_error_iff.mpr objection)
    simp [Fault.rank] at last
  | @severity fields _ objection =>
    generalize found : Value.field? fields "severity" = field at objection
    cases objection with
    | @level entries _ refused =>
      obtain ⟨before, entry, after, rfl, _, refuses⟩ := refused
      have member : entry ∈ before ++ entry :: after := by simp
      cases refuses with
      | unwritable long => exact ⟨fields, _, _, rfl, found, member, long⟩

theorem not_unwritable_of_isWritable {v : Value} (writable : v.isWritable = true) :
    ¬ Objection v .unwritable := by
  intro objection
  obtain ⟨fields, entries, entry, rfl, found, member, long⟩ := unwritable_of_objection objection
  have whole := Value.isWritable_of_field? writable found
  have short := Value.entriesAreWritable_iff.mp whole entry member
  simp [long] at short

-- A rule set holds what the fields of a mapping say.
structure Reflects (fields : List (Value × Value)) (set : RuleSet) : Prop where
  every_rule : Absent (Value.field? fields "rules") → set.rules = Rule.stock.map (·.name)
  rules : ∀ v, Value.field? fields "rules" = some v → v ≠ .null → HoldsTexts v set.rules
  loads : ∃ rules, Rule.ofNames set.rules = .ok rules ∧ rules.map (·.name) = set.rules
  no_severity : Absent (Value.field? fields "severity") → set.severity = []
  severity : ∀ entries, Value.field? fields "severity" = some (.map entries) →
    GradedBy entries set.severity ∧ ∀ code, (Assoc.get? set.severity code).isSome = true ↔
      ∃ entry ∈ entries, entry.1.display = code
  no_exclude : Absent (Value.field? fields "exclude") → set.exclude = []
  exclude : ∀ v codes, Value.field? fields "exclude" = some v → v ≠ .text "" →
    HoldsTexts v codes → set.exclude = codes

theorem holdsTexts_of_ruleNames {v : Value} {names : List String} (filled : v ≠ .null)
    (accepted : ruleNames (some v) = .ok names) : HoldsTexts v names := by
  by_cases shaped : ∃ names, HoldsTexts v names
  · obtain ⟨given, named⟩ := shaped
    rw [ruleNames_of_texts named] at accepted
    split at accepted
    next =>
      obtain rfl := Except.ok.inj accepted
      exact named
    next => contradiction
  · rw [ruleNames_of_shapeless filled (not_exists.mp shaped)] at accepted
    contradiction

theorem excluded_eq_of_texts {v : Value} {codes : List String} (listed : HoldsTexts v codes)
    (filled : v ≠ .text "") : excluded (some v) = .ok codes := by
  cases given : v.given with
  | true => exact excluded_of_texts given listed
  | false =>
    have missing : ((some v).getD .null).given = false := given
    rw [excluded_of_not_given missing]
    cases listed with
    | text s => simp_all [Value.given]
    | list codes => simp_all [Value.given]
    | tuple codes => simp_all [Value.given]

theorem reflects_of_parts {fields : List (Value × Value)} {set : RuleSet}
    (rules : ruleNames (Value.field? fields "rules") = .ok set.rules)
    (severity : levels (Value.field? fields "severity") = .ok set.severity)
    (exclude : excluded (Value.field? fields "exclude") = .ok set.exclude) :
    Reflects fields set where
  every_rule := by
    intro absent
    rw [ruleNames_of_absent absent] at rules
    exact (Except.ok.inj rules).symm
  rules := by
    intro v found filled
    rw [found] at rules
    exact holdsTexts_of_ruleNames filled rules
  loads := by
    have known := known_of_ruleNames rules
    exact ⟨_, Rule.ofNames_eq_ok known, Rule.map_name_ofNames known⟩
  no_severity := by
    intro absent
    rw [levels_of_not_given (given_of_absent absent)] at severity
    exact (Except.ok.inj severity).symm
  severity := by
    intro entries found
    rw [found, levels_map] at severity
    have graded : GradedBy entries set.severity := gradedBy_nil.grade severity
    exact ⟨graded, graded.isSome_iff⟩
  no_exclude := by
    intro absent
    rw [excluded_of_not_given (given_of_absent absent)] at exclude
    exact (Except.ok.inj exclude).symm
  exclude := by
    intro v codes found filled listed
    rw [found, excluded_eq_of_texts listed filled] at exclude
    exact (Except.ok.inj exclude).symm

theorem reflects_of_ok {v : Value} {set : RuleSet} (accepted : ofValue v = .ok set) :
    ∃ fields, v = .map fields ∧ Reflects fields set := by
  obtain ⟨fields, rfl, rules, severity, exclude⟩ := ofValue_eq_ok accepted
  exact ⟨fields, rfl, reflects_of_parts rules severity exclude⟩

theorem ofValue_exact {v : Value} (writable : v.isWritable = true) :
    (∀ fault, ofValue v = .error fault ↔
      Objection v fault ∧ ∀ other, Objection v other → fault.rank ≤ other.rank) ∧
    ofValue v ≠ .error .unwritable ∧
    ((∃ set, ofValue v = .ok set) ↔ ∀ fault, ¬ Objection v fault) ∧
    ∀ set, ofValue v = .ok set → ∃ fields, v = .map fields ∧ Reflects fields set := by
  refine ⟨?_, ?_, exists_ok_iff v, fun set => reflects_of_ok⟩
  · intro fault
    constructor
    · exact first_of_eq_error
    · intro ⟨objection, first⟩
      exact eq_error_of_first objection first
  · intro refused
    exact not_unwritable_of_isWritable writable (first_of_eq_error refused).1

-- Two codes with one text: the level of the second counts, in the place of the first.
theorem ofValue_exact_one_text :
    let entries : List (Value × Value) :=
      [(.int 1, .text "error"), (.bool true, .text "Warn\u0131ng"), (.text "1", .text "WARNING")]
    let v := Value.map [(.text "severity", .map entries), (.text "exclude", .text "True"),
      (.text "rules", .tuple [.text "Commenting.ClassComment", .text "Commenting.ClassComment"])]
    let set : RuleSet :=
      { rules := ["Commenting.ClassComment", "Commenting.ClassComment"]
        severity := [("1", .warning), ("True", .warning)]
        exclude := ["True"] }
    v.isWritable = true ∧ ofValue v = .ok set ∧ (∀ fault, ¬ Objection v fault) ∧
      ∃ fields, v = .map fields ∧ Reflects fields set := by
  intro entries v set
  have writable : v.isWritable = true := by decide +kernel
  have accepted : ofValue v = .ok set := eq_ok_of_toOption (by decide +kernel)
  obtain ⟨_, _, fine, reflects⟩ := ofValue_exact writable
  exact ⟨writable, accepted, fine.mp ⟨set, accepted⟩, reflects set accepted⟩

-- Everything is wrong with the fields, and the names come first.
example : ofValue (.map [(.text "exclude", .int 5), (.text "severity", .list [.null]),
    (.text "rules", .list [.text "A", .text "Commenting.ClassComment", .text "B"])]) =
      .error (.unknownRules ["A", "B"]) := by
  rfl

end RuleSet

end DocGuard
