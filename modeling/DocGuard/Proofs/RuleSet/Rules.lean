import DocGuard.RuleSet

set_option autoImplicit false

namespace DocGuard

theorem eq_ok_of_toOption {E B : Type} {result : Except E B} {b : B}
    (found : result.toOption = some b) : result = .ok b := by
  cases result with
  | error fault => simp [Except.toOption] at found
  | ok value => simpa [Except.toOption] using found

namespace Rule

theorem ofName?_eq_some {name : String} {rule : Rule} (found : ofName? name = some rule) :
    rule ∈ stock ∧ rule.name = name := by
  have same := List.find?_some found
  exact ⟨List.mem_of_find?_eq_some found, by simpa using same⟩

theorem ofNames_eq_ok {names : List String} (known : ∀ name ∈ names, (ofName? name).isSome) :
    ofNames names = .ok (names.filterMap ofName?) := by
  induction names with
  | nil => rfl
  | cons name rest ih =>
    obtain ⟨rule, found⟩ := Option.isSome_iff_exists.mp (known name (by simp))
    have later := ih fun other member => known other (List.mem_cons_of_mem _ member)
    simp [ofNames, found, later, Except.map]

theorem map_name_ofNames {names : List String} (known : ∀ name ∈ names, (ofName? name).isSome) :
    (names.filterMap ofName?).map (·.name) = names := by
  induction names with
  | nil => rfl
  | cons name rest ih =>
    obtain ⟨rule, found⟩ := Option.isSome_iff_exists.mp (known name (by simp))
    have later := ih fun other member => known other (List.mem_cons_of_mem _ member)
    simp [found, later, (ofName?_eq_some found).2]

end Rule

namespace RuleSet

-- The rules of a rule set in order, one for each name.
def selected (set : RuleSet) : List Rule := set.rules.filterMap Rule.ofName?

theorem selected_subset_stock (set : RuleSet) {rule : Rule} (member : rule ∈ set.selected) :
    rule ∈ Rule.stock := by
  obtain ⟨name, _, found⟩ := List.mem_filterMap.mp member
  exact (Rule.ofName?_eq_some found).1

theorem known_default : ∀ name ∈ default.rules, (Rule.ofName? name).isSome := by
  decide

theorem known_of_ruleNames {field : Option Value} {names : List String}
    (accepted : ruleNames field = .ok names) : ∀ name ∈ names, (Rule.ofName? name).isSome := by
  unfold ruleNames at accepted
  split at accepted
  next =>
    obtain rfl := Except.ok.inj accepted
    exact known_default
  next =>
    obtain rfl := Except.ok.inj accepted
    exact known_default
  next v _ =>
    split at accepted
    next => contradiction
    next given _ =>
      simp only at accepted
      split at accepted
      next none =>
        obtain rfl := Except.ok.inj accepted
        intro name member
        rw [List.isEmpty_iff, List.filter_eq_nil_iff] at none
        exact Option.isSome_iff_ne_none.mpr (by simpa using none name member)
      next => contradiction

theorem ofValue_eq_ok {v : Value} {set : RuleSet} (accepted : ofValue v = .ok set) :
    ∃ fields, v = .map fields ∧ ruleNames (Value.field? fields "rules") = .ok set.rules ∧
      levels (Value.field? fields "severity") = .ok set.severity ∧
      excluded (Value.field? fields "exclude") = .ok set.exclude := by
  unfold ofValue at accepted
  split at accepted
  next fields =>
    cases rules : ruleNames (Value.field? fields "rules") with
    | error fault => simp [rules, bind, Except.bind] at accepted
    | ok names =>
      cases severity : levels (Value.field? fields "severity") with
      | error fault => simp [rules, severity, bind, Except.bind] at accepted
      | ok graded =>
        cases exclude : excluded (Value.field? fields "exclude") with
        | error fault => simp [rules, severity, exclude, bind, Except.bind] at accepted
        | ok codes =>
          simp only [rules, severity, exclude, bind, Except.bind, pure, Except.pure] at accepted
          obtain rfl := Except.ok.inj accepted
          exact ⟨fields, rfl, rules, severity, exclude⟩
  next => contradiction

theorem known_of_ofValue {v : Value} {set : RuleSet} (accepted : ofValue v = .ok set) :
    ∀ name ∈ set.rules, (Rule.ofName? name).isSome := by
  obtain ⟨_, _, rules, _⟩ := ofValue_eq_ok accepted
  exact known_of_ruleNames rules

end RuleSet

end DocGuard
