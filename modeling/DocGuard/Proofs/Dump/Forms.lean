import DocGuard.Dump
import DocGuard.Proofs.Dump.Spelling
import Mathlib.Data.List.Forall2

set_option autoImplicit false

namespace DocGuard

-- All of a token but its text.
def Token.textless (t : Token) : Token := { t with text := "" }

namespace Dump

open Value

-- The entries with a kind of some name and, where there is one, a text; none of them has a line.
inductive Form (name : Value) : Option Value → Value → Prop
  | pair {text entry : Value} (sequence : IsSequence [name, text] entry) : Form name (some text) entry
  | single {entry : Value} (sequence : IsSequence [name] entry) : Form name none entry
  | fields {fields : List (Value × Value)} {text : Option Value}
      (named : firstField? fields kindKeys = some name)
      (told : firstField? fields textKeys = text) (lineless : field? fields "line" = none) :
      Form name text (.map fields)
  | bare {s : String} (named : name = .text s) : Form name none (.text s)

-- A pair whose text is null.
def NullPair (entry : Value) : Prop := ∃ name, IsSequence [name, .null] entry

@[simp]
theorem nullPair_list {items : List Value} :
    NullPair (.list items) ↔ ∃ name, items = [name, .null] := by
  simp [NullPair, IsSequence]

@[simp]
theorem nullPair_tuple {items : List Value} :
    NullPair (.tuple items) ↔ ∃ name, items = [name, .null] := by
  simp [NullPair, IsSequence]

@[simp]
theorem not_nullPair_map (fields : List (Value × Value)) : ¬ NullPair (.map fields) := by
  simp [NullPair, IsSequence]

@[simp]
theorem not_nullPair_text (s : String) : ¬ NullPair (.text s) := by
  simp [NullPair, IsSequence]

section Entries

variable {name : Value} (position : Nat)

theorem token_of_sequence {entry : Value} {text : Value} (sequence : IsSequence [name, text] entry) :
    token position entry = ofParts position name text none := by
  rcases sequence with rfl | rfl <;> rfl

theorem token_of_fields (filled : name ≠ .null) {fields : List (Value × Value)}
    (named : firstField? fields kindKeys = some name) (lineless : field? fields "line" = none) :
    token position (.map fields) =
      ofParts position name (fieldText (firstField? fields textKeys)) none := by
  simp [token, ofFields, named, lineless, line?]

theorem fieldText_some {text : Value} (given : text ≠ .null) : fieldText (some text) = text := by
  cases text <;> first | rfl | exact absurd rfl given

theorem token_of_form (filled : name ≠ .null) {text : Option Value} {entry : Value}
    (form : Form name text entry) (given : ¬ NullPair entry) :
    token position entry = ofParts position name (fieldText text) none := by
  cases form with
  | @pair text _ sequence =>
    have told : text ≠ .null := fun null => given ⟨name, null ▸ sequence⟩
    rw [fieldText_some told, token_of_sequence position sequence]
  | single sequence => rcases sequence with rfl | rfl <;> rfl
  | fields named told lineless => rw [token_of_fields position filled named lineless, told]
  | bare named => rw [named, token, fieldText]

theorem textless_ofParts_null (line : Option Int) :
    (ofParts position name .null line).map Token.textless =
      (ofParts position name (.text "") line).map Token.textless := by
  simp only [ofParts, isWritable, Bool.and_true]
  split <;> rfl

-- The text aside, even a null in place of the text makes no difference.
theorem textless_of_form (filled : name ≠ .null) {text : Option Value} {entry : Value}
    (form : Form name text entry) :
    (token position entry).map Token.textless =
      (ofParts position name (fieldText text) none).map Token.textless := by
  by_cases given : NullPair entry
  · cases form with
    | @pair text _ sequence =>
      obtain rfl : text = .null := by rcases sequence with rfl | rfl <;> simpa using given
      rw [token_of_sequence position sequence, textless_ofParts_null, fieldText]
    | single sequence => rcases sequence with rfl | rfl <;> simp at given
    | fields | bare => simp at given
  · rw [token_of_form position filled form given]

end Entries

section Dumps

-- An entry that stays, or gets another of its forms. Which forms are admitted is left open.
inductive Rewritten (admitted : Value → Prop) : Value → Value → Prop
  | same (entry : Value) : Rewritten admitted entry entry
  | form {name : Value} {text : Option Value} {old new : Value} (filled : name ≠ .null)
      (before : Form name text old) (after : Form name text new)
      (left : admitted old) (right : admitted new) : Rewritten admitted old new

inductive RewrittenDump (admitted : Value → Prop) : Value → Value → Prop
  | list {old new : List Value} (each : List.Forall₂ (Rewritten admitted) old new) :
      RewrittenDump admitted (.list old) (.list new)
  | wrapped {before after : List (Value × Value)} {old new : List Value}
      (each : List.Forall₂ (Rewritten admitted) old new) :
      RewrittenDump admitted (.map (before ++ (.text "tokens", .list old) :: after))
        (.map (before ++ (.text "tokens", .list new) :: after))

theorem view_tokensFrom_cons {S : Type} (view : Token → S) (position : Nat) (entry : Value)
    (rest : List Value) :
    (tokensFrom position (entry :: rest)).map (List.map view) =
      match (token position entry).map view with
      | .error fault => .error fault
      | .ok first => ((tokensFrom (position + 1) rest).map (List.map view)).map (first :: ·) := by
  rw [tokensFrom]
  cases token position entry with
  | error fault => rfl
  | ok first => cases tokensFrom (position + 1) rest <;> rfl

-- What shows of the token of each entry decides what shows of the tokens of a dump.
theorem tokensFrom_congr {S : Type} (view : Token → S) {old new : List Value}
    (each : List.Forall₂ (fun a b => ∀ position,
      (token position a).map view = (token position b).map view) old new) (position : Nat) :
    (tokensFrom position old).map (List.map view) =
      (tokensFrom position new).map (List.map view) := by
  induction each generalizing position with
  | nil => rfl
  | cons here _ ih => rw [view_tokensFrom_cons, view_tokensFrom_cons, here, ih]

theorem field?_append (first second : List (Value × Value)) (name : String) :
    field? (first ++ second) name = (field? first name).or (field? second name) := by
  simp [field?, List.find?_append, Option.map_or]

theorem field?_cons_self (name : String) (v : Value) (rest : List (Value × Value)) :
    field? ((.text name, v) :: rest) name = some v := by
  simp [field?, sameKey_text.mpr rfl]

theorem tokens_congr {S : Type} (view : Token → S) {admitted : Value → Prop}
    (agree : ∀ old new, Rewritten admitted old new → ∀ position,
      (token position old).map view = (token position new).map view)
    {v w : Value} (rewritten : RewrittenDump admitted v w) :
    (tokens v).map (List.map view) = (tokens w).map (List.map view) := by
  cases rewritten with
  | list each => exact tokensFrom_congr view (each.imp agree) 0
  | @wrapped before after old new each =>
    cases held : field? before "tokens" with
    | some inner => simp [tokens, field?_append, held]
    | none =>
      simpa [tokens, field?_append, held, field?_cons_self, ofEntries]
        using tokensFrom_congr view (each.imp agree) 0

theorem tokens_rewritten {v w : Value} (rewritten : RewrittenDump (¬ NullPair ·) v w) :
    tokens v = tokens w := by
  have agree (old new : Value) (entry : Rewritten (¬ NullPair ·) old new) (position : Nat) :
      token position old = token position new := by
    cases entry with
    | same => rfl
    | form filled before after left right =>
      rw [token_of_form position filled before left, token_of_form position filled after right]
  have same := tokens_congr id (fun old new entry position => by rw [agree old new entry]) rewritten
  have whole (result : Except Fault (List Token)) : result.map (List.map id) = result := by
    cases result <;> simp [Except.map]
  rwa [whole, whole] at same

theorem textless_rewritten {v w : Value} (rewritten : RewrittenDump (fun _ => True) v w) :
    (tokens v).map (List.map Token.textless) = (tokens w).map (List.map Token.textless) := by
  apply tokens_congr Token.textless _ rewritten
  intro old new entry position
  cases entry with
  | same => rfl
  | form filled before after =>
    rw [textless_of_form position filled before, textless_of_form position filled after]

end Dumps

section Agreement

variable {name : Value}

theorem pair_eq_fields (filled : name ≠ .null) (position : Nat) {text : Value}
    (given : text ≠ .null) :
    token position (.list [name, text]) =
      token position (.map [(.text "type", name), (.text "content", text)]) := by
  have pair : Form name (some text) (.list [name, text]) := .pair (.inl rfl)
  have fields : Form name (some text) (.map [(.text "type", name), (.text "content", text)]) :=
    .fields rfl rfl rfl
  rw [token_of_form position filled pair (by simpa using given),
    token_of_form position filled fields (by simp)]

theorem single_eq_field (filled : name ≠ .null) (position : Nat) :
    token position (.list [name]) = token position (.map [(.text "type", name)]) := by
  have single : Form name none (.list [name]) := .single (.inl rfl)
  have field : Form name none (.map [(.text "type", name)]) := .fields rfl rfl rfl
  rw [token_of_form position filled single (by simp),
    token_of_form position filled field (by simp)]

-- What becomes of a text that is null in either form.
theorem null_in_fields (filled : name ≠ .null) (position : Nat) :
    token position (.map [(.text "type", name), (.text "content", .null)]) =
      token position (.list [name]) :=
  token_of_fields position filled rfl rfl

theorem null_in_pair (position : Nat) :
    token position (.list [name, .null]) =
      (token position (.list [name])).map fun t => { t with text := "None" } := by
  simp only [token, ofParts, isWritable, Bool.and_true]
  split <;> rfl

end Agreement

theorem forms_agree {name : Value} (filled : name ≠ .null) (position : Nat) (text : Value) :
    (let pair := Value.list [name, text]
      let fields := Value.map [(.text "type", name), (.text "content", text)]
      let otherFields := Value.map [(.text "kind", name), (.text "text", text)]
      (text ≠ .null → token position pair = token position fields) ∧
      token position fields = token position otherFields ∧
      (text = .null → token position fields = token position (.list [name]) ∧
        token position pair =
          (token position (.list [name])).map fun t => { t with text := "None" })) ∧
    token position (.list [name]) = token position (.map [(.text "type", name)]) ∧
    (∀ s, name = .text s → token position (.list [name]) = token position (.text s)) ∧
    (∀ v w, RewrittenDump (¬ NullPair ·) v w → tokens v = tokens w) ∧
    ∀ v w, RewrittenDump (fun _ => True) v w →
      (tokens v).map (List.map Token.textless) = (tokens w).map (List.map Token.textless) := by
  refine ⟨?_, single_eq_field filled position, ?_, fun _ _ => tokens_rewritten,
    fun _ _ => textless_rewritten⟩
  · intro pair fields otherFields
    refine ⟨pair_eq_fields filled position, rfl, ?_⟩
    rintro rfl
    exact ⟨null_in_fields filled position, null_in_pair position⟩
  · rintro s rfl
    rfl

-- Two entries of a dump change their form; the text of the first is a list that holds null.
theorem forms_agree_wrapped :
    let old := Value.map [(.int 1, .null), (.text "tokens",
      .list [.list [.text "T_CLASS", .list [.null]], .text "T_FINAL", .text "T_USE"])]
    let new := Value.map [(.int 1, .null), (.text "tokens",
      .list [.map [(.text "kind", .text "T_CLASS"), (.text "text", .list [.null])],
        .text "T_FINAL", .tuple [.text "T_USE"]])]
    Value.text "T_CLASS" ≠ .null ∧ RewrittenDump (¬ NullPair ·) old new ∧
      tokens old = tokens new := by
  intro old new
  have filled : Value.text "T_CLASS" ≠ .null := by simp
  have kept : Value.text "T_USE" ≠ .null := by simp
  have rewritten : RewrittenDump (¬ NullPair ·) old new := by
    refine @RewrittenDump.wrapped _ [(.int 1, .null)] [] _ _ (.cons ?_ (.cons ?_ (.cons ?_ .nil)))
    · exact .form filled (.pair (.inl rfl)) (.fields rfl rfl rfl) (by simp) (by simp)
    · exact .same _
    · exact .form kept (.bare rfl) (.single (.inr rfl)) (by simp) (by simp)
  obtain ⟨_, _, _, agree, _⟩ := forms_agree filled 0 (.list [.null])
  exact ⟨filled, rewritten, agree old new rewritten⟩

-- A null text is the word None in a pair and empty in a mapping.
theorem pair_writes_null :
    let pair := Value.list [.text "T_CLASS", .null]
    let fields := Value.map [(.text "type", .text "T_CLASS"), (.text "content", .null)]
    Value.text "T_CLASS" ≠ .null ∧
      tokens (.list [pair]) = .ok [⟨.classKw, 0, "None", none⟩] ∧
      tokens (.list [fields]) = .ok [⟨.classKw, 0, "", none⟩] ∧
      token 0 pair ≠ token 0 fields := by
  intro pair fields
  have kind : kindOf (.text "T_CLASS") = .classKw := by decide +kernel
  have written : token 0 pair = .ok ⟨.classKw, 0, "None", none⟩ := kind ▸ rfl
  have empty : token 0 fields = .ok ⟨.classKw, 0, "", none⟩ := kind ▸ rfl
  refine ⟨by simp, ?_, ?_, ?_⟩
  · simp [tokens, ofEntries, tokensFrom, written, Except.map]
  · simp [tokens, ofEntries, tokensFrom, empty, Except.map]
  · simp [written, empty]

end Dump

end DocGuard
