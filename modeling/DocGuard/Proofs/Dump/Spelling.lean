import DocGuard.Dump
import DocGuard.Proofs.Kind.Spelling
import DocGuard.Proofs.Number.Decimal
import Mathlib.Data.List.Forall2

set_option autoImplicit false

namespace DocGuard

namespace Assoc

variable {K V : Type} {same : K → K → Bool}

theorem key_of_mem_put {entries : List (K × V)} {key : K} {value : V} {entry : K × V}
    (member : entry ∈ put same entries key value) :
    entry.1 = key ∨ ∃ old ∈ entries, entry.1 = old.1 := by
  induction entries with
  | nil => simp_all [put]
  | cons first rest ih =>
    rw [put] at member
    split at member <;> rcases List.mem_cons.mp member with rfl | later
    next => exact .inr ⟨first, by simp, rfl⟩
    next => exact .inr ⟨entry, List.mem_cons_of_mem _ later, rfl⟩
    next => exact .inr ⟨first, by simp, rfl⟩
    next =>
      rcases ih later with new | ⟨old, known, equal⟩
      · exact .inl new
      · exact .inr ⟨old, List.mem_cons_of_mem _ known, equal⟩

theorem pairwise_put {entries : List (K × V)} (key : K) (value : V)
    (apart : entries.Pairwise fun a b => same a.1 b.1 = false) :
    (put same entries key value).Pairwise fun a b => same a.1 b.1 = false := by
  induction entries with
  | nil => simp [put]
  | cons first rest ih =>
    obtain ⟨fromFirst, apartRest⟩ := List.pairwise_cons.mp apart
    rw [put]
    split
    next => exact List.pairwise_cons.mpr ⟨fromFirst, apartRest⟩
    next other =>
      refine List.pairwise_cons.mpr ⟨fun entry member => ?_, ih apartRest⟩
      rcases key_of_mem_put member with new | ⟨old, known, equal⟩
      · simpa [new] using other
      · simpa [equal] using fromFirst old known

theorem pairwise_ofPairs (same : K → K → Bool) (pairs : List (K × V)) :
    (ofPairs same pairs).Pairwise fun a b => same a.1 b.1 = false :=
  List.foldlRecOn pairs _ .nil fun _ apart pair _ => pairwise_put pair.1 pair.2 apart

end Assoc

namespace Value

def DistinctKeys (entries : List (Value × Value)) : Prop :=
  entries.Pairwise fun a b => a.1.sameKey b.1 = false

instance (entries : List (Value × Value)) : Decidable (DistinctKeys entries) :=
  inferInstanceAs (Decidable (entries.Pairwise _))

-- A mapping that is built from pairs never has one key twice.
theorem distinctKeys_ofPairs (pairs : List (Value × Value)) :
    DistinctKeys (Assoc.ofPairs sameKey pairs) :=
  Assoc.pairwise_ofPairs sameKey pairs

def Lacks (entries : List (Value × Value)) (name : String) : Prop :=
  ∀ value, (.text name, value) ∉ entries

def IsSequence (items : List Value) (v : Value) : Prop := v = .list items ∨ v = .tuple items

theorem sameKey_text {v : Value} {name : String} :
    v.sameKey (.text name) = true ↔ v = .text name := by
  cases v <;> simp [sameKey, sameNumber, whole?]

theorem field?_of_mem {entries : List (Value × Value)} (distinct : DistinctKeys entries)
    {name : String} {value : Value} (member : (.text name, value) ∈ entries) :
    field? entries name = some value := by
  induction entries with
  | nil => simp at member
  | cons entry rest ih =>
    obtain ⟨apart, distinctRest⟩ := List.pairwise_cons.mp distinct
    rcases List.mem_cons.mp member with rfl | later
    · simp [field?, sameKey_text.mpr rfl]
    · have other : entry.1.sameKey (.text name) = false := apart _ later
      simpa [field?, other] using ih distinctRest later

theorem field?_of_lacks {entries : List (Value × Value)} {name : String}
    (lacks : Lacks entries name) : field? entries name = none := by
  simp only [field?, Option.map_eq_none_iff, List.find?_eq_none]
  rintro ⟨key, value⟩ member same
  obtain rfl := sameKey_text.mp same
  exact lacks value member

end Value

namespace Dump

open Value

-- The first of the keys that a mapping has holds a value. What stands under later keys is open.
def Leads (entries : List (Value × Value)) (keys : List String) (value : Value) : Prop :=
  ∃ higher key lower, keys = higher ++ key :: lower ∧ (∀ name ∈ higher, Lacks entries name) ∧
    (.text key, value) ∈ entries

-- An empty text can be left out, but not hidden behind a text key with something else under it.
inductive SpellsText (entries : List (Value × Value)) (text : String) : Prop
  | given (leads : Leads entries textKeys (.text text))
  | omitted (empty : text = "") (lacks : ∀ key ∈ textKeys, Lacks entries key)

inductive SpellsLine (entries : List (Value × Value)) : Option Int → Prop
  | number {n : Int} (held : (.text "line", .int n) ∈ entries) : SpellsLine entries (some n)
  | decimal {n : Int} (writable : Integer.isWritable n = true)
      (held : (.text "line", .text (toString n)) ∈ entries) : SpellsLine entries (some n)
  | null (held : (.text "line", .null) ∈ entries) : SpellsLine entries none
  | omitted (lacks : Lacks entries "line") : SpellsLine entries none

-- Only a mapping has room for a line, and a lone name has none for a text.
inductive Spells (t : Token) : Value → Prop
  | fields {entries : List (Value × Value)} {name : String} (distinct : DistinctKeys entries)
      (named : t.kind.Spells name) (kind : Leads entries kindKeys (.text name))
      (text : SpellsText entries t.text) (line : SpellsLine entries t.line) :
      Spells t (.map entries)
  | pair {name : String} {entry : Value} (named : t.kind.Spells name)
      (sequence : IsSequence [.text name, .text t.text] entry) (noLine : t.line = none) :
      Spells t entry
  | single {name : String} {entry : Value} (named : t.kind.Spells name)
      (sequence : IsSequence [.text name] entry) (noText : t.text = "") (noLine : t.line = none) :
      Spells t entry
  | bare {name : String} (named : t.kind.Spells name) (noText : t.text = "")
      (noLine : t.line = none) : Spells t (.text name)

-- A list of entries, alone or under `tokens` in a mapping.
inductive SpellsStream (stream : List Token) : Value → Prop
  | list {entries : List Value} (spelled : List.Forall₂ Spells stream entries) :
      SpellsStream stream (.list entries)
  | wrapped {fields : List (Value × Value)} {entries : List Value} (distinct : DistinctKeys fields)
      (held : (.text "tokens", .list entries) ∈ fields)
      (spelled : List.Forall₂ Spells stream entries) : SpellsStream stream (.map fields)

theorem firstField?_of_lacks {entries : List (Value × Value)} {keys : List String}
    (lacks : ∀ key ∈ keys, Lacks entries key) : firstField? entries keys = none :=
  List.findSome?_eq_none_iff.mpr fun key member => field?_of_lacks (lacks key member)

theorem firstField?_of_leads {entries : List (Value × Value)} (distinct : DistinctKeys entries)
    {keys : List String} {value : Value} (leads : Leads entries keys value) :
    firstField? entries keys = some value := by
  obtain ⟨higher, key, lower, rfl, lacks, held⟩ := leads
  have skipped := firstField?_of_lacks lacks
  rw [firstField?] at skipped ⊢
  simp [List.findSome?_append, skipped, field?_of_mem distinct held]

theorem fieldText_of_spells {entries : List (Value × Value)} (distinct : DistinctKeys entries)
    {text : String} (spelled : SpellsText entries text) :
    fieldText (firstField? entries textKeys) = .text text := by
  cases spelled with
  | given leads =>
    rw [firstField?_of_leads distinct leads]
    rfl
  | omitted empty lacks => rw [firstField?_of_lacks lacks, fieldText, empty]

theorem line?_of_spells (position : Nat) {entries : List (Value × Value)}
    (distinct : DistinctKeys entries) {line : Option Int} (spelled : SpellsLine entries line) :
    line? position (field? entries "line") = .ok line := by
  cases spelled with
  | number held =>
    rw [field?_of_mem distinct held]
    rfl
  | decimal writable held =>
    rw [field?_of_mem distinct held]
    simp only [line?, lineNumber, lineNumber.numeral, Integer.read_toString writable]
    rfl
  | null held => rw [field?_of_mem distinct held, line?]
  | omitted lacks => rw [field?_of_lacks lacks, line?]

-- Texts are always writable, so a spelled kind and a text make a token.
theorem ofParts_of_spells (position : Nat) {k : Kind} {name : String} (named : k.Spells name)
    (text : String) (line : Option Int) :
    ofParts position (.text name) (.text text) line = .ok ⟨k, position, text, line⟩ := by
  simp [ofParts, isWritable, kindOf, Kind.ofSpelling_of_spells named]

theorem token_of_spells {t : Token} {entry : Value} (spelled : Spells t entry) :
    token t.position entry = .ok t := by
  obtain ⟨kind, position, text, line⟩ := t
  cases spelled with
  | fields distinct named kindField textField lineField =>
    rw [token, ofFields, firstField?_of_leads distinct kindField,
      line?_of_spells position distinct lineField, fieldText_of_spells distinct textField]
    exact ofParts_of_spells position named text line
  | pair named sequence noLine =>
    subst noLine
    rcases sequence with rfl | rfl <;> exact ofParts_of_spells position named text none
  | single named sequence noText noLine =>
    subst noText noLine
    rcases sequence with rfl | rfl <;> exact ofParts_of_spells position named "" none
  | bare named noText noLine =>
    subst noText noLine
    exact ofParts_of_spells position named "" none

theorem tokensFrom_of_spelled {stream : List Token} {entries : List Value}
    (spelled : List.Forall₂ Spells stream entries) (start : Nat)
    (numbered : stream.map (·.position) = List.range' start stream.length) :
    tokensFrom start entries = .ok stream := by
  induction spelled generalizing start with
  | nil => rfl
  | @cons t entry rest entries here _ ih =>
    rw [List.map_cons, List.length_cons, List.range'_succ, List.cons.injEq] at numbered
    obtain ⟨rfl, numberedRest⟩ := numbered
    rw [tokensFrom, token_of_spells here, ih _ numberedRest]
    rfl

theorem tokens_of_spelled {stream : List Token} {v : Value}
    (numbered : stream.map (·.position) = List.range stream.length)
    (spelled : SpellsStream stream v) : tokens v = .ok stream := by
  rw [List.range_eq_range'] at numbered
  cases spelled with
  | list spelled => exact tokensFrom_of_spelled spelled 0 numbered
  | wrapped distinct held spelled =>
    rw [tokens, field?_of_mem distinct held]
    exact tokensFrom_of_spelled spelled 0 numbered

-- Every shape of entry, and a mapping around them in which `1` and true are one key.
theorem tokens_of_spelled_shapes :
    let stream : List Token := [⟨.classKw, 0, "class", some (-3)⟩, ⟨.attrClose, 1, "]", none⟩,
      ⟨.docClose, 2, "", none⟩, ⟨.whitespace, 3, "", none⟩]
    let v := Value.ofPairs [(.int 1, .null), (.bool true, .text "x"), (.text "tokens", .list [
      .map [(.text "line", .text "-3"), (.text "code", .int 7), (.text "content", .text "class"),
        (.text "text", .null), (.text "type", .text " T_Class\n")],
      .tuple [.text "t_ATTRIBUTE_end", .text "]"], .list [.text "Doc_Comment_Close_Tag"],
      .text "\u3000whitespace"])]
    stream.map (·.position) = List.range stream.length ∧ SpellsStream stream v ∧
      tokens v = .ok stream := by
  intro stream v
  have numbered : stream.map (·.position) = List.range stream.length := rfl
  have spelled : SpellsStream stream v := by
    refine .wrapped (distinctKeys_ofPairs _) (.tail _ (.head _))
      (.cons ?_ (.cons ?_ (.cons ?_ (.cons ?_ .nil))))
    · have named : Kind.classKw.Spells " T_Class\n" :=
        ⟨[' '], ['T', '_'], ['C', 'l', 'a', 's', 's'], ['\n'], by decide +kernel⟩
      exact .fields (by decide) named ⟨[], _, _, rfl, by simp, by simp⟩
        (.given ⟨[], _, _, rfl, by simp, by simp⟩) (.decimal (by decide +kernel) (.head _))
    · exact .pair ⟨[], ['t', '_'], "ATTRIBUTE_end".toList, [], by decide +kernel⟩ (.inr rfl) rfl
    · exact .single ⟨[], [], "Doc_Comment_Close_Tag".toList, [], by decide +kernel⟩ (.inl rfl) rfl rfl
    · exact .bare ⟨['\u3000'], [], "whitespace".toList, [], by decide +kernel⟩ rfl rfl
  exact ⟨numbered, spelled, tokens_of_spelled numbered spelled⟩

end Dump

end DocGuard
