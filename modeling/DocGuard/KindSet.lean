import DocGuard.Kind

set_option autoImplicit false

namespace DocGuard

structure KindSet where
  has : Kind → Bool

namespace KindSet

def ofList (kinds : List Kind) : KindSet := ⟨kinds.contains⟩

@[simp]
theorem has_ofList (kinds : List Kind) (k : Kind) : (ofList kinds).has k = kinds.contains k := rfl

@[ext]
theorem ext {a b : KindSet} (same : ∀ k, a.has k = b.has k) : a = b := by
  cases a
  cases b
  simp only [mk.injEq]
  exact funext same

def toList (s : KindSet) : List Kind := Kind.all.filter s.has

@[simp]
theorem mem_toList (s : KindSet) (k : Kind) : k ∈ s.toList ↔ s.has k = true := by
  simp [toList, Kind.mem_all]

def size (s : KindSet) : Nat := s.toList.length

def labels (s : KindSet) : List String := (s.toList.map Kind.label).mergeSort fun a b => a ≤ b

end KindSet

-- Kinds that do not separate a declaration from its doc comment. White space is always one.
structure SkipSet extends KindSet where
  has_whitespace : has .whitespace = true

namespace SkipSet

def ofList (kinds : List Kind) : SkipSet where
  has k := k == .whitespace || kinds.contains k
  has_whitespace := rfl

@[simp]
theorem has_ofList (kinds : List Kind) (k : Kind) :
    (ofList kinds).has k = (k == .whitespace || kinds.contains k) := rfl

instance : BEq SkipSet where
  beq a b := a.toList == b.toList

def toText (s : SkipSet) : String := "SkipSet(" ++ ", ".intercalate s.labels ++ ")"

end SkipSet

end DocGuard
