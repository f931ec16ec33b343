import DocGuard.Lookback

set_option autoImplicit false

namespace DocGuard.Lookback

-- Every opener has its closer and every closer its opener.
inductive Balanced : List Kind → Prop
  | nil : Balanced []
  | plain {k : Kind} {rest : List Kind} (notOpen : k ≠ .attrOpen) (notClose : k ≠ .attrClose)
      (balanced : Balanced rest) : Balanced (k :: rest)
  | block {inner rest : List Kind} (inside : Balanced inner) (balanced : Balanced rest) :
      Balanced (.attrOpen :: inner ++ .attrClose :: rest)

-- One attribute block from its opener to its closer.
inductive Block : List Kind → Prop
  | enclose {inner : List Kind} (inside : Balanced inner) :
      Block (.attrOpen :: inner ++ [.attrClose])

-- What may stand between a declaration and its significant token.
inductive Gap (skip : SkipSet) : List Kind → Prop
  | nil : Gap skip []
  | skipped {k : Kind} {rest : List Kind} (has : skip.has k = true) (notClose : k ≠ .attrClose)
      (gap : Gap skip rest) : Gap skip (k :: rest)
  | block {block rest : List Kind} (complete : Block block) (gap : Gap skip rest) :
      Gap skip (block ++ rest)

def matchingFrom (place : Nat) (stack : List Nat) : List Kind → List (Nat × Option Nat)
  | [] => []
  | .attrOpen :: rest => matchingFrom (place + 1) (place :: stack) rest
  | .attrClose :: rest => (place, stack.head?) :: matchingFrom (place + 1) stack.tail rest
  | _ :: rest => matchingFrom (place + 1) stack rest

def matching (kinds : List Kind) : List (Nat × Option Nat) := matchingFrom 0 [] kinds

end DocGuard.Lookback
