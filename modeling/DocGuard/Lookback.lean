import DocGuard.KindSet

set_option autoImplicit false

namespace DocGuard.Lookback

-- A list named `before` holds the kinds before some place, nearest first, so its length is the
-- index of that place and the length of its tail the index of its head.
def openerFrom : Int → List Kind → Option Nat
  | _, [] => none
  | depth, .attrClose :: before => openerFrom (depth + 1) before
  | depth, .attrOpen :: before =>
    if depth - 1 = 0 then some before.length else openerFrom (depth - 1) before
  | depth, _ :: before => openerFrom depth before

def opener? (kinds : List Kind) (stop : Int) : Option Nat :=
  if stop < 0 ∨ (kinds.length : Int) ≤ stop then none
  else openerFrom 0 (kinds.take (stop.toNat + 1)).reverse

-- The search starts inside `depth` attribute blocks. A block that is never opened swallows the rest
-- of the stream.
def significantFrom (skip : SkipSet) : Nat → List Kind → Option Nat
  | _, [] => none
  | 0, k :: before =>
    if k = .attrClose then significantFrom skip 1 before
    else if skip.has k then significantFrom skip 0 before
    else some before.length
  | depth + 1, .attrClose :: before => significantFrom skip (depth + 2) before
  | depth + 1, .attrOpen :: before => significantFrom skip depth before
  | depth + 1, _ :: before => significantFrom skip (depth + 1) before

def significant? (kinds : List Kind) (start : Int) (skip : SkipSet) : Option Nat :=
  if start ≤ 0 ∨ (kinds.length : Int) < start then none
  else significantFrom skip 0 (kinds.take start.toNat).reverse

end DocGuard.Lookback
