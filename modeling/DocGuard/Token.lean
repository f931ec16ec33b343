import DocGuard.Kind

set_option autoImplicit false

namespace DocGuard

structure Token where
  kind : Kind
  position : Nat
  text : String
  line : Option Int
  deriving Repr, DecidableEq

end DocGuard
