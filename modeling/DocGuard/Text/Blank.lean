set_option autoImplicit false

namespace DocGuard.Text

-- The separators U+001C to U+001F are blank, a zero-width space is not.
def isBlank (c : Char) : Bool :=
  let n := c.toNat
  (0x09 ≤ n && n ≤ 0x0d) || (0x1c ≤ n && n ≤ 0x20) || n == 0x85 || n == 0xa0 || n == 0x1680 ||
    (0x2000 ≤ n && n ≤ 0x200a) || n == 0x2028 || n == 0x2029 || n == 0x202f || n == 0x205f ||
    n == 0x3000

def trim (inClass : Char → Bool) (text : List Char) : List Char :=
  ((text.dropWhile inClass).reverse.dropWhile inClass).reverse

@[simp]
theorem trim_nil (inClass : Char → Bool) : trim inClass [] = [] := rfl

def strip (text : List Char) : List Char := trim isBlank text

end DocGuard.Text
