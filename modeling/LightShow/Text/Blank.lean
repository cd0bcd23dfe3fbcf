/-!
White space in the sense of the Unicode property `White_Space`, and trimming by it.
-/

set_option autoImplicit false

namespace LightShow

def isBlank (c : Char) : Bool :=
  let n := c.toNat
  (0x9 ≤ n && n ≤ 0xD) || n == 0x20 || n == 0x85 || n == 0xA0 || n == 0x1680
    || (0x2000 ≤ n && n ≤ 0x200A) || n == 0x2028 || n == 0x2029 || n == 0x202F || n == 0x205F
    || n == 0x3000

/-- Leaves out the white space at both ends. -/
def trimBlank (text : List Char) : List Char :=
  ((text.dropWhile isBlank).reverse.dropWhile isBlank).reverse

/-- Whether there is nothing but white space. -/
def isAllBlank (text : String) : Bool :=
  text.toList.all isBlank

end LightShow
