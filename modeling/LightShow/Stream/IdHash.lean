/-!
The signed 32-bit hash by which a streamed record names its light: a polynomial in 31 over the
UTF-16 units of the id, with wrap-around.
-/

set_option autoImplicit false

namespace LightShow

/-- The UTF-16 units of a character: itself up to `U+FFFF`, a surrogate pair above. -/
def utf16Units (c : Char) : List UInt32 :=
  if c.val < 0x10000 then [c.val]
  else
    let offset := c.val - 0x10000
    [0xD800 + offset / 0x400, 0xDC00 + offset % 0x400]

/-- The UTF-16 units of a text. -/
def textUnits (text : String) : List UInt32 :=
  text.toList.flatMap utf16Units

/-- Goes on with a hash, unit by unit in signed words. -/
def hashUnits (start : Int32) (units : List UInt32) : Int32 :=
  units.foldl (fun hash unit => hash * 31 + unit.toInt32) start

/-- The hash of a light id. -/
def idHash (light : String) : Int32 :=
  hashUnits 0 (textUnits light)

end LightShow
