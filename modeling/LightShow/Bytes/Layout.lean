/-!
Numbers spelled by bytes, and lists cut into pieces of one size.
-/

set_option autoImplicit false

namespace LightShow

/-- The low `width` bytes of a number, the most significant one first. -/
def bigEndian : Nat → Nat → List UInt8
  | 0, _ => []
  | width + 1, n => bigEndian width (n / 256) ++ [UInt8.ofNat n]

/-- The number spelled by bytes, the most significant one first. -/
def ofBigEndian (bytes : List UInt8) : Nat :=
  bytes.foldl (fun n byte => n * 256 + byte.toNat) 0

/-- The number spelled by bytes, the least significant one first. -/
def ofLittleEndian (bytes : List UInt8) : Nat :=
  ofBigEndian bytes.reverse

/-- The first `count` pieces of `size` of a list. -/
def takeChunks {α : Type} (size : Nat) : Nat → List α → List (List α)
  | 0, _ => []
  | count + 1, xs => xs.take size :: takeChunks size count (xs.drop size)

/-- Cuts a list into pieces of `size`, leaving out a last one that is too short. -/
def chunks {α : Type} (size : Nat) (xs : List α) : List (List α) :=
  takeChunks size (xs.length / size) xs

end LightShow
