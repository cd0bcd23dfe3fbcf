import LightShow.Bytes.Layout
import Mathlib.Data.List.Induction
import Mathlib.Data.Nat.Digits.Defs

/-!
# Numbers in bytes and pieces of lists

Writing and reading of a big-endian number undo each other (`ofBigEndian_bigEndian`,
`bigEndian_ofBigEndian`). The pieces a list is cut into stand at the multiples of their size
(`chunks_eq_map_range`), and they add up to its first part (`flatMap_range_take_drop`).
-/

set_option autoImplicit false

namespace LightShow

/-! ### Big-endian numbers -/

@[simp]
theorem length_bigEndian (width n : ℕ) : (bigEndian width n).length = width := by
  induction width generalizing n with
  | zero => rfl
  | succ width ih => simp [bigEndian, ih]

theorem ofBigEndian_concat (bytes : List UInt8) (byte : UInt8) :
    ofBigEndian (bytes ++ [byte]) = ofBigEndian bytes * 256 + byte.toNat := by
  simp [ofBigEndian]

/-- The last byte is the remainder by 256, and the bytes before it spell the quotient. -/
theorem ofBigEndian_bigEndian (width n : ℕ) :
    ofBigEndian (bigEndian width n) = n % 256 ^ width := by
  induction width generalizing n with
  | zero => simp [bigEndian, ofBigEndian, Nat.mod_one]
  | succ width ih =>
    rw [bigEndian, ofBigEndian_concat, ih, pow_succ', Nat.mod_mul, UInt8.toNat_ofNat']
    omega

theorem bigEndian_ofBigEndian (bytes : List UInt8) :
    bigEndian bytes.length (ofBigEndian bytes) = bytes := by
  induction bytes using List.reverseRecOn with
  | nil => rfl
  | append_singleton bytes byte ih =>
    have hbyte : byte.toNat < 256 := byte.toNat_lt
    have hrest : (ofBigEndian bytes * 256 + byte.toNat) / 256 = ofBigEndian bytes := by omega
    have hlast : UInt8.ofNat (ofBigEndian bytes * 256 + byte.toNat) = byte := by
      rw [← UInt8.toNat_inj, UInt8.toNat_ofNat']
      omega
    rw [List.length_append, List.length_singleton, ofBigEndian_concat, bigEndian, hrest, hlast, ih]

theorem ofBigEndian_lt (bytes : List UInt8) : ofBigEndian bytes < 256 ^ bytes.length := by
  have hmod := ofBigEndian_bigEndian bytes.length (ofBigEndian bytes)
  rw [bigEndian_ofBigEndian] at hmod
  rw [hmod]
  exact Nat.mod_lt _ (by positivity)

theorem ofLittleEndian_lt (bytes : List UInt8) : ofLittleEndian bytes < 256 ^ bytes.length := by
  have hbound := ofBigEndian_lt bytes.reverse
  rwa [List.length_reverse] at hbound

/-! ### Pieces of a list -/

theorem take_drop_append {α : Type} (before piece after : List α) {offset size : ℕ}
    (hoffset : before.length = offset) (hsize : piece.length = size) :
    ((before ++ (piece ++ after)).drop offset).take size = piece := by
  rw [← hoffset, List.drop_left]
  exact List.take_left' hsize

theorem length_take_drop {α : Type} {xs : List α} {offset size : ℕ}
    (hfits : offset + size ≤ xs.length) : ((xs.drop offset).take size).length = size := by
  rw [List.length_take, List.length_drop]
  omega

/-- Of a list that was put together from pieces of one size, every piece can be cut out. -/
theorem take_drop_flatMap {α β : Type} (f : α → List β) {size : ℕ}
    (hsize : ∀ x, (f x).length = size) (xs : List α) {i : ℕ} (hi : i < xs.length) :
    ((xs.flatMap f).drop (i * size)).take size = f xs[i] := by
  induction xs generalizing i with
  | nil => exact absurd hi (Nat.not_lt_zero i)
  | cons x xs ih =>
    rw [List.flatMap_cons]
    cases i with
    | zero =>
      rw [Nat.zero_mul, List.drop_zero]
      exact List.take_left' (hsize x)
    | succ i =>
      have hoffset : (i + 1) * size = (f x).length + i * size := by
        rw [hsize, Nat.add_mul]
        omega
      rw [hoffset, List.drop_length_add_append]
      exact ih (Nat.lt_of_succ_lt_succ hi)

theorem takeChunks_eq_map_range {α : Type} (size count : ℕ) (xs : List α) :
    takeChunks size count xs =
      (List.range count).map fun i ↦ (xs.drop (i * size)).take size := by
  induction count generalizing xs with
  | zero => rfl
  | succ count ih =>
    rw [takeChunks, ih, List.range_succ_eq_map, List.map_cons, List.map_map, Nat.zero_mul,
      List.drop_zero]
    congr 1
    refine List.map_congr_left fun i _ ↦ ?_
    rw [List.drop_drop, Function.comp_apply, Nat.succ_mul, Nat.add_comm]

theorem chunks_eq_map_range {α : Type} (size : ℕ) (xs : List α) :
    chunks size xs = (List.range (xs.length / size)).map fun i ↦ (xs.drop (i * size)).take size :=
  takeChunks_eq_map_range size _ xs

/-- Pieces of one size from the start of a list add up to its first part. -/
theorem flatMap_range_take_drop {α : Type} (xs : List α) (size count : ℕ) :
    (List.range count).flatMap (fun i ↦ (xs.drop (i * size)).take size) =
      xs.take (count * size) := by
  induction count with
  | zero => simp
  | succ count ih =>
    rw [List.range_succ, List.flatMap_append, ih, List.flatMap_singleton, ← List.take_add,
      Nat.succ_mul]

theorem take_eq_take_iff_getElem? {α : Type} {xs ys : List α} {count : ℕ} :
    xs.take count = ys.take count ↔ ∀ i < count, xs[i]? = ys[i]? := by
  constructor
  · intro htake i hi
    rw [← List.getElem?_take_of_lt hi, htake, List.getElem?_take_of_lt hi]
  · intro hagree
    refine List.ext_getElem? fun i ↦ ?_
    rw [List.getElem?_take, List.getElem?_take]
    split_ifs with hi
    · exact hagree i hi
    · rfl

end LightShow
