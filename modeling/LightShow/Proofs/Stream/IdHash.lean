import LightShow.Stream.IdHash
import Mathlib.Data.List.Basic
import Mathlib.Data.List.Induction
import Mathlib.Data.Nat.Digits.Defs

/-!
# Every word is the hash of a light

The hash of units reads them as digits to base 31, the first one highest, and drops what exceeds a
word (`hashUnits_eq_ofDigits`). A word written to base 31 has digits below 31, each of which is a
character of one unit, so the text of these digits has that word as its hash (`idHash_lightOf`).
-/

set_option autoImplicit false

namespace LightShow

theorem hashUnits_concat (start : Int32) (units : List UInt32) (unit : UInt32) :
    hashUnits start (units ++ [unit]) = hashUnits start units * 31 + unit.toInt32 := by
  simp [hashUnits]

theorem toInt32_eq_ofNat (unit : UInt32) : unit.toInt32 = Int32.ofNat unit.toNat := by
  rw [← UInt32.toInt32_ofNat', UInt32.ofNat_toNat]

theorem hashUnits_eq_ofDigits (units : List UInt32) :
    hashUnits 0 units = Int32.ofNat (Nat.ofDigits 31 (units.reverse.map UInt32.toNat)) := by
  induction units using List.reverseRecOn with
  | nil => rfl
  | append_singleton units unit ih =>
    rw [hashUnits_concat, ih, List.reverse_append, List.reverse_singleton, List.singleton_append,
      List.map_cons, Nat.ofDigits_cons, Nat.add_comm, Int32.ofNat_add, Int32.ofNat_mul,
      toInt32_eq_ofNat, Int32.mul_comm]
    rfl

/-- A character of a digit to base 31 is one unit. -/
theorem utf16Units_digit : ∀ digit < 31, utf16Units (Char.ofNat digit) = [UInt32.ofNat digit] := by
  decide

/-- A light with a given hash: the text of its digits to base 31. -/
def lightOf (hash : Int32) : String :=
  String.ofList ((Nat.digits 31 hash.toUInt32.toNat).reverse.map Char.ofNat)

theorem textUnits_lightOf (hash : Int32) :
    textUnits (lightOf hash) = (Nat.digits 31 hash.toUInt32.toNat).reverse.map UInt32.ofNat := by
  rw [textUnits, lightOf, String.toList_ofList, List.flatMap_map, List.map_eq_flatMap]
  refine List.flatMap_congr fun digit hdigit ↦ utf16Units_digit digit ?_
  exact Nat.digits_lt_base (by decide) (List.mem_reverse.mp hdigit)

theorem idHash_lightOf (hash : Int32) : idHash (lightOf hash) = hash := by
  have hdigits : ((Nat.digits 31 hash.toUInt32.toNat).map UInt32.ofNat).map UInt32.toNat =
      Nat.digits 31 hash.toUInt32.toNat := by
    rw [List.map_map]
    refine (List.map_congr_left fun digit hdigit ↦ ?_).trans (List.map_id _)
    have hlt : digit < 31 := Nat.digits_lt_base (by decide) hdigit
    exact UInt32.toNat_ofNat_of_lt' (hlt.trans (by decide))
  rw [idHash, textUnits_lightOf, hashUnits_eq_ofDigits, ← List.map_reverse, List.reverse_reverse,
    hdigits, Nat.ofDigits_digits, ← toInt32_eq_ofNat, Int32.toInt32_toUInt32]

end LightShow
