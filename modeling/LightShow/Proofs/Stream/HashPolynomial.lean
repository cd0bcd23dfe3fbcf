import LightShow.Proofs.Stream.IdHash
import Mathlib.Algebra.BigOperators.Fin
import Mathlib.Data.Int.ModEq
import Mathlib.Tactic.Ring

/-!
# The hash of a light as a polynomial

The receiving side takes the UTF-16 units of an id as the coefficients of a polynomial, the first
one highest, and evaluates it at 31 in signed words of 32 bits. Here the units of a text are said by
the encoding form itself, as a relation (`Utf16`), and the polynomial is a sum of unbounded
integers. The hash wraps at every unit, the sum is reduced once at its end, and both are the same
word (`toInt_idHash`). Texts that are put together shift the first hash by the units of the second
(`unitPolynomial_append`).
-/

set_option autoImplicit false

namespace LightShow

/-- The UTF-16 units of a row of characters. A character up to `U+FFFF` is one unit; one above is a
high and a low surrogate, which hold the upper and the lower ten bits of what it exceeds that by. -/
inductive Utf16 : List Char → List ℕ → Prop where
  | nil : Utf16 [] []
  | single {c : Char} {chars : List Char} {units : List ℕ} (hc : c.toNat ≤ 0xFFFF)
    (hrest : Utf16 chars units) : Utf16 (c :: chars) (c.toNat :: units)
  | pair {c : Char} {high low : ℕ} {chars : List Char} {units : List ℕ}
    (hhigh : 0xD800 ≤ high ∧ high ≤ 0xDBFF) (hlow : 0xDC00 ≤ low ∧ low ≤ 0xDFFF)
    (hc : c.toNat = 0x10000 + (high - 0xD800) * 0x400 + (low - 0xDC00))
    (hrest : Utf16 chars units) : Utf16 (c :: chars) (high :: low :: units)

namespace Utf16

/-- The surrogates do not wrap, for what a character exceeds `U+FFFF` by has twenty bits. -/
theorem cons_utf16Units (c : Char) {chars : List Char} {units : List ℕ}
    (hrest : Utf16 chars units) :
    Utf16 (c :: chars) ((utf16Units c).map UInt32.toNat ++ units) := by
  have hval : c.val.toNat = c.toNat := Char.toNat_val
  have hlast : c.toNat < 0x110000 := by
    rcases c.valid with hlow | hhigh
    · omega
    · exact hhigh.2
  unfold utf16Units
  split_ifs with hsmall
  · have hc : c.toNat ≤ 0xFFFF := by
      have hlt : c.val.toNat < 0x10000 := UInt32.lt_iff_toNat_lt.mp hsmall
      omega
    exact .single hc hrest
  · have hge : 0x10000 ≤ c.val := UInt32.not_lt.mp hsmall
    have hchar : 0x10000 ≤ c.toNat := UInt32.le_iff_toNat_le.mp hge
    have hoffset : (c.val - 0x10000).toNat = c.toNat - 0x10000 := by
      rw [UInt32.toNat_sub_of_le _ _ hge, hval]
      rfl
    have hhigh : (0xD800 + (c.val - 0x10000) / 0x400).toNat =
        0xD800 + (c.toNat - 0x10000) / 0x400 := by
      rw [UInt32.toNat_add, UInt32.toNat_div, hoffset]
      change (0xD800 + (c.toNat - 0x10000) / 0x400) % 2 ^ 32 = _
      omega
    have hlow : (0xDC00 + (c.val - 0x10000) % 0x400).toNat =
        0xDC00 + (c.toNat - 0x10000) % 0x400 := by
      rw [UInt32.toNat_add, UInt32.toNat_mod, hoffset]
      change (0xDC00 + (c.toNat - 0x10000) % 0x400) % 2 ^ 32 = _
      omega
    rw [List.map_cons, List.map_singleton, hhigh, hlow]
    refine .pair ?_ ?_ ?_ hrest <;> omega

/-- The units of a text are its units in the encoding form. -/
theorem of_textUnits (text : String) : Utf16 text.toList ((textUnits text).map UInt32.toNat) := by
  unfold textUnits
  induction text.toList with
  | nil => exact .nil
  | cons c chars ih =>
    rw [List.flatMap_cons, List.map_append]
    exact cons_utf16Units c ih

/-- A row of characters has one row of units. -/
theorem unique {chars : List Char} {units others : List ℕ} (hunits : Utf16 chars units)
    (hothers : Utf16 chars others) : units = others := by
  induction hunits generalizing others with
  | nil =>
    cases hothers
    rfl
  | single hc hrest ih =>
    cases hothers with
    | single hc' hrest' => rw [ih hrest']
    | pair hhigh' hlow' hc' hrest' => omega
  | pair hhigh hlow hc hrest ih =>
    cases hothers with
    | single hc' hrest' => omega
    | pair hhigh' hlow' hc' hrest' =>
      rw [ih hrest']
      congr 2 <;> omega

theorem eq_textUnits {text : String} {units : List ℕ} (hunits : Utf16 text.toList units) :
    units = (textUnits text).map UInt32.toNat :=
  hunits.unique (of_textUnits text)

end Utf16

/-- Numbers as the coefficients of a polynomial in 31, the first one highest. -/
def unitPolynomial (units : List ℕ) : ℕ :=
  ∑ i : Fin units.length, units[i] * 31 ^ (units.length - 1 - i)

theorem unitPolynomial_cons (unit : ℕ) (units : List ℕ) :
    unitPolynomial (unit :: units) = unit * 31 ^ units.length + unitPolynomial units := by
  refine (Fin.sum_univ_succ _).trans ?_
  refine congrArg₂ _ (by simp) (Finset.sum_congr rfl fun i _ ↦ ?_)
  have hexponent : (unit :: units).length - 1 - (i.succ : ℕ) = units.length - 1 - i := by
    rw [List.length_cons, Fin.val_succ]
    omega
  rw [hexponent]
  rfl

theorem unitPolynomial_eq_ofDigits (units : List ℕ) :
    unitPolynomial units = Nat.ofDigits 31 units.reverse := by
  induction units with
  | nil => rfl
  | cons unit units ih =>
    rw [unitPolynomial_cons, ih, List.reverse_cons, Nat.ofDigits_append, Nat.ofDigits_singleton,
      List.length_reverse]
    ring

theorem unitPolynomial_append (first second : List ℕ) :
    unitPolynomial (first ++ second) =
      unitPolynomial first * 31 ^ second.length + unitPolynomial second := by
  rw [unitPolynomial_eq_ofDigits, List.reverse_append, Nat.ofDigits_append,
    ← unitPolynomial_eq_ofDigits, ← unitPolynomial_eq_ofDigits, List.length_reverse]
  ring

/-- The hash wraps at every unit and is the polynomial reduced once at the end. -/
theorem toInt_idHash {light : String} {units : List ℕ} (hunits : Utf16 light.toList units) :
    (idHash light).toInt = (unitPolynomial units : ℤ).bmod (2 ^ 32) := by
  rw [hunits.eq_textUnits, unitPolynomial_eq_ofDigits, ← List.map_reverse, idHash,
    hashUnits_eq_ofDigits, Int32.toInt_ofNat']
  rfl

theorem idHash_modEq {light : String} {units : List ℕ} (hunits : Utf16 light.toList units) :
    (idHash light).toInt ≡ unitPolynomial units [ZMOD 2 ^ 32] := by
  rw [toInt_idHash hunits]
  exact Int.bmod_emod

theorem textUnits_append (a b : String) : textUnits (a ++ b) = textUnits a ++ textUnits b := by
  rw [textUnits, String.toList_append, List.flatMap_append]
  rfl

/-- The hash of a light is the signed word of its UTF-16 units as a polynomial in 31, and the hash
of two texts put together is that of the first, shifted by the units of the second, plus that of the
second. Every text has its units, and no others. -/
theorem idHash_eq_polynomial :
    (∀ light : String, ∃! units, Utf16 light.toList units) ∧
    (∀ (light : String) (units : List ℕ), Utf16 light.toList units →
      (idHash light).toInt =
        Int.bmod (∑ i : Fin units.length, units[i] * 31 ^ (units.length - 1 - i) : ℕ) (2 ^ 32)) ∧
    ∀ (a b : String) (units : List ℕ), Utf16 b.toList units →
      (idHash (a ++ b)).toInt ≡
        (idHash a).toInt * 31 ^ units.length + (idHash b).toInt [ZMOD 2 ^ 32] := by
  refine ⟨fun light ↦ ?_, fun light units hunits ↦ toInt_idHash hunits, ?_⟩
  · exact ⟨_, Utf16.of_textUnits light, fun units hunits ↦ hunits.eq_textUnits⟩
  · intro a b units hunits
    have hfirst := idHash_modEq (Utf16.of_textUnits a)
    have hsecond := idHash_modEq hunits
    have hwhole := idHash_modEq (Utf16.of_textUnits (a ++ b))
    rw [textUnits_append, List.map_append, ← hunits.eq_textUnits, unitPolynomial_append] at hwhole
    push_cast at hwhole
    exact hwhole.trans ((hfirst.symm.mul_right _).add hsecond.symm)

/-- A text with a surrogate pair, and one whose hash is the least signed word. -/
theorem idHash_eq_polynomial_music :
    Utf16 "Go 🎵".toList [71, 111, 32, 0xD83C, 0xDFB5] ∧
    (idHash "Go 🎵").toInt = 70680849 ∧
    (idHash ("Hue " ++ "Go 🎵")).toInt ≡
      (idHash "Hue ").toInt * 31 ^ 5 + 70680849 [ZMOD 2 ^ 32] ∧
    (idHash "polygenelubricants").toInt = -2 ^ 31 := by
  have hmusic : Utf16 "Go 🎵".toList [71, 111, 32, 0xD83C, 0xDFB5] := Utf16.of_textUnits "Go 🎵"
  have hhash := idHash_eq_polynomial.2.1 "Go 🎵" _ hmusic
  have hjoined := idHash_eq_polynomial.2.2 "Hue " "Go 🎵" _ hmusic
  have hleast := idHash_eq_polynomial.2.1 "polygenelubricants" _ (Utf16.of_textUnits _)
  have hvalue : (idHash "Go 🎵").toInt = 70680849 := hhash.trans (by decide +kernel)
  rw [hvalue] at hjoined
  exact ⟨hmusic, hvalue, hjoined, hleast.trans (by decide +kernel)⟩

end LightShow
