import LightShow.Audio.Window

/-!
The discrete Fourier transform of real samples and the magnitudes of its bins. Even lengths are
halved; odd ones are summed up directly.
-/

set_option autoImplicit false

namespace LightShow

/-- A complex number. -/
structure Phasor where
  re : Float
  im : Float
  deriving Inhabited, Repr

namespace Phasor

def zero : Phasor := ⟨0, 0⟩

def add (a b : Phasor) : Phasor := ⟨a.re + b.re, a.im + b.im⟩

def sub (a b : Phasor) : Phasor := ⟨a.re - b.re, a.im - b.im⟩

def mul (a b : Phasor) : Phasor := ⟨a.re * b.re - a.im * b.im, a.re * b.im + a.im * b.re⟩

/-- The absolute value, scaled so that squares neither overflow nor vanish. -/
def norm (a : Phasor) : Float :=
  let x := a.re.abs
  let y := a.im.abs
  let large := if x < y then y else x
  let small := if x < y then x else y
  if x.isInf || y.isInf then 1 / 0
  else if large == 0 then 0
  else
    let ratio := small / large
    large * (1 + ratio * ratio).sqrt

/-- The `k`-th of `n` points on the unit circle, going round clockwise. -/
def root (n k : Nat) : Phasor :=
  let angle := 2 * Window.halfTurn * Float.ofNat k / Float.ofNat n
  ⟨angle.cos, -angle.sin⟩

end Phasor

namespace Fourier

/-- The items at even places. -/
def evens {α : Type} : List α → List α
  | a :: _ :: rest => a :: evens rest
  | rest => rest

/-- The items at odd places. -/
def odds {α : Type} : List α → List α
  | _ :: b :: rest => b :: odds rest
  | _ => []

/-- The transform by its defining sum. -/
def direct (xs : List Phasor) : List Phasor :=
  let n := xs.length
  let roots := ((List.range n).map (Phasor.root n)).toArray
  (List.range n).map fun k =>
    (xs.foldl (fun (total, i) x => (total.add (x.mul (roots.getD i .zero)), (i + k) % n))
      (Phasor.zero, 0)).1

/-- Joins the transforms of the even and the odd places. -/
def join (even odd : List Phasor) : List Phasor :=
  let half := even.length
  let turned := List.zipWith Phasor.mul ((List.range half).map (Phasor.root (2 * half))) odd
  List.zipWith Phasor.add even turned ++ List.zipWith Phasor.sub even turned

/-- The transform, halving even lengths at most `depth` times. -/
def transform : Nat → List Phasor → List Phasor
  | 0, xs => direct xs
  | depth + 1, xs =>
    if xs.length % 2 = 0 ∧ 2 ≤ xs.length then
      join (transform depth (evens xs)) (transform depth (odds xs))
    else direct xs

/-- The magnitudes of the first bins. -/
def magnitudes (bins : Nat) (samples : List Float) : List Float :=
  let values := (transform 64 (samples.map fun x => ⟨x, 0⟩)).toArray
  (List.range bins).map fun bin => (values.getD bin .zero).norm

end Fourier

end LightShow
