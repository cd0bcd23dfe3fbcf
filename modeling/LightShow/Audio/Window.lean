/-!
Window shapes, by which samples are weighted before the transform.
-/

set_option autoImplicit false

namespace LightShow

inductive Window where
  /-- All weights are one. -/
  | rectangular
  | hamming
  | hann
  | blackman
  deriving DecidableEq, Repr

namespace Window

def name : Window → String
  | .rectangular => "none"
  | .hamming => "hamming"
  | .hann => "hann"
  | .blackman => "blackman"

def ofName? (name : String) : Option Window :=
  [rectangular, hamming, hann, blackman].find? fun window => window.name = name

/-- Half the circumference of the unit circle. -/
def halfTurn : Float := 3.141592653589793

/-- The weight of sample `i` of `n`. With one sample there is nothing to shape. -/
def weight (window : Window) (i n : Nat) : Float :=
  if n ≤ 1 then 1
  else
    let phase := 2 * halfTurn * Float.ofNat i / Float.ofNat (n - 1)
    match window with
    | .rectangular => 1
    | .hamming => 0.54 - 0.46 * phase.cos
    | .hann => 0.5 * (1 - phase.cos)
    | .blackman => 0.42 - 0.5 * phase.cos + 0.08 * (2 * phase).cos

/-- The weights of `n` samples. -/
def weights (window : Window) (n : Nat) : List Float :=
  (List.range n).map fun i => window.weight i n

/-- Weighs samples. -/
def apply (window : Window) (samples : List Float) : List Float :=
  match window with
  | .rectangular => samples
  | window => List.zipWith (· * ·) samples (window.weights samples.length)

end Window

end LightShow
