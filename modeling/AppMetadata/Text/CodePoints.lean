/-!
# `AppMetadata.Text.CodePoints`: sets of code points

A set of characters that a standard lists as ranges is kept as its sorted
boundaries (`CodePoints`). Sets and case maps of alphabets whose letters
come in pairs are kept as arithmetic progressions (`Progression`, `Shift`).
-/

set_option autoImplicit false

namespace AppMetadata.Text

/-- A set of code points by its sorted boundaries: the set starts at the
first, ends before the second, starts again at the third, and so on. -/
structure CodePoints where
  boundaries : List Nat

/-- Whether `c` lies in the set: an odd number of boundaries is at or below
it. -/
def CodePoints.contains (s : CodePoints) (c : Char) : Bool :=
  s.boundaries.foldl (fun inside b => if b ≤ c.toNat then !inside else inside) false

/-- The code points `first`, `first + step`, … up to `last`. -/
structure Progression where
  first : Nat
  last : Nat
  step : Nat

/-- Whether `c` is a term of the progression. -/
def Progression.contains (p : Progression) (c : Char) : Bool :=
  p.first ≤ c.toNat && c.toNat ≤ p.last && (c.toNat - p.first) % p.step == 0

/-- A map that moves each term of `source` by the same `distance`. -/
structure Shift where
  source : Progression
  distance : Int

/-- The image of `c`. -/
def Shift.apply (s : Shift) (c : Char) : Char :=
  Char.ofNat ((c.toNat : Int) + s.distance).toNat

end AppMetadata.Text
