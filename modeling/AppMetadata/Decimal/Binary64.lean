/-!
# `AppMetadata.Decimal.Binary64`: the number that a decimal text stands for

A positive fraction is rounded to the nearest number of 53 binary digits,
half to even, with exponents from -1074 to 971 (`Binary64.ofFraction`); and
such a number is written with the fewest decimal digits that round back to
it (`Binary64.text`). All arithmetic is exact.
-/

set_option autoImplicit false

namespace AppMetadata.Decimal

/-- The natural number nearest to `num / den`; a half goes to the even
neighbour. -/
def roundDiv (num den : Nat) : Nat :=
  let quotient := num / den
  let rest := num % den
  if 2 * rest < den then quotient
  else if den < 2 * rest then quotient + 1
  else quotient + quotient % 2

/-- A nonnegative number of binary floating point. -/
inductive Binary64
  | zero
  /-- `mantissa * 2 ^ exponent`, with a mantissa below `2 ^ 53`. -/
  | finite (mantissa : Nat) (exponent : Int)
  | infinite
deriving DecidableEq, Repr

namespace Binary64

/-- The least exponent. -/
def leastExponent : Int := -1074

/-- The greatest exponent. -/
def greatestExponent : Int := 971

/-- `num / den` divided by `2 ^ exponent`, as a fraction. -/
def scaled (num den : Nat) (exponent : Int) : Nat × Nat :=
  (num * Nat.pow 2 (-exponent).toNat, den * Nat.pow 2 exponent.toNat)

/-- The greatest exponent at which `num / den` has at least 53 binary digits,
but not below the least exponent. -/
def exponentOf (num den : Nat) : Int :=
  let guess : Int := (Nat.log2 num : Int) - Nat.log2 den - 52
  let (n, d) := scaled num den guess
  max leastExponent (if n < d * Nat.pow 2 52 then guess - 1 else guess)

/-- The number nearest to `num / den`. -/
def ofFraction (num den : Nat) : Binary64 :=
  if num = 0 then zero
  else
    let exponent := exponentOf num den
    let (n, d) := scaled num den exponent
    let mantissa := roundDiv n d
    let (mantissa, exponent) :=
      if mantissa = Nat.pow 2 53 then (Nat.pow 2 52, exponent + 1) else (mantissa, exponent)
    if mantissa = 0 then zero
    else if greatestExponent < exponent then infinite
    else finite mantissa exponent

/-- The number of digits of `num / den` before the point; for a fraction
below one, minus the number of zeros after the point. -/
def magnitude (num den : Nat) : Int :=
  if den ≤ num then (Nat.toDigits 10 (num / den)).length
  else
    let length := (Nat.toDigits 10 (den / num)).length
    if num * Nat.pow 10 (length - 1) = den then 2 - length else 1 - length

/-- The exact value of a finite number, times four, as a fraction. -/
def fourfold (mantissa : Nat) (exponent : Int) : Nat × Nat :=
  (4 * mantissa * Nat.pow 2 exponent.toNat, Nat.pow 2 (-exponent).toNat)

/-- The decimal with `count` digits next to a finite number that rounds back
to it: digits and the power of ten that they count. -/
def shortAt? (mantissa : Nat) (exponent : Int) (count : Nat) : Option (Nat × Int) :=
  let (value, unit) := fourfold mantissa exponent
  let scale := Nat.pow 2 exponent.toNat
  let isPowerOfTwo := mantissa = Nat.pow 2 52 ∧ leastExponent < exponent
  let low := value - (if isPowerOfTwo then 1 else 2) * scale
  let high := value + 2 * scale
  let power : Int := magnitude value (4 * unit) - count
  let up := Nat.pow 10 power.toNat
  let down := Nat.pow 10 (-power).toNat
  -- `digits * 10 ^ power` times four, over `unit`, is `4 * unit * digits * up / down`
  let place (digits : Nat) : Nat := 4 * unit * digits * up
  let inside (digits : Nat) : Bool :=
    if mantissa % 2 = 0 then low * down ≤ place digits && place digits ≤ high * down
    else low * down < place digits && place digits < high * down
  let floor := value * down / (4 * unit * up)
  let distance (digits : Nat) : Nat :=
    max (place digits) (value * down) - min (place digits) (value * down)
  match inside floor, inside (floor + 1) with
  | true, true =>
    some (if distance floor ≤ distance (floor + 1) then floor else floor + 1, power)
  | true, false => some (floor, power)
  | false, true => some (floor + 1, power)
  | false, false => none

/-- The shortest decimal that rounds back to a finite number; seventeen
digits always do. -/
def shortest (mantissa : Nat) (exponent : Int) : Nat × Int :=
  ((List.range 17).findSome? fun count => shortAt? mantissa exponent (count + 1)).getD
    (mantissa, exponent)

/-- `digits * 10 ^ power` in positional notation. -/
def positional (digits : Nat) (power : Int) : String :=
  let text := Nat.toDigits 10 digits
  if 0 ≤ power then String.ofList (text ++ List.replicate power.toNat '0')
  else
    let decimals := (-power).toNat
    let padded := List.replicate (decimals + 1 - text.length) '0' ++ text
    let fraction := padded.drop (padded.length - decimals)
    let fraction := (fraction.reverse.dropWhile (· == '0')).reverse
    let whole := String.ofList (padded.take (padded.length - decimals))
    if fraction.isEmpty then whole else whole ++ "." ++ String.ofList fraction

/-- A number in positional notation. -/
def text : Binary64 → String
  | zero => "0"
  | finite mantissa exponent =>
    let (digits, power) := shortest mantissa exponent
    positional digits power
  | infinite => "inf"

end Binary64

end AppMetadata.Decimal
