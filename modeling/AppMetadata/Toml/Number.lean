import AppMetadata.Text.Digits
import AppMetadata.Text.Split

/-!
# `AppMetadata.Toml.Number`: numbers and truth values in configuration files

A whole number has eight bytes with a sign, and may be written in base 16, 8
or 2. Single underscores may stand between digits. Of a number with a
fraction or power nothing but its form matters.
-/

set_option autoImplicit false

namespace AppMetadata.Toml

open Text

/-- Digits with single underscores between them, without these. -/
def separatedDigits? (isDigit : Char → Bool) (cs : List Char) : Option (List Char) :=
  let groups := splitWhere (· == '_') cs
  if groups.all fun group => !group.isEmpty && group.all isDigit then some groups.flatten else none

/-- The digits of a decimal number that does not start with a needless
zero. -/
def decimalDigits? (cs : List Char) : Option (List Char) := do
  let digits ← separatedDigits? Char.isDigit cs
  if digits.head? = some '0' ∧ digits.length ≠ 1 then none else some digits

/-- The sign in front of a number, and the rest. -/
def splitSign : List Char → Option Char × List Char
  | '+' :: cs => (some '+', cs)
  | '-' :: cs => (some '-', cs)
  | cs => (none, cs)

/-- The value of a natural number in one of the bases. -/
def radixNumber? (base : Nat) (cs : List Char) : Option Nat := do
  let digits ← separatedDigits? (fun c => (hexValue? c).any (· < base)) cs
  digitsValue? base digits

/-- The value of a whole number, whatever its size. -/
def wholeNumber? (cs : List Char) : Option Int :=
  match cs with
  | '0' :: 'x' :: digits => Int.ofNat <$> radixNumber? 16 digits
  | '0' :: 'o' :: digits => Int.ofNat <$> radixNumber? 8 digits
  | '0' :: 'b' :: digits => Int.ofNat <$> radixNumber? 2 digits
  | cs => do
    let (sign, cs) := splitSign cs
    let value ← digitsValue? 10 (← decimalDigits? cs)
    return if sign = some '-' then -(value : Int) else value

/-- The value of a whole number that fits in eight bytes. -/
def integer? (cs : List Char) : Option Int :=
  (wholeNumber? cs).filter fun n =>
    -(halfWordBound : Int) ≤ n && n < halfWordBound

/-- Whether `cs` is a power of ten without its `e`. -/
def isPower (cs : List Char) : Bool :=
  (separatedDigits? Char.isDigit (splitSign cs).2).isSome

/-- Whether `cs` is a number with a fraction, a power, or both. -/
def isFraction (cs : List Char) : Bool :=
  let cs := (splitSign cs).2
  let atPower (c : Char) : Bool := c == 'e' || c == 'E'
  let mantissa := cs.takeWhile (!atPower ·)
  let power := cs.dropWhile (!atPower ·)
  let whole := mantissa.takeWhile (· != '.')
  let fraction := mantissa.dropWhile (· != '.')
  let powerFits := power.isEmpty || isPower (power.drop 1)
  let fractionFits :=
    fraction.isEmpty || (separatedDigits? Char.isDigit (fraction.drop 1)).isSome
  (decimalDigits? whole).isSome && powerFits && fractionFits &&
    !(power.isEmpty && fraction.isEmpty)

/-- Whether `cs` is a truth value, a fraction, or no number at all. -/
def isOtherWord (cs : List Char) : Bool :=
  cs == "true".toList || cs == "false".toList || isFraction cs ||
    ["inf".toList, "nan".toList].contains (splitSign cs).2

end AppMetadata.Toml
