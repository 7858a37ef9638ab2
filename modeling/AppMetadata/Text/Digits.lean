/-!
# `AppMetadata.Text.Digits`: natural numbers in digits

The number that a row of digits writes in a base up to sixteen, and the natural
numbers of a text in decimal digits.
-/

set_option autoImplicit false

namespace AppMetadata.Text

/-- The value of a hexadecimal digit. -/
def hexValue? (c : Char) : Option Nat :=
  if c.isDigit then some (c.toNat - '0'.toNat)
  else if 'a' ≤ c ∧ c ≤ 'f' then some (c.toNat - 'a'.toNat + 10)
  else if 'A' ≤ c ∧ c ≤ 'F' then some (c.toNat - 'A'.toNat + 10)
  else none

/-- The number `value` with one more digit. -/
def withDigit? (base value : Nat) (c : Char) : Option Nat := do
  let digit ← hexValue? c
  if digit < base then some (value * base + digit) else none

/-- The number that `digits` write in `base`; none if one of them is no digit
of it. -/
def digitsValue? (base : Nat) (digits : List Char) : Option Nat :=
  digits.foldlM (withDigit? base) 0

/-- The number of values that eight bytes have, `2 ^ 64`. -/
def wordBound : Nat := 18446744073709551616

/-- Half as many, `2 ^ 63`. -/
def halfWordBound : Nat := 9223372036854775808

/-- The natural number that is written in decimal digits: at least one. -/
def natural? (digits : List Char) : Option Nat :=
  if digits.isEmpty then none else digitsValue? 10 digits

/-- The natural number that is written in decimal digits, perhaps after a plus
sign. -/
def signedNatural? : List Char → Option Nat
  | '+' :: digits => natural? digits
  | digits => natural? digits

end AppMetadata.Text
