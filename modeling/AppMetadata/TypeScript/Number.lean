import AppMetadata.Decimal.Binary64
import AppMetadata.TypeScript.Literal

/-!
# `AppMetadata.TypeScript.Number`: the value of a number literal

A number used as a property name names the property by its value, so `0x10`
and `16` are one name.
-/

set_option autoImplicit false

namespace AppMetadata.TypeScript

open Decimal Text

/-- The digits of a literal without separators. -/
def withoutSeparators (lexeme : String) : List Char :=
  lexeme.toList.filter (· != '_')

/-- The value of a whole number in base 16, 8 or 2, or in the old octal
notation. -/
def radixValue? : List Char → Option Nat
  | '0' :: c :: cs =>
    if c = 'x' ∨ c = 'X' then digitsValue? 16 cs
    else if c = 'o' ∨ c = 'O' then digitsValue? 8 cs
    else if c = 'b' ∨ c = 'B' then digitsValue? 2 cs
    else if (c :: cs).all fun d => '0' ≤ d && d ≤ '7' then digitsValue? 8 (c :: cs)
    else none
  | _ => none

/-- The value of `whole.fraction * 10 ^ power`. Powers that are out of reach
of all numbers are not multiplied out. -/
def decimalValue (whole fraction : List Char) (power : Int) : Binary64 :=
  let digits := (digitsValue? 10 (whole ++ fraction)).getD 0
  let power := power - fraction.length
  let magnitude : Int := power + (Nat.toDigits 10 digits).length
  if digits = 0 ∨ magnitude < -400 then .zero
  else if 400 < magnitude then .infinite
  else .ofFraction (digits * Nat.pow 10 power.toNat) (Nat.pow 10 (-power).toNat)

/-- The power of ten after the `e` of a literal. -/
def powerValue : List Char → Int
  | '-' :: cs => -((digitsValue? 10 cs).getD 0 : Int)
  | '+' :: cs => ((digitsValue? 10 cs).getD 0 : Int)
  | cs => ((digitsValue? 10 cs).getD 0 : Int)

/-- The value of a number literal. -/
def numberValue (lexeme : String) : Binary64 :=
  let cs := withoutSeparators lexeme
  match radixValue? cs with
  | some value => .ofFraction value 1
  | none =>
    let isPower (c : Char) : Bool := c == 'e' || c == 'E'
    let mantissa := cs.takeWhile (!isPower ·)
    let power := (cs.dropWhile (!isPower ·)).drop 1
    decimalValue (mantissa.takeWhile (· != '.')) ((mantissa.dropWhile (· != '.')).drop 1)
      (powerValue power)

/-- The name of a property that is written as a number. -/
def numberName (lexeme : String) : String :=
  (numberValue lexeme).text

/-- The name of a property that is written as a big integer. -/
def bigintName (lexeme : String) : String :=
  let cs := withoutSeparators lexeme
  match radixValue? cs with
  | some value => toString value
  | none => toString ((digitsValue? 10 cs).getD 0)

end AppMetadata.TypeScript
