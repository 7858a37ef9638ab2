import AppMetadata.Text.Digits
import AppMetadata.TypeScript.Token

/-!
# `AppMetadata.TypeScript.Literal`: the values of string and number literals

The text between quotes is turned into its value by reading escapes. An
escape may name half of a character outside the basic plane; two halves in a
row make the character, a half on its own has no character and is written as
the replacement character followed by its four hexadecimal digits.
-/

set_option autoImplicit false

namespace AppMetadata.TypeScript

open Text

/-- Reads a code point after `\u`: four digits, or any number of them in
braces. The answer also holds the text after it. -/
def codePoint? : List Char → Option (Nat × List Char)
  | '\x7b' :: cs =>
    let digits := cs.takeWhile (· != '\x7d')
    match cs.dropWhile (· != '\x7d') with
    | _ :: rest =>
      if digits.isEmpty then none
      else (digitsValue? 16 digits).bind fun value =>
        if value ≤ 0x10FFFF then some (value, rest) else none
    | [] => none
  | a :: b :: c :: d :: rest => (digitsValue? 16 [a, b, c, d]).map (·, rest)
  | _ => none

/-- Whether a code point is the first half of a pair. -/
def isHighHalf (value : Nat) : Bool :=
  0xD800 ≤ value && value < 0xDC00

/-- Whether a code point is the second half of a pair. -/
def isLowHalf (value : Nat) : Bool :=
  0xDC00 ≤ value && value < 0xE000

/-- Joins pairs of halves. -/
def joinHalves : List Nat → List Nat
  | high :: low :: values =>
    if isHighHalf high && isLowHalf low then
      (0x10000 + (high - 0xD800) * 0x400 + (low - 0xDC00)) :: joinHalves values
    else high :: joinHalves (low :: values)
  | values => values

/-- The replacement character and four hexadecimal digits. -/
def halfText (value : Nat) : List Char :=
  let digits := Nat.toDigits 16 value
  '\uFFFD' :: List.replicate (4 - digits.length) '0' ++ digits

/-- The text of code points. Where a half stands alone, halves and
replacement characters are both written with their digits. -/
def textOfCodePoints (values : List Nat) : String :=
  let values := joinHalves values
  let isHalf (value : Nat) : Bool := isHighHalf value || isLowHalf value
  let lossy := values.any isHalf
  String.ofList <| values.flatMap fun value =>
    if isHalf value || lossy && value == 0xFFFD then halfText value else [Char.ofNat value]

/-- The code point of an escape of one letter. -/
def letterEscape? : Char → Option Nat
  | 'n' => some 0x0A
  | 't' => some 0x09
  | 'r' => some 0x0D
  | 'b' => some 0x08
  | 'v' => some 0x0B
  | 'f' => some 0x0C
  | _ => none

/-- The longest start of `cs` that writes an octal number below 256. -/
def octalDigits (cs : List Char) : List Char :=
  let isOctal (c : Char) : Bool := '0' ≤ c && c ≤ '7'
  match cs with
  | first :: _ => (cs.take (if '0' ≤ first && first ≤ '3' then 3 else 2)).takeWhile isOctal
  | [] => []

/-- Reads one escape after its backslash: the code points that it stands for,
and the text after it. Octal escapes have no value in templates. -/
def escape? (octal : Bool) : List Char → Option (List Nat × List Char)
  | [] => none
  | '\r' :: '\n' :: cs => some ([], cs)
  | c :: cs =>
    if c = '\n' ∨ c = '\r' ∨ c = '\u2028' ∨ c = '\u2029' then some ([], cs)
    else if c = 'u' then (codePoint? cs).map fun (value, rest) => ([value], rest)
    else if c = 'x' then
      match cs with
      | a :: b :: rest => (digitsValue? 16 [a, b]).map fun value => ([value], rest)
      | _ => none
    else if c.isDigit then
      if c = '0' ∧ cs.head?.all (!·.isDigit) then some ([0], cs)
      else if octal then
        match octalDigits (c :: cs) with
        | [] => some ([c.toNat], cs)
        | digits => (digitsValue? 8 digits).map fun value =>
            ([value], (c :: cs).drop digits.length)
      else none
    else some ([(letterEscape? c).getD c.toNat], cs)

/-- The code points of the text between quotes. `steps` bounds the number of
characters. -/
def codePoints? (octal : Bool) : (steps : Nat) → List Char → Option (List Nat)
  | _, [] => some []
  | 0, _ :: _ => none
  | steps + 1, '\\' :: cs => do
    let (values, rest) ← escape? octal cs
    return values ++ (← codePoints? octal steps rest)
  | steps + 1, c :: cs => do return c.toNat :: (← codePoints? octal steps cs)

/-- The value of the text between the quotes of a string. -/
def stringValue? (raw : List Char) : Option String :=
  (codePoints? true raw.length raw).map textOfCodePoints

/-- A text with every line end written as a line feed. -/
def unifyLineEnds : List Char → List Char
  | '\r' :: '\n' :: cs => '\n' :: unifyLineEnds cs
  | '\r' :: cs => '\n' :: unifyLineEnds cs
  | c :: cs => c :: unifyLineEnds cs
  | [] => []

/-- The value of a part of a template. -/
def templateValue? (raw : List Char) : Option String :=
  let raw := unifyLineEnds raw
  (codePoints? false raw.length raw).map textOfCodePoints

end AppMetadata.TypeScript
