import AppMetadata.Text.Blank
import AppMetadata.Toml.Reader

/-!
# `AppMetadata.Settings.Variable`: values of environment variables

The text of a variable is read like a value in a configuration file, except
that quotes may be left out: what is no number, truth value, list or table
stands for itself. So is a text that only starts like one of these.
-/

set_option autoImplicit false

namespace AppMetadata.Settings

open Text Toml

/-- Whether `c` is an ASCII blank. -/
def isAsciiBlank (c : Char) : Bool :=
  c == ' ' || c == '\t' || c == '\n' || c == '\r' || c == '\x0c'

/-- Whether `c` may be part of a text without quotes. -/
def isPlain (c : Char) : Bool :=
  !([',', '\x7b', '\x7d', '[', ']'].contains c)

/-- Whether `cs` is a number with a point: digits on at least one side of it,
and perhaps a power of ten. -/
def isPointed (cs : List Char) : Bool :=
  let cs := (splitSign cs).2
  let whole := cs.takeWhile Char.isDigit
  match cs.dropWhile Char.isDigit with
  | '.' :: cs =>
    let fraction := cs.takeWhile Char.isDigit
    let powerFits :=
      match cs.dropWhile Char.isDigit with
      | [] => true
      | 'e' :: power | 'E' :: power => (natural? (splitSign power).2).isSome
      | _ => false
    !(whole.isEmpty && fraction.isEmpty) && powerFits
  | _ => false

/-- The whole number that `cs` writes, if it fits in eight bytes with or
without a sign. -/
def wholeNumber? (cs : List Char) : Option Int :=
  match cs with
  | '-' :: digits => do
    let value ← natural? digits
    if value ≤ halfWordBound then some (-(value : Int)) else none
  | cs => do
    let value ← signedNatural? cs
    if value < wordBound then some value else none

/-- The value of a text without quotes. -/
def plainValue (cs : List Char) : Value :=
  let cs := trim cs
  if isPointed cs then .other
  else
    match wholeNumber? cs with
    | some n => .integer n
    | none => .text (String.ofList cs)

/-- A list or table without its first bracket: items with commas after them
up to `close`. -/
def itemsUpTo (item : Reader Unit) (close : String) : Reader Unit := do
  discard <| Reader.many do
    if ← Reader.eat close then return none
    item
    if !(← Reader.eat ",") then
      Reader.require ((← Reader.peek) == close.toList.head?)
    return some ()

/-- Reads blanks. -/
def blanks : Reader Unit := discard (Reader.takeWhile isAsciiBlank)

/-- The key in a table and its equals sign. -/
def keyBefore : Reader Unit := do
  blanks
  if ← Reader.eat "\"" then discard (Reader.lineText "\"" true)
  else Reader.require !(← Reader.takeWhile fun c => c.isAlphanum || c == '_' || c == '-').isEmpty
  blanks
  Reader.expect "="

/-- A value with at most `depth` values around one another. -/
def nested : (depth : Nat) → Reader Value
  | 0 => failure
  | depth + 1 => do
    blanks
    let value ← do
      if (← Reader.eat "true") || (← Reader.eat "false") then pure .other
      else if ← Reader.eat "\x7b" then
        itemsUpTo (do keyBefore; discard (nested depth)) "\x7d"
        pure .other
      else if ← Reader.eat "[" then
        itemsUpTo (discard (nested depth)) "]"
        pure .other
      else if ← Reader.eat "\"" then
        pure (.text (String.ofList (← Reader.lineText "\"" true)))
      else if ← Reader.eat "'" then
        let c ← Reader.next
        Reader.expect "'"
        pure (.text (String.singleton c))
      else plainValue <$> Reader.takeWhile isPlain
    blanks
    return value

/-- The value that a variable gives to a setting. -/
def variableValue (text : String) : Value :=
  match (nested (text.length + 1)).run text.toList with
  | some (value, []) => value
  | _ => .text text

end AppMetadata.Settings
