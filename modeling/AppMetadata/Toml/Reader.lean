import AppMetadata.Toml.Entry
import AppMetadata.Toml.Number

/-!
# `AppMetadata.Toml.Reader`: the rules of configuration files

The rules for strings, dates, arrays, tables in braces and keys. A rule reads
from the front of the text that is left, or refuses.
-/

set_option autoImplicit false

namespace AppMetadata.Toml

/-- Reads from the front of a text. -/
abbrev Reader := StateT (List Char) Option

namespace Reader

/-- The character in front. -/
def peek : Reader (Option Char) := do
  return (← get).head?

/-- Reads one character. -/
def next : Reader Char := do
  match ← get with
  | c :: cs =>
    set cs
    return c
  | [] => failure

/-- Refuses unless `condition`. -/
def require (condition : Bool) : Reader Unit :=
  if condition then pure () else failure

/-- Reads `text` if it is in front. -/
def eat (text : String) : Reader Bool := do
  let cs ← get
  if text.toList.isPrefixOf cs then
    set (cs.drop text.length)
    return true
  else return false

/-- Reads `text`. -/
def expect (text : String) : Reader Unit := do
  require (← eat text)

/-- Reads characters as long as they satisfy `p`. -/
def takeWhile (p : Char → Bool) : Reader (List Char) := do
  let cs ← get
  set (cs.dropWhile p)
  return cs.takeWhile p

/-- Repeats `step` as long as it answers something; at most `count` times. -/
def repeatUpTo {α : Type} (step : Reader (Option α)) : (count : Nat) → Reader (List α)
  | 0 => failure
  | count + 1 => do
    match ← step with
    | none => return []
    | some answer => return answer :: (← repeatUpTo step count)

/-- Repeats `step`, which reads at least one character each time. -/
def many {α : Type} (step : Reader (Option α)) : Reader (List α) := do
  repeatUpTo step ((← get).length + 1)

/-! ### Blanks and comments -/

/-- Whether `c` separates words on a line. -/
def isGap (c : Char) : Bool := c == ' ' || c == '\t'

/-- Whether `c` may stand in a comment or string. -/
def isTextual (c : Char) : Bool :=
  c == '\t' || 0x20 ≤ c.toNat && c.toNat != 0x7F

/-- Reads blanks. -/
def gap : Reader Unit := discard (takeWhile isGap)

/-- Reads the end of a line. -/
def eatLineEnd : Reader Bool := do
  if ← eat "\n" then return true
  eat "\r\n"

/-- Reads blanks and a comment. -/
def gapAndComment : Reader Unit := do
  gap
  if ← eat "#" then discard (takeWhile isTextual)

/-- Reads blanks, comments and ends of lines. -/
def wideGap : Reader Unit :=
  discard <| many do
    gapAndComment
    if ← eatLineEnd then return some () else return none

/-! ### Strings -/

/-- A code point in `count` hexadecimal digits. -/
def codePoint (count : Nat) : Reader Char := do
  let digits := (← get).take count
  require (digits.length == count)
  modify (·.drop count)
  match Text.digitsValue? 16 digits with
  | some value =>
    require (decide value.isValidChar)
    return Char.ofNat value
  | none => failure

/-- The character that an escape after its backslash stands for. -/
def escape : Reader Char := do
  match ← next with
  | 'b' => return '\x08'
  | 't' => return '\t'
  | 'n' => return '\n'
  | 'f' => return '\x0c'
  | 'r' => return '\r'
  | '"' => return '"'
  | '\\' => return '\\'
  | 'u' => codePoint 4
  | 'U' => codePoint 8
  | _ => failure

/-- The text up to `quote` on this line; a backslash starts an escape if
`escapes`. -/
def lineText (quote : String) (escapes : Bool) : Reader (List Char) :=
  many do
    if ← eat quote then return none
    if escapes then
      if ← eat "\\" then return some (← escape)
    let c ← next
    require (isTextual c)
    return some c

/-- What ends a text of several lines: three quotes, before which up to two
more belong to the text. -/
def eatClosing (quote : String) : Reader Bool := do
  let three := quote ++ quote ++ quote
  let cs ← get
  if (three ++ quote).toList.isPrefixOf cs then return false
  eat three

/-- One part of a text of several lines: nothing for a line end that a
backslash hides. -/
def blockPart (escapes : Bool) : Reader (List Char) := do
  if ← eatLineEnd then return ['\n']
  if escapes then
    if ← eat "\\" then
      let hidesLineEnd := ((← get).dropWhile isGap).head?.any fun c => c == '\n' || c == '\r'
      if hidesLineEnd then
        gap
        require (← eatLineEnd)
        discard (takeWhile fun c => isGap c || c == '\n' || c == '\r')
        return []
      else return [← escape]
  let c ← next
  require (isTextual c)
  return [c]

/-- Whether six quotes in a row or more are in front, so that the text would
end with more than two. -/
def atTooManyQuotes (quote : String) : Reader Bool := do
  let six := quote ++ quote ++ quote ++ quote ++ quote ++ quote
  return six.toList.isPrefixOf (← get)

/-- The text of several lines up to three quotes. A line end right at its
start does not count. -/
def blockText (quote : String) (escapes : Bool) : Reader (List Char) := do
  discard eatLineEnd
  let parts ← many do
    require !(← atTooManyQuotes quote)
    if ← eatClosing quote then return none
    some <$> blockPart escapes
  return parts.flatten

/-- A string on one line. -/
def lineString : Reader String := do
  if ← eat "\"" then return String.ofList (← lineText "\"" true)
  expect "'"
  return String.ofList (← lineText "'" false)

/-- A string. -/
def string : Reader String := do
  if ← eat "\"\"\"" then return String.ofList (← blockText "\"" true)
  if ← eat "'''" then return String.ofList (← blockText "'" false)
  lineString

/-! ### Dates and times -/

/-- A number of exactly `count` digits between `low` and `high`. -/
def digits (count low high : Nat) : Reader Unit := do
  let cs := (← get).take count
  modify (·.drop count)
  require (cs.length == count && cs.all Char.isDigit)
  let value := (Text.digitsValue? 10 cs).getD 0
  require (low ≤ value && value ≤ high)

/-- A date. -/
def date : Reader Unit := do
  digits 4 0 9999
  expect "-"
  digits 2 1 12
  expect "-"
  digits 2 1 31

/-- A time of day. -/
def timeOfDay : Reader Unit := do
  digits 2 0 23
  expect ":"
  digits 2 0 59
  expect ":"
  digits 2 0 60
  if ← eat "." then require !(← takeWhile Char.isDigit).isEmpty

/-- The difference from universal time. -/
def timeShift : Reader Unit := do
  if !(← eat "Z") && !(← eat "z") then
    if !(← eat "+") then expect "-"
    digits 2 0 23
    expect ":"
    digits 2 0 59

/-- A date, a time of day, or both. -/
def moment : Reader Unit := do
  let withTime : Reader Unit := do
    date
    if !(← eat "T") && !(← eat "t") then expect " "
    timeOfDay
    timeShift <|> pure ()
  withTime <|> date <|> timeOfDay

/-! ### Values and keys -/

/-- Whether `c` may be part of a number or word. -/
def isWordPart (c : Char) : Bool :=
  c.isAlphanum || c == '+' || c == '-' || c == '.' || c == '_'

/-- A number or truth value. -/
def word : Reader Value := do
  let cs ← takeWhile isWordPart
  match integer? cs with
  | some n => return .integer n
  | none =>
    require (isOtherWord cs)
    return .other

/-- A part of a key. -/
def simpleKey : Reader String := do
  match ← peek with
  | some '"' | some '\'' => lineString
  | _ =>
    let cs ← takeWhile fun c => c.isAlphanum || c == '_' || c == '-'
    require !cs.isEmpty
    return String.ofList cs

/-- A key: the parts before its last, and the last. -/
def key : Reader (List String × String) := do
  gap
  let first ← simpleKey
  gap
  let others ← many do
    if ← eat "." then
      gap
      let part ← simpleKey
      gap
      return some part
    else return none
  let parts := first :: others
  return (parts.dropLast, parts.getLastD first)

/-- The items of an array after its bracket. -/
def arrayRest (item : Reader Value) : Reader Unit := do
  wideGap
  discard <| many do
    if ← eat "]" then return none
    discard item
    wideGap
    if ← eat "," then wideGap
    else require ((← peek) == some ']')
    return some ()

/-- A key and its value. -/
def assignment (item : Reader Value) : Reader (List String × String × Value) := do
  let (path, last) ← key
  expect "="
  gap
  let value ← item
  gap
  return (path, last, value)

/-- The keys of a table in braces, after its brace: each is defined once. -/
def braceRest (item : Reader Value) : Reader Unit := do
  gap
  if !(← eat "\x7d") then
    let first ← assignment item
    let others ← many do
      if ← eat "," then some <$> assignment item else return none
    expect "\x7d"
    let defined := (first :: others).foldlM (fun entries (path, last, value) =>
      define path last value entries) []
    require defined.isSome

/-- A value with at most `depth` values around one another. -/
def value : (depth : Nat) → Reader Value
  | 0 => failure
  | depth + 1 => do
    match ← peek with
    | some '"' | some '\'' => .text <$> string
    | some '[' =>
      discard next
      arrayRest (value depth)
      return .other
    | some '\x7b' =>
      discard next
      braceRest (value depth)
      return .other
    | _ => (moment *> pure .other) <|> word

end Reader

end AppMetadata.Toml
