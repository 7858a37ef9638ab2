import AppMetadata.Json

/-!
# `AppMetadata.Json.Printer`: JSON as text

Two layouts of one value: `compact` writes it on a single line without
blanks, `pretty` puts every item and field on a line of its own, indented by
two blanks a level; empty arrays and objects stay on one line in both.
-/

set_option autoImplicit false

namespace AppMetadata.Json

/-- One character of a string value: quotes, backslashes and control
characters are escaped. -/
def escape (c : Char) : List Char :=
  if c = '"' then ['\\', '"']
  else if c = '\\' then ['\\', '\\']
  else if c = '\n' then ['\\', 'n']
  else if c = '\r' then ['\\', 'r']
  else if c = '\t' then ['\\', 't']
  else if c.toNat = 0x08 then ['\\', 'b']
  else if c.toNat = 0x0C then ['\\', 'f']
  else if c.toNat < 0x20 then
    ['\\', 'u', '0', '0', Nat.digitChar (c.toNat / 16), Nat.digitChar (c.toNat % 16)]
  else [c]

/-- `text` as a string value. -/
def quote (text : String) : String :=
  String.ofList ('"' :: text.toList.flatMap escape ++ ['"'])

/-- `mantissa / 10 ^ decimals` with exactly `decimals` decimals. -/
def decimalText (mantissa : Int) (decimals : Nat) : String :=
  let sign := if mantissa < 0 then "-" else ""
  let scale := Nat.pow 10 decimals
  let whole := toString (mantissa.natAbs / scale)
  let rest := (Nat.toDigits 10 (mantissa.natAbs % scale))
  let padding := List.replicate (decimals - rest.length) '0'
  if decimals = 0 then sign ++ whole
  else sign ++ whole ++ "." ++ String.ofList (padding ++ rest)

/-- The text of a value that holds no others. -/
def scalarText : Json → String
  | .null => "null"
  | .bool true => "true"
  | .bool false => "false"
  | .number mantissa decimals => decimalText mantissa decimals
  | .string value => quote value
  | .array _ => "[]"
  | .object _ => "\x7b\x7d"

mutual

/-- A value on one line without blanks. -/
def compact : Json → String
  | .array items => "[" ++ compactItems items ++ "]"
  | .object fields => "\x7b" ++ compactFields fields ++ "\x7d"
  | scalar => scalarText scalar

/-- Items separated by commas. -/
def compactItems : List Json → String
  | [] => ""
  | [item] => compact item
  | item :: items => compact item ++ "," ++ compactItems items

/-- Fields separated by commas. -/
def compactFields : List (String × Json) → String
  | [] => ""
  | [(name, value)] => quote name ++ ":" ++ compact value
  | (name, value) :: fields => quote name ++ ":" ++ compact value ++ "," ++ compactFields fields

end

/-- The start of a line at nesting `depth`. -/
def newLine (depth : Nat) : String :=
  "\n" ++ String.ofList (List.replicate (2 * depth) ' ')

mutual

/-- A value at nesting `depth` on as many lines as it has parts. -/
def prettyAt (depth : Nat) : Json → String
  | .array (item :: items) =>
    "[" ++ newLine (depth + 1) ++ prettyAt (depth + 1) item ++
      prettyItems (depth + 1) items ++ newLine depth ++ "]"
  | .object ((name, value) :: fields) =>
    "\x7b" ++ newLine (depth + 1) ++ quote name ++ ": " ++ prettyAt (depth + 1) value ++
      prettyFields (depth + 1) fields ++ newLine depth ++ "\x7d"
  | scalar => scalarText scalar

/-- The items after the first. -/
def prettyItems (depth : Nat) : List Json → String
  | [] => ""
  | item :: items => "," ++ newLine depth ++ prettyAt depth item ++ prettyItems depth items

/-- The fields after the first. -/
def prettyFields (depth : Nat) : List (String × Json) → String
  | [] => ""
  | (name, value) :: fields =>
    "," ++ newLine depth ++ quote name ++ ": " ++ prettyAt depth value ++
      prettyFields depth fields

end

/-- A value on indented lines. -/
def pretty (json : Json) : String :=
  prettyAt 0 json

end AppMetadata.Json
