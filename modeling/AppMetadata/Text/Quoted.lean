import AppMetadata.Text.Printable

/-!
# `AppMetadata.Text.Quoted`: a text in quotes, in visible characters only

A quoted text shows every character: quotes, backslashes and the common
control characters by a short escape, anything else that does not show by
itself by its code point in hexadecimal.
-/

set_option autoImplicit false

namespace AppMetadata.Text

/-- One character of a quoted text. -/
def escape (c : Char) : List Char :=
  if c = '"' then ['\\', '"']
  else if c = '\\' then ['\\', '\\']
  else if c = '\n' then ['\\', 'n']
  else if c = '\r' then ['\\', 'r']
  else if c = '\t' then ['\\', 't']
  else if c.toNat = 0 then ['\\', '0']
  else if isPrintable c then [c]
  else ['\\', 'u', '\x7b'] ++ Nat.toDigits 16 c.toNat ++ ['\x7d']

/-- `text` in double quotes. -/
def quoted (text : String) : String :=
  String.ofList (['"'] ++ text.toList.flatMap escape ++ ['"'])

end AppMetadata.Text
