/-!
# `AppMetadata.CommandLine.Status`: status messages

A status message is a line with a symbol in front. With colors, the symbol is
bold and has the color of its tone; a warning is colored as a whole.
-/

set_option autoImplicit false

namespace AppMetadata.CommandLine

/-- What a status message is about. -/
inductive Tone
  | info
  | success
  | warning
deriving DecidableEq, Repr

namespace Tone

/-- The symbol of a tone. -/
def symbol : Tone → String
  | info => "ℹ"
  | success => "✓"
  | warning => "⚠"

/-- The number of a tone's color. -/
def color : Tone → Nat
  | info => 34
  | success => 32
  | warning => 33

end Tone

/-- The order to a terminal to change how it writes. -/
def style (code : Nat) : String :=
  "\x1b[" ++ toString code ++ "m"

/-- The text in a color, and bold if `bold`. -/
def paint (color : Nat) (bold : Bool) (text : String) : String :=
  style color ++ (if bold then style 1 else "") ++ text ++ style 0

/-- A status message. -/
def statusLine (colored : Bool) (tone : Tone) (message : String) : String :=
  if colored then
    let symbol := paint tone.color true tone.symbol
    symbol ++ " " ++ (if tone = .warning then paint tone.color false message else message)
  else tone.symbol ++ " " ++ message

/-- Whether to color: not if an option or the variable `NO_COLOR` says so,
always if `FORCE_COLOR` is there, and otherwise on a terminal. -/
def useColors (noColor : Bool) (environment : List (String × String)) (onTerminal : Bool) : Bool :=
  let isSet (name : String) : Bool := (environment.lookup name).isSome
  !noColor && !isSet "NO_COLOR" && (isSet "FORCE_COLOR" || onTerminal)

end AppMetadata.CommandLine
