import AppMetadata.TypeScript.Type

/-!
# `AppMetadata.TypeScript.Pattern`: what variables and parameters bind

A name, or a pattern that takes an object or an array apart.
-/

set_option autoImplicit false

namespace AppMetadata.TypeScript

open AppMetadata.TypeScript.Parser

variable (g : Grammar)

/-- The names that a binding introduces. -/
def namesOf : Binding → List String
  | .name name => [name]
  | .pattern names => names

/-- A default value, if there is one. -/
def defaultValue : Parser Unit := do
  if ← eatMark "=" then
    discard (under ({ · with inOperator := true }) g.assignment)

/-- A part of a pattern, with its default value. -/
def patternElement : Parser (List String) := do
  let binding ← g.pattern
  defaultValue g
  return namesOf binding

/-- The part of an array pattern that takes all that is left. -/
def patternRest : Parser (List String) := do
  mark "..."
  return namesOf (← g.pattern)

/-- A property of an object pattern: a name that is bound itself, or a key and
what its value is bound to. -/
def patternProperty : Parser (List String) := do
  let keyed : Parser (List String) := do
    discard (propertyName g)
    mark ":"
    patternElement g
  let plain : Parser (List String) := do
    let name ← identifier
    defaultValue g
    return [name]
  keyed <|> plain

/-- An object pattern. -/
def objectPattern : Parser (List String) := do
  mark "\x7b"
  let properties ← many do
    if (← atMark "\x7d") || (← atMark "...") then
      return none
    let names ← patternProperty g
    if !(← atMark "\x7d") then mark ","
    return some names
  let rest ← if ← eatMark "..." then (do return [← identifier]) else pure []
  mark "\x7d"
  return properties.flatten ++ rest

/-- An array pattern, in which places may be left out. -/
def arrayPattern : Parser (List String) := do
  mark "["
  let elements ← many do
    if (← atMark "]") || (← atMark "...") then
      return none
    if ← eatMark "," then
      return some []
    let names ← patternElement g
    if !(← atMark "]") then mark ","
    return some names
  let rest ← if ← atMark "..." then patternRest g else pure []
  mark "]"
  return elements.flatten ++ rest

/-- What a variable or parameter binds. -/
def binding : Parser Binding := do
  match ← kind with
  | .mark "\x7b" => .pattern <$> objectPattern g
  | .mark "[" => .pattern <$> arrayPattern g
  | _ => .name <$> identifier

end AppMetadata.TypeScript
