import AppMetadata.Path
import AppMetadata.Source.Location

/-!
# `AppMetadata.ExtractionError`: why there is no metadata

Extraction gives the whole metadata or none of it. Each constructor is one
cause; `ExtractionError.message` is its wording.
-/

set_option autoImplicit false

namespace AppMetadata

/-- The causes for which extraction fails. -/
inductive ExtractionError
  /-- A source file cannot be read. -/
  | unreadable (path : Path) (cause : String)
  /-- A source file is not well-formed. -/
  | malformed (path : Path) (problem : String)
  /-- The root file does not exist. -/
  | invalidApplication (path : Path)
  /-- The root file does not export one call of the application factory. -/
  | rootShape (details : String)
  /-- A group that must be there is not. -/
  | missingGroup (group : String)
  /-- A group is not an object type. -/
  | invalidGroup (group : String) (location : Location)
  /-- A group has no entries. -/
  | emptyGroup (group : String) (location : Location)
  /-- A type has a form that metadata cannot describe. -/
  | unsupported (location : Location) (details : String)
  /-- A name denotes no declaration. -/
  | unresolvedReference (name : String) (location : Location)
  /-- A union holds only `null` and `undefined`. -/
  | emptyUnion (location : Location)
  /-- The value of an enum member is not its name. -/
  | invalidEnumMember (owner member reason : String) (location : Location)
  /-- A string literal cannot be an enum value. -/
  | invalidLiteral (path literal : String)
  /-- A type without a name stands at no path to take one from. -/
  | emptyName (kind : String) (location : Location)
  /-- A model has no property for an argument. -/
  | unknownArgument (model argument : String)
  /-- An action does not say what it returns. -/
  | missingReturn (action : String)
  /-- A selection is not a reference with two type arguments. -/
  | invalidSelection (name reason : String) (location : Location)
  /-- A signature is not that of an operation. -/
  | invalidFunction (reason : String) (location : Location)
  /-- Types are nested too deeply. -/
  | depthExceeded (limit : Nat) (location : Location)
  /-- A setting has no usable value. -/
  | invalidConfig (problem : String)
deriving DecidableEq, Repr

namespace ExtractionError

/-- The wording of an error. -/
def message : ExtractionError → String
  | unreadable path cause => s!"failed to read source '{path.text}': {cause}"
  | malformed path problem => s!"failed to parse source '{path.text}': {problem}"
  | invalidApplication path => s!"invalid application file '{path.text}'"
  | rootShape details => s!"invalid application root: {details}"
  | missingGroup group => s!"the application options must declare a `{group}` group"
  | invalidGroup group location =>
    s!"the `{group}` group must be an object type literal ({location.text})"
  | emptyGroup group location =>
    s!"the `{group}` group must contain at least one entry ({location.text})"
  | unsupported location details => s!"signature not supported at {location.text}: {details}"
  | unresolvedReference name location =>
    s!"unresolved type reference `{name}` at {location.text}"
  | emptyUnion location => s!"no real type found in this union ({location.text})"
  | invalidEnumMember owner member reason location =>
    s!"invalid member `{member}` in enum `{owner}` at {location.text}: {reason}"
  | invalidLiteral path literal =>
    s!"string literal \"{literal}\" in `{path}` is not a valid enum value; it must match " ++
      "^[_a-zA-Z][_a-zA-Z0-9]*$"
  | emptyName kind location =>
    s!"cannot derive a {kind} name at {location.text}: the type has no property path"
  | unknownArgument model argument =>
    s!"argument `{argument}` of model `{model}` does not match any property of the model"
  | missingReturn action => s!"action `{action}` must declare a `return` type"
  | invalidSelection name reason location =>
    s!"invalid selection `{name}` at {location.text}: {reason}"
  | invalidFunction reason location =>
    s!"invalid function signature at {location.text}: {reason}"
  | depthExceeded limit location =>
    s!"type nesting exceeds the maximum depth of {limit} at {location.text}"
  | invalidConfig problem => s!"invalid configuration: {problem}"

end ExtractionError

end AppMetadata
