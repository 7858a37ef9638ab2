import AppMetadata.Settings
import AppMetadata.Settings.Variable
import AppMetadata.SourceFiles
import AppMetadata.Text.Split
import AppMetadata.Toml

/-!
# `AppMetadata.Settings.Layer`: settings from several places

Settings come from a configuration file, from environment variables and from
the command line. Each place is a layer that gives values to some of them, and
for each setting the strongest layer that gives one counts: only its value
needs the right type.

The main statements are `effective?_cons_of_some` and
`effective?_cons_of_none`.
-/

set_option autoImplicit false

namespace AppMetadata.Settings

open Toml (Value)

/-- The values that one place gives to settings. -/
abbrev Layer := Table Value

namespace Layer

/-- The value of an entry: a table is none that a setting could have. -/
def valueOf : Toml.Entry → Value
  | .value value => value
  | _ => .other

/-- The layer of a configuration file; none if it is not well-formed. -/
def ofFile? : FileContent → Option Layer
  | .text source => (Toml.entries? source).map fun entries =>
    entries.map fun (key, entry) => (key, valueOf entry)
  | .undecodable => none

/-- The start of the names of variables that give settings. -/
def variablePrefix : List Char := "tsmeta_".toList

/-- The setting that the variable `name` is for: the name without its prefix,
in small letters. Capital letters mean the same. -/
def settingOf? (name : String) : Option String :=
  let cs := (Text.trim name.toList).map Char.toLower
  if variablePrefix.isPrefixOf cs then
    let key := cs.drop variablePrefix.length
    if (Text.trim key).isEmpty then none else some (String.ofList key)
  else none

/-- The entry that a variable for `key` makes. A dot divides the name of a
table from a key in it, so what it gives is a table. -/
def entryOf (key text : String) : String × Value :=
  match (Text.splitWhere (· == '.') key.toList).map String.ofList with
  | table :: inner :: _ => (table, if inner.isEmpty then variableValue text else .other)
  | _ => (key, variableValue text)

/-- The layer of environment variables; of two for one setting the later
counts. -/
def ofEnvironment (environment : List (String × String)) : Layer :=
  environment.foldl (fun layer (name, text) =>
    match settingOf? name with
    | some key =>
      let (setting, value) := entryOf key text
      layer.put setting value
    | none => layer) []

end Layer

/-- The value of a setting in the strongest layer that has one. -/
def effective? (key : String) (layers : List Layer) : Option Value :=
  layers.findSome? (·.lookup key)

/-- A value in the strongest layer counts, whatever is below. -/
theorem effective?_cons_of_some {key : String} {layer : Layer} {value : Value}
    (h : layer.lookup key = some value) (layers : List Layer) :
    effective? key (layer :: layers) = some value := by
  simp [effective?, h]

/-- A layer without a value changes nothing. -/
theorem effective?_cons_of_none {key : String} {layer : Layer}
    (h : layer.lookup key = none) (layers : List Layer) :
    effective? key (layer :: layers) = effective? key layers := by
  simp [effective?, h]

/-- The text that the layers give to `key`, or `default`. -/
def textOf? (layers : List Layer) (key default : String) : Option String :=
  match effective? key layers with
  | none => some default
  | some (.text text) => some text
  | some _ => none

/-- The depth that the layers give to `key`, or `default`. -/
def depthOf? (layers : List Layer) (key : String) (default : Nat) : Option Nat :=
  match effective? key layers with
  | none => some default
  | some (.integer n) => if 0 ≤ n ∧ n < depthBound then some n.toNat else none
  | some _ => none

/-- The settings that the layers give, the strongest first; none if one of
them has a value of the wrong type. -/
def ofLayers? (layers : List Layer) : Option Settings := do
  let defaults : Settings := {}
  return {
    appFactory := ← textOf? layers "app_factory" defaults.appFactory
    modelWrapper := ← textOf? layers "model_wrapper" defaults.modelWrapper
    maxDepth := ← depthOf? layers "max_depth" defaults.maxDepth }

end AppMetadata.Settings
