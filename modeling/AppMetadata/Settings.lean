import AppMetadata.ExtractionError
import AppMetadata.Text.Digits
import AppMetadata.Text.Quoted

/-!
# `AppMetadata.Settings`: conventions of application sources

Which function creates an application, which type wraps a model, and how
deeply types may be nested. `Settings.validate` accepts settings whose names
are identifiers and whose depth is positive.

The main statement is `validate_eq_ok_iff`.
-/

set_option autoImplicit false

namespace AppMetadata

/-- The conventions that extraction goes by. -/
structure Settings where
  /-- The function whose call declares the application. -/
  appFactory : String := "createApp"
  /-- The type that pairs a blueprint with arguments to make a model. -/
  modelWrapper : String := "Model"
  /-- The greatest nesting of types. -/
  maxDepth : Nat := 256
deriving DecidableEq, Repr, Inhabited

namespace Settings

/-- The least number that is no depth: depths fit in eight bytes. -/
def depthBound : Nat := Text.wordBound

/-- The fields of settings in their order. -/
def fieldNames : List String :=
  ["app_factory", "model_wrapper", "max_depth"]

/-- A depth is a natural number below the bound. -/
def depth? (json : Json) : Option Nat :=
  json.natural?.filter (· < depthBound)

/-- Reads settings; a field that is missing keeps its default. -/
def ofJson? (json : Json) : Option Settings := do
  let record ← json.record? fieldNames
  return {
    appFactory := ← record.withDefault "app_factory" "createApp" Json.text?
    modelWrapper := ← record.withDefault "model_wrapper" "Model" Json.text?
    maxDepth := ← record.withDefault "max_depth" 256 depth? }

/-- Settings as a JSON object. -/
def toJson (settings : Settings) : Json :=
  .object [
    ("app_factory", .string settings.appFactory),
    ("model_wrapper", .string settings.modelWrapper),
    ("max_depth", .number settings.maxDepth 0)]

/-- Whether `c` may start a name in settings: these are ASCII. -/
def isNameStart (c : Char) : Bool :=
  c == '_' || c == '$' || c.isAlpha

/-- Whether `c` may go on a name in settings. -/
def isNamePart (c : Char) : Bool :=
  c == '_' || c == '$' || c.isAlphanum

/-- Whether `text` can be the name of a function or type. -/
def isName (text : String) : Bool :=
  match text.toList with
  | [] => false
  | c :: cs => isNameStart c && cs.all isNamePart

/-- Refuses `value` for `field` unless it is a name. -/
def validateName (field value : String) : Except ExtractionError Unit :=
  if isName value then .ok ()
  else .error (.invalidConfig
    ("`" ++ field ++ "` must be a valid identifier, got " ++ Text.quoted value))

/-- Refuses settings that no source could satisfy; the first bad field
counts. -/
def validate (settings : Settings) : Except ExtractionError Unit := do
  validateName "app_factory" settings.appFactory
  validateName "model_wrapper" settings.modelWrapper
  if settings.maxDepth = 0 then
    .error (.invalidConfig "`max_depth` must be greater than zero")

/-- Settings are valid exactly if both names are names and the depth is
positive. -/
theorem validate_eq_ok_iff {settings : Settings} :
    settings.validate = .ok () ↔
      isName settings.appFactory = true ∧ isName settings.modelWrapper = true ∧
        0 < settings.maxDepth := by
  unfold validate validateName
  by_cases h₁ : isName settings.appFactory = true <;>
    by_cases h₂ : isName settings.modelWrapper = true <;>
      by_cases h₃ : settings.maxDepth = 0 <;>
        simp [h₁, h₂, h₃, bind, Except.bind, pure, Except.pure, Nat.pos_iff_ne_zero]

end Settings

end AppMetadata
