import AppMetadata.Doc
import AppMetadata.Json

/-!
# `AppMetadata.Shape`: what the metadata says about one type

A shape tree describes the values of a type: its kind, its names, where it
stands, and the shapes of its properties, arguments and return value. A type
that is described elsewhere is a `reference`, which holds only its name.

`Shape.walk` lists a tree in visiting order. `Shape.toJson` and
`Shape.ofJson?` write and read the tree as JSON; optional names and the
return type are left out where they are absent.
-/

set_option autoImplicit false

namespace AppMetadata

/-- The kinds of a shape. -/
inductive Kind
  | number
  | string
  | boolean
  | bigint
  | object
  | enum
  | union
  | reference
  | function
  | property
deriving DecidableEq, Repr, Inhabited

namespace Kind

/-- The word for a kind. -/
def name : Kind → String
  | number => "number"
  | string => "string"
  | boolean => "boolean"
  | bigint => "bigint"
  | object => "object"
  | enum => "enum"
  | union => "union"
  | reference => "reference"
  | function => "function"
  | property => "property"

/-- Every kind once. -/
def all : List Kind :=
  [number, string, boolean, bigint, object, enum, union, reference, function, property]

/-- The kind of a word. -/
def ofName? (word : String) : Option Kind :=
  all.find? (·.name == word)

/-- Kinds of values without parts. -/
def isPrimitive : Kind → Bool
  | number | string | boolean | bigint => true
  | _ => false

/-- Kinds whose properties are the parts of a value. -/
def isComposite : Kind → Bool
  | object | enum | union => true
  | _ => false

/-- A kind is written as its word; an object whose only field is the word,
with nothing in it, is read too. -/
def ofJson? : Json → Option Kind
  | .string word => ofName? word
  | .object [(word, .null)] => ofName? word
  | _ => none

/-- A kind is read back from its name. -/
theorem ofName?_name (kind : Kind) : ofName? kind.name = some kind := by
  cases kind <;> rfl

end Kind

/-- A flag is a truth value, a reason its text. -/
def Deprecation.toJson : Deprecation → Json
  | .flag marked => .bool marked
  | .reason text => .string text

/-- Reads a truth value as a flag and a text as a reason. -/
def Deprecation.ofJson? : Json → Option Deprecation
  | .bool marked => some (.flag marked)
  | .string text => some (.reason text)
  | _ => none

/-- The description of a type at one place. -/
structure Shape where
  kind : Kind
  /-- The name of the declared or synthesized type. -/
  typeName : Option String := none
  /-- The name of the model that this type is the blueprint of. -/
  modelName : Option String := none
  /-- The name of the property or parameter; empty at a root. -/
  propertyName : String := ""
  /-- The dotted path from the root declaration. -/
  propertyPath : String := ""
  array : Bool := false
  nullable : Bool := false
  canBeUndefined : Bool := false
  description : String := ""
  deprecated : Deprecation := .no
  properties : List Shape := []
  args : List Shape := []
  returnType : Option Shape := none
deriving BEq, Repr, Inhabited

namespace Shape

/-- A link to the type `typeName`, which is described elsewhere. -/
def link (typeName : String) (modelName : Option String := none) : Shape where
  kind := .reference
  typeName := some typeName
  modelName := modelName

/-- Whether a shape is a link. -/
def isReference (shape : Shape) : Bool :=
  shape.kind == .reference

/-- The first property called `name`. -/
def property? (shape : Shape) (name : String) : Option Shape :=
  shape.properties.find? (·.propertyName == name)

/-- Adds documentation where there is none yet. -/
def document (shape : Shape) (doc : Doc) : Shape :=
  { shape with
    description := if shape.description.isEmpty then doc.description else shape.description
    deprecated :=
      if !shape.deprecated.isDeprecated && doc.deprecated.isDeprecated then doc.deprecated
      else shape.deprecated }

mutual

/-- A shape and every shape below it: first itself, then its properties,
its arguments and its return type, each with what is below. -/
def walk : Shape → List Shape
  | shape@⟨_, _, _, _, _, _, _, _, _, _, properties, args, returnType⟩ =>
    shape :: (walkAll properties ++ walkAll args ++ walkReturn returnType)

/-- The shapes of a list and all below. -/
def walkAll : List Shape → List Shape
  | [] => []
  | shape :: shapes => walk shape ++ walkAll shapes

/-- The return type, if there is one, and all below. -/
def walkReturn : Option Shape → List Shape
  | none => []
  | some shape => walk shape

end

/-- The fields of an optional text: one if it is there. -/
def textField (name : String) : Option String → List (String × Json)
  | none => []
  | some text => [(name, .string text)]

mutual

/-- A shape as a JSON object. -/
def toJson : Shape → Json
  | ⟨kind, typeName, modelName, propertyName, propertyPath, array, nullable, canBeUndefined,
      description, deprecated, properties, args, returnType⟩ =>
    .object <|
      [("kind", .string kind.name)] ++
      textField "typeName" typeName ++
      textField "modelName" modelName ++
      [ ("propertyName", .string propertyName),
        ("propertyPath", .string propertyPath),
        ("array", .bool array),
        ("nullable", .bool nullable),
        ("canBeUndefined", .bool canBeUndefined),
        ("description", .string description),
        ("deprecated", deprecated.toJson),
        ("properties", .array (toJsonAll properties)),
        ("args", .array (toJsonAll args)) ] ++
      returnField returnType

/-- Shapes as JSON objects. -/
def toJsonAll : List Shape → List Json
  | [] => []
  | shape :: shapes => toJson shape :: toJsonAll shapes

/-- The field of the return type, if there is one. -/
def returnField : Option Shape → List (String × Json)
  | none => []
  | some shape => [("returnType", toJson shape)]

end

/-- The fields of a shape in their order. -/
def fieldNames : List String :=
  ["kind", "typeName", "modelName", "propertyName", "propertyPath", "array", "nullable",
    "canBeUndefined", "description", "deprecated", "properties", "args", "returnType"]

/-- Reads a shape. The names and the return type may be missing or null;
every other field must be there. -/
def ofJson? (json : Json) : Option Shape := do
  let record ← json.record? fieldNames
  let kind ← record.required "kind" Kind.ofJson?
  let typeName ← record.optional "typeName" Json.text?
  let modelName ← record.optional "modelName" Json.text?
  let propertyName ← record.required "propertyName" Json.text?
  let propertyPath ← record.required "propertyPath" Json.text?
  let array ← record.required "array" Json.bool?
  let nullable ← record.required "nullable" Json.bool?
  let canBeUndefined ← record.required "canBeUndefined" Json.bool?
  let description ← record.required "description" Json.text?
  let deprecated ← record.required "deprecated" Deprecation.ofJson?
  let properties ← (← record.items? "properties").mapM fun part => ofJson? part.1
  let args ← (← record.items? "args").mapM fun part => ofJson? part.1
  let returnType ←
    match record.present? "returnType" with
    | none => some none
    | some part => (ofJson? part.1).map some
  return {
    kind, typeName, modelName, propertyName, propertyPath, array, nullable, canBeUndefined,
    description, deprecated, properties, args, returnType }
termination_by sizeOf json
decreasing_by all_goals exact part.2

/-- Reads an array of shapes. -/
def ofJsonAll? (json : Json) : Option (List Shape) := do
  (← json.items?).mapM fun part => ofJson? part.1

/-- A shape of `kind` with the fields that `json` gives; a field that is
missing or null keeps its default, except that a deprecation is never
null. -/
def ofOverrides? (kind : Kind) (json : Json) : Option Shape := do
  let record ← json.record? fieldNames
  let typeName ← record.optional "typeName" Json.text?
  let modelName ← record.optional "modelName" Json.text?
  let propertyName ← record.optional "propertyName" Json.text?
  let propertyPath ← record.optional "propertyPath" Json.text?
  let array ← record.optional "array" Json.bool?
  let nullable ← record.optional "nullable" Json.bool?
  let canBeUndefined ← record.optional "canBeUndefined" Json.bool?
  let description ← record.optional "description" Json.text?
  let deprecated ← record.withDefault "deprecated" .no Deprecation.ofJson?
  let properties ← record.optional "properties" ofJsonAll?
  let args ← record.optional "args" ofJsonAll?
  let returnType ← record.optional "returnType" ofJson?
  return {
    kind, typeName, modelName, deprecated, returnType
    propertyName := propertyName.getD ""
    propertyPath := propertyPath.getD ""
    array := array.getD false
    nullable := nullable.getD false
    canBeUndefined := canBeUndefined.getD false
    description := description.getD ""
    properties := properties.getD []
    args := args.getD [] }

end Shape

end AppMetadata
