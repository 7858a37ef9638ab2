import AppMetadata.Shape

/-!
# `AppMetadata.Application`: the metadata of one application

An application has models and inputs, which are the types that others may
refer to by name, and operations, actions and selections that do. A link
whose name neither list knows dangles (`Application.danglingReferences`).
-/

set_option autoImplicit false

namespace AppMetadata

/-- The part of `cs` before the first blank ` ` and the part after it; none
without a blank. -/
def splitAtSpace? (cs : List Char) : Option (List Char × List Char) :=
  match cs.dropWhile (· != ' ') with
  | [] => none
  | _ :: rest => some (cs.takeWhile (· != ' '), rest)

/-- One action: a method with a route, and the shapes of its request and
answer. -/
structure Action where
  /-- The method, a space, and the route. -/
  name : String
  returnType : Shape
  query : Option Shape := none
  params : Option Shape := none
  headers : Option Shape := none
  cookies : Option Shape := none
  body : Option Shape := none
deriving BEq, Repr

namespace Action

/-- The name up to its first space. -/
def method (action : Action) : String :=
  match splitAtSpace? action.name.toList with
  | some (before, _) => String.ofList before
  | none => action.name

/-- The name after its first space, without leading blanks; empty if there
is no space. -/
def route (action : Action) : String :=
  match splitAtSpace? action.name.toList with
  | some (_, after) => String.ofList (Text.trimStart after)
  | none => ""

/-- The shapes of an action, the answer first. -/
def shapes (action : Action) : List Shape :=
  [action.returnType] ++ action.query.toList ++ action.params.toList ++
    action.headers.toList ++ action.cookies.toList ++ action.body.toList

/-- The fields of an action in their order. -/
def fieldNames : List String :=
  ["name", "return", "query", "params", "headers", "cookies", "body"]

/-- The field of an optional shape: one if it is there. -/
def shapeField (name : String) : Option Shape → List (String × Json)
  | none => []
  | some shape => [(name, shape.toJson)]

/-- An action as a JSON object. -/
def toJson (action : Action) : Json :=
  .object <|
    [("name", .string action.name), ("return", action.returnType.toJson)] ++
    shapeField "query" action.query ++
    shapeField "params" action.params ++
    shapeField "headers" action.headers ++
    shapeField "cookies" action.cookies ++
    shapeField "body" action.body

/-- Reads an action. Name and answer must be there. -/
def ofJson? (json : Json) : Option Action := do
  let record ← json.record? fieldNames
  return {
    name := ← record.required "name" Json.text?
    returnType := ← record.required "return" Shape.ofJson?
    query := ← record.optional "query" Shape.ofJson?
    params := ← record.optional "params" Shape.ofJson?
    headers := ← record.optional "headers" Shape.ofJson?
    cookies := ← record.optional "cookies" Shape.ofJson?
    body := ← record.optional "body" Shape.ofJson? }

end Action

/-- A model and the part of it that is selected. -/
structure Selection where
  source : Shape
  selection : Shape
deriving BEq, Repr

namespace Selection

/-- The two shapes of a selection. -/
def shapes (pair : Selection) : List Shape :=
  [pair.source, pair.selection]

/-- A selection as a JSON object. -/
def toJson (pair : Selection) : Json :=
  .object [("source", pair.source.toJson), ("selection", pair.selection.toJson)]

/-- Reads a selection. -/
def ofJson? (json : Json) : Option Selection := do
  let record ← json.record? ["source", "selection"]
  return {
    source := ← record.required "source" Shape.ofJson?
    selection := ← record.required "selection" Shape.ofJson? }

end Selection

/-- The metadata of one application. -/
structure Application where
  name : String
  actions : List Action := []
  models : List Shape := []
  inputs : List Shape := []
  queries : List Shape := []
  mutations : List Shape := []
  subscriptions : List Shape := []
  selections : List Selection := []
deriving BEq, Repr

/-- The first of `types` that has `name` as its type name or model name. -/
def findNamed? (types : List Shape) (name : String) : Option Shape :=
  types.find? fun type => type.typeName == some name || type.modelName == some name

namespace Application

/-- The model called `name`. -/
def model? (app : Application) (name : String) : Option Shape :=
  findNamed? app.models name

/-- The input called `name`. -/
def input? (app : Application) (name : String) : Option Shape :=
  findNamed? app.inputs name

/-- The roots of all shape trees: types, operations, actions, selections. -/
def roots (app : Application) : List Shape :=
  app.models ++ app.inputs ++ app.queries ++ app.mutations ++ app.subscriptions ++
    app.actions.flatMap Action.shapes ++ app.selections.flatMap Selection.shapes

/-- The name and path of a link that no model or input answers to. -/
def danglingLink? (app : Application) (shape : Shape) : Option (String × String) :=
  if shape.isReference then
    match shape.typeName with
    | some name =>
      if (app.model? name).isNone && (app.input? name).isNone then
        some (name, shape.propertyPath)
      else none
    | none => none
  else none

/-- The name and path of every link that dangles, in visiting order. -/
def danglingReferences (app : Application) : List (String × String) :=
  (Shape.walkAll app.roots).filterMap app.danglingLink?

/-- The fields of an application in their order. -/
def fieldNames : List String :=
  ["name", "actions", "models", "inputs", "queries", "mutations", "subscriptions",
    "selections"]

/-- An application as a JSON object. -/
def toJson (app : Application) : Json :=
  .object [
    ("name", .string app.name),
    ("actions", .array (app.actions.map Action.toJson)),
    ("models", .array (Shape.toJsonAll app.models)),
    ("inputs", .array (Shape.toJsonAll app.inputs)),
    ("queries", .array (Shape.toJsonAll app.queries)),
    ("mutations", .array (Shape.toJsonAll app.mutations)),
    ("subscriptions", .array (Shape.toJsonAll app.subscriptions)),
    ("selections", .array (app.selections.map Selection.toJson))]

/-- Reads an application; every field must be there. -/
def ofJson? (json : Json) : Option Application := do
  let record ← json.record? fieldNames
  return {
    name := ← record.required "name" Json.text?
    actions := ← (← record.items? "actions").mapM fun part => Action.ofJson? part.1
    models := ← record.required "models" Shape.ofJsonAll?
    inputs := ← record.required "inputs" Shape.ofJsonAll?
    queries := ← record.required "queries" Shape.ofJsonAll?
    mutations := ← record.required "mutations" Shape.ofJsonAll?
    subscriptions := ← record.required "subscriptions" Shape.ofJsonAll?
    selections := ← (← record.items? "selections").mapM fun part => Selection.ofJson? part.1 }

end Application

end AppMetadata
