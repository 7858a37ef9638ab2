import AppMetadata.Application
import AppMetadata.Expansion

/-!
# `AppMetadata.Group`: the groups of an application

The options of an application are an object type whose members are groups:
models and inputs are types by name, queries, mutations and subscriptions
are operations, actions are requests with answers, and selections pair a
model with a part of it. Each group is extracted on its own; of all groups
only the models must be there.

The main statement is `typeNames_addUnique`: a list of types stays free of
repeated names.
-/

set_option autoImplicit false

namespace AppMetadata

/-- The groups of an application. -/
inductive Group
  | models
  | inputs
  | queries
  | mutations
  | subscriptions
  | actions
  | selections
deriving DecidableEq, Repr

namespace Group

/-- The member of the options that holds the group. -/
def key : Group → String
  | models => "models"
  | inputs => "inputs"
  | queries => "queries"
  | mutations => "mutations"
  | subscriptions => "subscriptions"
  | actions => "actions"
  | selections => "selections"

/-- The name under which the paths of the group start. -/
def rootName : Group → String
  | models => "Model"
  | inputs => "Input"
  | queries => "Query"
  | mutations => "Mutation"
  | subscriptions => "Subscription"
  | actions => "Action"
  | selections => "Selection"

/-- Every group once. -/
def all : List Group :=
  [models, inputs, queries, mutations, subscriptions, actions, selections]

/-- The group with a key. -/
def ofKey? (key : String) : Option Group :=
  all.find? (·.key == key)

/-- The root name of a key, which may be that of no group. -/
def rootNameOf (key : String) : String :=
  ((ofKey? key).map rootName).getD "Root"

/-- The type of a group and its members; none if the options lack it. A group
that is there is an object type with members. -/
def find (group : Group) (options : List Member) :
    Except ExtractionError (Option (TypeNode × List Member)) :=
  match options.find? (·.name == group.key) with
  | none => .ok none
  | some member =>
    match member.type? with
    | some type =>
      match type.form with
      | .object [] => .error (.emptyGroup group.key member.location)
      | .object members => .ok (some (type, members))
      | _ => .error (.invalidGroup group.key member.location)
    | none => .error (.invalidGroup group.key member.location)

/-- How a new type stands to a list of types. -/
inductive Novelty
  /-- No type has its name. -/
  | new
  /-- The list has the same type. -/
  | repeated
  /-- The list has another type of its name. -/
  | conflicting
deriving DecidableEq, Repr

/-- Compares a type with the first one of its name. -/
def novelty (types : List Shape) (type : Shape) : Novelty :=
  match types.find? (·.typeName == type.typeName) with
  | none => .new
  | some known => if known == type then .repeated else .conflicting

/-- `types` with `type` added, unless one of its name is there. -/
def addUnique (types : List Shape) (type : Shape) : List Shape :=
  if novelty types type = .new then types ++ [type] else types

/-- Adding a type keeps the names of a list distinct. -/
theorem typeNames_addUnique {types : List Shape} {type : Shape}
    (h : (types.map (·.typeName)).Nodup) :
    ((addUnique types type).map (·.typeName)).Nodup := by
  unfold addUnique novelty
  cases hf : types.find? (·.typeName == type.typeName) with
  | some known =>
    have : (if (known == type) = true then Novelty.repeated else Novelty.conflicting) ≠ .new := by
      split <;> simp
    simp [this, h]
  | none =>
    simp only [List.find?_eq_none, beq_iff_eq] at hf
    simp only [if_true, List.map_append, List.map_cons, List.map_nil, List.nodup_append, h,
      List.nodup_cons, List.not_mem_nil, not_false_eq_true, List.nodup_nil, and_self, true_and,
      List.mem_map, List.mem_singleton]
    rintro a ⟨known, hk, rfl⟩ b rfl
    exact hf known hk

/-- A property as an operation: one that is no function takes no arguments
and returns the property. -/
def operation (property : Shape) : Shape :=
  if property.kind = .function then property
  else
    { kind := .function
      propertyName := property.propertyName
      propertyPath := property.propertyPath
      description := property.description
      deprecated := property.deprecated
      returnType := some property }

/-- A property as an action: its parts are the properties of their names. -/
def action (property : Shape) : Except ExtractionError Action :=
  match property.property? "return" with
  | none => .error (.missingReturn property.propertyName)
  | some returnType => .ok {
      name := property.propertyName
      returnType
      query := property.property? "query"
      params := property.property? "params"
      headers := property.property? "headers"
      cookies := property.property? "cookies"
      body := property.property? "body" }

/-- The two types that a member of the selections names. -/
def selectionTypes (member : Member) : Except ExtractionError (TypeNode × TypeNode) :=
  let invalid (reason : String) := .error (.invalidSelection member.name reason member.location)
  match member.type? with
  | none => invalid "expected a type annotation"
  | some type =>
    match type.form with
    | .reference ⟨.qualified parts, _, _⟩ =>
      let name := (EntityName.qualified parts).text
      invalid s!"`{name}` is not a plain identifier reference"
    | .reference ⟨.identifier _, [source, selection], _⟩ => .ok (source, selection)
    | .reference ⟨.identifier _, args, _⟩ =>
      invalid s!"expected exactly two type arguments, found {args.length}"
    | _ => invalid "expected a type reference with two type arguments"

end Group

/-- What the extraction of groups depends on. -/
structure Extractor where
  program : Program
  settings : Settings
  /-- The members of the options. -/
  options : List Member

namespace Extractor

open Expansion (Counted fresh)

variable {m : Type → Type} [Monad m] [Journal m]

/-- The shape of `type` at a root called `owner`. -/
def describeRoot (extractor : Extractor) (type : TypeNode) (owner : String) :
    Counted m Shape :=
  (Expansion.walker extractor.program extractor.settings).describe (.type type) (.root owner)

/-- The type of one member of a group of types. -/
def namedType (extractor : Extractor) (group : Group) (member : Member) :
    Counted m Shape := do
  let some type := member.type?
    | throw (ExtractionError.unsupported member.location
        s!"`{group.key}.{member.name}` must be a property with a type annotation")
  let shape ← extractor.describeRoot type member.name
  return { shape with
    typeName := shape.typeName <|> some member.name
    description :=
      if shape.description.isEmpty then member.doc.description else shape.description }

/-- Notes that `type` is left out, if it is. -/
def noteNovelty (group : Group) (type : Shape) (novelty : Group.Novelty) : m Unit :=
  match novelty with
  | .new => pure ()
  | .repeated => note (.duplicateSkipped group.key (type.typeName.getD ""))
  | .conflicting => note (.duplicateConflict group.key (type.typeName.getD ""))

/-- The types of a group, each name once. -/
def namedTypes (extractor : Extractor) (group : Group) (members : List Member) :
    Counted m (List Shape) := do
  let types ← members.foldlM (fun types member => do
    let type ← extractor.namedType group member
    noteNovelty group type (Group.novelty types type)
    return Group.addUnique types type) []
  note (.groupExtracted group.key types.length)
  return types

/-- The pair of types of one member of the selections. -/
def selection (extractor : Extractor) (member : Member) : Counted m Selection := do
  let (source, selection) ← MonadExcept.ofExcept (Group.selectionTypes member)
  let source ← extractor.describeRoot source member.name
  let selection ← extractor.describeRoot selection member.name
  return { source, selection }

variable [MonadExceptOf ExtractionError m]

/-- The type of a group and its members. -/
def group (extractor : Extractor) (group : Group) : m (Option (TypeNode × List Member)) :=
  MonadExcept.ofExcept (group.find extractor.options)

/-- The models, which must be there. -/
def models (extractor : Extractor) : m (List Shape) := do
  match ← extractor.group .models with
  | none => throw (ExtractionError.missingGroup Group.models.key)
  | some (_, members) => fresh (extractor.namedTypes .models members)

/-- The inputs. -/
def inputs (extractor : Extractor) : m (List Shape) := do
  match ← extractor.group .inputs with
  | none => return []
  | some (_, members) => fresh (extractor.namedTypes .inputs members)

/-- The operations of a group. -/
def operations (extractor : Extractor) (group : Group) : m (List Shape) := do
  match ← extractor.group group with
  | none => return []
  | some (type, _) =>
    let root ← fresh (extractor.describeRoot type group.rootName)
    let operations := root.properties.map Group.operation
    note (.groupExtracted group.key operations.length)
    return operations

/-- The actions. -/
def actions (extractor : Extractor) : m (List Action) := do
  match ← extractor.group .actions with
  | none => return []
  | some (type, _) =>
    let root ← fresh (extractor.describeRoot type Group.actions.rootName)
    let actions ← root.properties.mapM fun property =>
      MonadExcept.ofExcept (Group.action property)
    note (.groupExtracted Group.actions.key actions.length)
    return actions

/-- The selections. -/
def selections (extractor : Extractor) : m (List Selection) := do
  match ← extractor.group .selections with
  | none => return []
  | some (_, members) =>
    let selections ← fresh (members.mapM extractor.selection)
    note (.groupExtracted Group.selections.key selections.length)
    return selections

end Extractor

end AppMetadata
