import AppMetadata.Event
import AppMetadata.Expansion.Context
import AppMetadata.Expansion.Nesting
import AppMetadata.Expansion.Wrapper
import AppMetadata.Shape

/-!
# `AppMetadata.Expansion`: from declarations and types to shapes

`Expansion.describe` turns a node of a source tree into the shape of its
values. A named type is described in full only at a root, and where its
properties become those of another type; everywhere else it is linked by
name, so that types which refer to one another still have finite shapes.

The functions of `Walker` describe one node each and leave the nodes below
to `Walker.describe`. Every such step enters one node more, which is counted
(`Expansion.describeCounted`), so the recursion ends for any source.

All of this is generic in the computation that it runs in, which may fail
and may note events.
-/

set_option autoImplicit false

namespace AppMetadata.Expansion

/-- What the description of a node depends on. -/
structure Walker (m : Type → Type) where
  program : Program
  settings : Settings
  /-- Describes a node below the present one. -/
  describe : Node → Context → m Shape

/-- Whether `c` may go on an enum value. -/
def isValuePart (c : Char) : Bool :=
  c == '_' || c.isAlphanum

/-- Whether a string literal can be an enum value: an ASCII identifier. -/
def isEnumValue (literal : String) : Bool :=
  match literal.toList with
  | [] => false
  | c :: cs => (c == '_' || c.isAlpha) && cs.all isValuePart

/-- What a node is, for the message that it cannot be described. -/
def detail : Node → String
  | .type type =>
    match type.form with
    | .unsupported source | .literal source => "`" ++ source ++ "`"
    | .keyword .null => "`null`"
    | .keyword .undefined => "`undefined`"
    | .keyword (.other name) => "`" ++ name ++ "`"
    | _ => ""
  | .member member =>
    match member.form with
    | .unsupported description _ => description
    | _ => ""
  | .declaration _ => ""

/-- The error for a node that cannot be described. -/
def unsupported (node : Node) (ctx : Context) : ExtractionError :=
  .unsupported node.location s!"{node.category.text} {detail node} at `{ctx.basePath}`"

/-- The value of an enum made from a string literal. -/
def literalProperty (path literal : String) : Shape where
  kind := .property
  propertyName := literal
  propertyPath := joinPath path literal

/-- Properties with `own` added: it takes the place of all of its name. -/
def override (properties : List Shape) (own : Shape) : List Shape :=
  properties.filter (·.propertyName != own.propertyName) ++ [own]

/-- Replaces the first property called `name` by its image under `change`;
none if there is no such property. -/
def changeFirst? (name : String) (change : Shape → Shape) : List Shape → Option (List Shape)
  | [] => none
  | property :: properties =>
    if property.propertyName = name then some (change property :: properties)
    else (changeFirst? name change properties).map (property :: ·)

/-- A member at `path`, from the shape of its type. -/
def ofMember (member : Member) (path : String) (shape : Shape) : Shape :=
  let shape := { shape with propertyName := member.name, propertyPath := path }
  let shape := shape.document member.doc
  { shape with
    canBeUndefined := shape.canBeUndefined || member.isOptional || member.admitsUndefined }

/-- A parameter at `path`, from the shape of its type. -/
def ofParameter (param : Parameter) (path : String) (shape : Shape) : Shape :=
  { shape with
    propertyName := param.name
    propertyPath := path
    canBeUndefined := shape.canBeUndefined || param.isOptional }

/-- A declaration under its name, from the shape of what it declares. A name
that is there already stays, and a value without parts gets none. -/
def ofDeclaration (declaration : Declaration) (shape : Shape) : Shape :=
  let shape :=
    if shape.typeName.isNone && shape.kind.isComposite then
      { shape with typeName := some declaration.name }
    else shape
  shape.document declaration.doc

variable {m : Type → Type} [Monad m] [MonadExceptOf ExtractionError m]

/-- The enum value that a string literal makes below `path`. -/
def literalValue (path literal : String) : m Shape :=
  if isEnumValue literal then return literalProperty path literal
  else throw (ExtractionError.invalidLiteral path literal)

/-- An enum with the values `literals`. -/
def literalEnum (literals : List String) (location : Location)
    (ctx : Context) : m Shape := do
  let some typeName := ctx.anonymousName? enumName?
    | throw (ExtractionError.emptyName "enum" location)
  let properties ← literals.mapM (literalValue ctx.basePath)
  return { kind := .enum, typeName := some typeName, properties }

/-- The shape of a member of an enum, whose value must be its name. -/
def describeEnumMember (member : Member) (value : Option EnumValue)
    (ctx : Context) : m Shape :=
  let invalid (reason : String) : m Shape :=
    throw (ExtractionError.invalidEnumMember (ctx.owner.getD ctx.parentPath) member.name reason
      member.location)
  match value with
  | some (.string text) =>
    if text = member.name then return { kind := .object }
    else invalid s!"initializer \"{text}\" must equal the member name"
  | some (.other source) => invalid s!"initializer `{source}` is not a string literal"
  | none => invalid "a string initializer equal to the member name is required"

/-- Gives `argument` to the first of the properties of its name, in place of
the arguments that the property has. -/
def spliceArg (label : String) (properties : List Shape) (argument : Shape) :
    m (List Shape) :=
  match changeFirst? argument.propertyName (fun p => { p with args := [argument] })
      properties with
  | some properties => pure properties
  | none => throw (ExtractionError.unknownArgument label argument.propertyName)

namespace Walker

variable [Journal m]

/-- The shape of a member of a body at path `base`. -/
def describeMember (w : Walker m) (base : String) (owner : Option String) (member : Member) :
    m Shape := do
  let path := joinPath base member.name
  return ofMember member path (← w.describe (.member member) { parentPath := path, owner })

/-- The shapes of the members of a body. -/
def describeMembers (w : Walker m) (members : List Member) (ctx : Context) : m (List Shape) :=
  members.mapM (w.describeMember ctx.basePath ctx.owner)

/-- A union of `alternatives`, each at the path of its position. -/
def mixedUnion (w : Walker m) (alternatives : List TypeNode) (location : Location)
    (ctx : Context) : m Shape := do
  let some typeName := ctx.anonymousName? unionName?
    | throw (ExtractionError.emptyName "union" location)
  let properties ← alternatives.zipIdx.mapM fun (alternative, index) =>
    w.describe (.type alternative) (ctx.below (joinPath ctx.basePath (toString index)))
  return { kind := .union, typeName := some typeName, properties }

/-- A union of at least two alternatives, `null` and `undefined` aside: with
string literals alone it is an enum. -/
def describeAlternatives (w : Walker m) (alternatives : List TypeNode) (location : Location)
    (ctx : Context) : m Shape :=
  match alternatives.mapM (·.form.stringLiteral?) with
  | some literals => literalEnum literals location ctx
  | none => w.mixedUnion alternatives location ctx

/-- A union: `null` makes it nullable and `undefined` says nothing. With one
other alternative it is that one. -/
def describeUnion (w : Walker m) (types : List TypeNode) (location : Location)
    (ctx : Context) : m Shape :=
  match presentOf types with
  | [] => throw (ExtractionError.emptyUnion location)
  | [single] => do
    let shape ← w.describe (.type single) ctx
    return { shape with nullable := shape.nullable || admitNull types }
  | alternatives => do
    let shape ← w.describeAlternatives alternatives location ctx
    return { shape with nullable := admitNull types }

/-- The properties of `types` in the context of a whole that takes them
over. -/
def flattened (w : Walker m) (types : List TypeNode) (ctx : Context) : m (List Shape) := do
  return (← types.mapM fun type => w.describe (.type type) ctx.flattening).flatMap (·.properties)

/-- The properties of an interface or class: inherited ones first, own ones
in their place. -/
def bodyProperties (w : Walker m) (heritage : List TypeNode) (members : List Member)
    (ctx : Context) : m (List Shape) := do
  let inherited ← w.flattened heritage ctx
  let own ← w.describeMembers members ctx
  return own.foldl override inherited

/-- An interface or class. Where it is not described in full, only its name
is given. -/
def describeBody (w : Walker m) (declaration : Declaration) (heritage : List TypeNode)
    (members : List Member) (ctx : Context) : m Shape :=
  if !ctx.expands then
    return { kind := .object, typeName := some declaration.name }
  else if declaration.isGeneric then
    let category := (Node.declaration declaration).category.text
    throw (ExtractionError.unsupported declaration.location
      s!"generic {category} `{declaration.name}`")
  else do
    let properties ← w.bodyProperties heritage members ctx
    return { kind := .object, typeName := some declaration.name, properties }

/-- The shape of the arguments that a wrapper adds to `model`, put to the
properties of the same names. -/
def spliceArgs (w : Walker m) (model : Shape) (args : TypeNode) (location : Location)
    (ctx : Context) : m Shape := do
  let label := (model.modelName <|> model.typeName).getD ctx.basePath
  let shape ← w.describe (.type args)
    { flattens := true, owner := some (joinPath label "args") }
  if shape.kind != .object then
    throw (ExtractionError.unsupported location
      s!"arguments of model `{label}` must be an object type, found {shape.kind.name}")
  else
    let properties ← shape.properties.foldlM (spliceArg label) model.properties
    return { model with properties }

/-- The blueprint of a model under the model's name, with arguments added. -/
def expandWrapper (w : Walker m) (blueprint : TypeNode) (args : Option TypeNode)
    (modelName : Option String) (location : Location) (ctx : Context) (force : Bool) :
    m Shape := do
  let shape ← w.describe (.type blueprint) { ctx with flattens := ctx.flattens || force }
  let model := { shape with modelName }
  match args with
  | some args => w.spliceArgs model args location ctx
  | none => return model

/-- A model wrapper. `named` is the alias that names the model; `force` asks
for a full description where others would only be linked. -/
def describeWrapper (w : Walker m) (typeArgs : List TypeNode) (named : Option Declaration)
    (location : Location) (ctx : Context) (force : Bool) : m Shape :=
  match wrapperParts? typeArgs with
  | none => throw (ExtractionError.unsupported location
      s!"`{w.settings.modelWrapper}` takes one or two type arguments, found {typeArgs.length}")
  | some (blueprint, args) =>
    let blueprintName := blueprintName? w.program blueprint
    let modelName := (named.map (·.name)) <|> blueprintName
    if force || ctx.expands then
      w.expandWrapper blueprint args modelName location ctx force
    else
      match blueprintName <|> modelName with
      | some typeName => return .link typeName modelName
      | none => throw (ExtractionError.unsupported location
          s!"inline model blueprint at `{ctx.basePath}` cannot be referenced")

/-- The full description of a declaration under its name. -/
def expandDeclaration (w : Walker m) (declaration : Declaration) (ctx : Context) : m Shape := do
  note (.expanding declaration.name ctx.basePath)
  return ofDeclaration declaration
    (← w.describe (.declaration declaration) (ctx.within declaration.name))

/-- A declaration by its name: a link, or the full description where the
context asks for it. -/
def describeNamed (w : Walker m) (declaration : Declaration) (ctx : Context) : m Shape := do
  if !ctx.expands then
    note (.linked declaration.name ctx.parentPath)
    return .link declaration.name
  w.expandDeclaration declaration ctx

/-- A declaration where its name is used: a model for an alias of a wrapper,
the target of a transparent alias where others are only linked, else what the
name stands for. -/
def describeUse (w : Walker m) (declaration : Declaration) (location : Location)
    (ctx : Context) : m Shape :=
  match declaration.form with
  | .typeAlias target =>
    match wrapperArgs? w.program w.settings target with
    | some args => w.describeWrapper args (some declaration) location ctx false
    | none =>
      if !ctx.expands && isTransparent w.program maxAliasHops target then
        w.describe (.type target) ctx
      else w.describeNamed declaration ctx
  | _ => w.describeNamed declaration ctx

/-- A reference by name. -/
def describeReference (w : Walker m) (reference : Reference) (location : Location)
    (ctx : Context) : m Shape :=
  if isWrapper w.program w.settings reference then
    w.describeWrapper reference.args none location ctx false
  else
    match w.program.resolve reference.scope reference.name with
    | .declaration declaration =>
      if !reference.args.isEmpty || declaration.isGeneric then
        throw (ExtractionError.unsupported location
          s!"generic type `{reference.name.text}` at `{ctx.basePath}`")
      else w.describeUse declaration location ctx
    | _ => throw (ExtractionError.unresolvedReference reference.name.text location)

/-- A reference through an import type. -/
def describeImport (w : Walker m) (link : ImportType) (location : Location)
    (ctx : Context) : m Shape :=
  match link.name with
  | none => throw (ExtractionError.unsupported location
      s!"import type `import(\"{link.specifier}\")` has no qualifier")
  | some name =>
    if isImportedWrapper w.settings link then
      w.describeWrapper link.args none location ctx true
    else
      match w.program.resolveImport link.scope link.specifier name with
      | .declaration declaration =>
        if !link.args.isEmpty || declaration.isGeneric then
          throw (ExtractionError.unsupported location
            s!"generic type `{declaration.name}` at `{ctx.basePath}`")
        else w.describeUse declaration location ctx
      | _ =>
        throw (ExtractionError.unresolvedReference
          s!"import(\"{link.specifier}\").{name.text}" location)

/-- The shape of the parameter of an operation at `path`. -/
def describeParameter (w : Walker m) (param : Parameter) (location : Location)
    (ctx : Context) : m Shape := do
  let some type := param.type
    | throw (ExtractionError.invalidFunction
        s!"parameter `{param.name}` of `{ctx.basePath}` has no type annotation" location)
  let path := joinPath ctx.basePath param.name
  return ofParameter param path (← w.describe (.type type) (ctx.below path))

/-- The parameters and the return type of an operation. -/
def describeOperation (w : Walker m) (signature : Signature) (location : Location)
    (ctx : Context) : m Shape := do
  let args ← signature.params.mapM fun param => w.describeParameter param location ctx
  let some returns := signature.returns
    | throw (ExtractionError.invalidFunction
        s!"`{ctx.basePath}` has no return type annotation" location)
  let returnType ← w.describe (.type returns) (ctx.below ctx.basePath)
  return { kind := .function, args, returnType := some returnType }

/-- An operation: at most one parameter, and a return type. -/
def describeFunction (w : Walker m) (signature : Signature) (location : Location)
    (ctx : Context) : m Shape :=
  let count := signature.params.length
  if count > 1 then
    throw (ExtractionError.invalidFunction
      s!"`{ctx.basePath}` declares {count} parameters; at most one arguments object is allowed"
      location)
  else w.describeOperation signature location ctx

/-- The shape of a type. -/
def describeType (w : Walker m) (type : TypeNode) (ctx : Context) : m Shape :=
  match type.form with
  | .keyword .number => return { kind := .number }
  | .keyword .string => return { kind := .string }
  | .keyword .boolean => return { kind := .boolean }
  | .keyword .bigint => return { kind := .bigint }
  | .array element => do
    let shape ← w.describe (.type element) ctx
    return { shape with array := true }
  | .union types => w.describeUnion types type.location ctx
  | .stringLiteral value => literalEnum [value] type.location ctx
  | .object members => do
    let properties ← w.describeMembers members ctx
    return { kind := .object, properties }
  | .reference reference => w.describeReference reference type.location ctx
  | .intersection parts => do
    let properties ← w.flattened parts ctx
    return { kind := .object, properties }
  | .imported link => w.describeImport link type.location ctx
  | .function signature => w.describeFunction signature type.location ctx
  | .keyword _ | .literal _ | .unsupported _ => throw (unsupported (.type type) ctx)

/-- An enum. Where it is not described in full, it is linked. -/
def describeEnum (w : Walker m) (declaration : Declaration) (members : List Member)
    (ctx : Context) : m Shape :=
  if !ctx.expands then
    return .link declaration.name
  else do
    let properties ← members.mapM (w.describeMember ctx.basePath (some declaration.name))
    return { kind := .enum, typeName := some declaration.name, properties }

/-- The shape of a declaration. -/
def describeDeclaration (w : Walker m) (declaration : Declaration) (ctx : Context) : m Shape :=
  match declaration.form with
  | .typeAlias target =>
    match wrapperArgs? w.program w.settings target with
    | some args => w.describeWrapper args (some declaration) declaration.location ctx false
    | none => w.describe (.type target) (ctx.ownedBy declaration.name)
  | .interface heritage members => w.describeBody declaration heritage members ctx
  | .classType heritage members => w.describeBody declaration heritage.toList members ctx
  | .enum members => w.describeEnum declaration members ctx

/-- The shape of the type of a member. -/
def describeMemberType (w : Walker m) (member : Member) (ctx : Context) : m Shape :=
  match member.form with
  | .signature (some type) | .field (some type) => w.describe (.type type) ctx
  | .signature none | .field none =>
    throw (ExtractionError.unsupported member.location
      s!"property `{ctx.basePath}` has no type annotation")
  | .method signature => w.describeFunction signature member.location ctx
  | .enumMember value => describeEnumMember member value ctx
  | .unsupported _ _ => throw (unsupported (.member member) ctx)

/-- The shape of any node. -/
def describeNode (w : Walker m) (node : Node) (ctx : Context) : m Shape :=
  match node with
  | .type type => w.describeType type ctx
  | .declaration declaration => w.describeDeclaration declaration ctx
  | .member member => w.describeMemberType member ctx

end Walker

/-- A shape at the path of its context, unless it has one already. -/
def placed (ctx : Context) (shape : Shape) : Shape :=
  if shape.propertyPath.isEmpty then { shape with propertyPath := ctx.basePath } else shape

section

variable {m : Type → Type} [Monad m] [Journal m]

/-- Describes a node, one nesting deeper than the nodes that are counted. It
is the count that ends the recursion; `levels` has to be more than the
settings allow. -/
def describeCounted (program : Program) (settings : Settings) :
    (levels : Nat) → Node → Context → Counted m Shape
  | 0, node, _ => throw (ExtractionError.depthExceeded settings.maxDepth node.location)
  | levels + 1, node, ctx => do
    let walker : Walker (Counted m) :=
      { program, settings, describe := describeCounted program settings levels }
    return placed ctx
      (← nested settings.maxDepth node.location (walker.describeNode node ctx))

/-- The walker that allows the nesting given by the settings. -/
def walker (program : Program) (settings : Settings) : Walker (Counted m) where
  program := program
  settings := settings
  describe := describeCounted program settings (settings.maxDepth + 1)

/-- What a walker is asked for. -/
inductive Call
  /-- The shape of a node. -/
  | node (node : Node) (ctx : Context)
  /-- The shape of a node below `parentPath`, where nothing has a name yet. -/
  | plain (node : Node) (parentPath : String) (flattens : Bool)
  /-- The shape of a member of a body at path `base`. -/
  | member (member : Member) (base : String) (owner : Option String)

/-- The answer of a walker. -/
def Call.answer (program : Program) (settings : Settings) : Call → Counted m Shape
  | node target ctx => (walker program settings).describe target ctx
  | plain target parentPath flattens =>
    (walker program settings).describe target { parentPath, flattens }
  | member target base owner => (walker program settings).describeMember base owner target

/-- The answers of one walker to `calls`, in order. A call that fails does
not stop the ones after it. -/
def answers (program : Program) (settings : Settings) (calls : List Call) :
    StateT Nat m (List (Except ExtractionError Shape)) :=
  calls.mapM fun call => (call.answer program settings).run

variable [MonadExceptOf ExtractionError m]

/-- The shape of a node. -/
def describe (program : Program) (settings : Settings) (node : Node) (ctx : Context) :
    m Shape :=
  fresh ((walker program settings).describe node ctx)

/-- The shape of a member of a body at path `base`. -/
def describeMember (program : Program) (settings : Settings) (member : Member)
    (base : String) (owner : Option String) : m Shape :=
  fresh ((walker program settings).describeMember base owner member)

end

end AppMetadata.Expansion
