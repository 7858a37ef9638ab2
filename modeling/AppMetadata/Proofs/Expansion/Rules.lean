import AppMetadata.Proofs.Expansion.Denotation
import AppMetadata.Proofs.Expansion.PropertyLists
import AppMetadata.Proofs.Program.Declared
import AppMetadata.Proofs.Shape

/-!
# `AppMetadata.Proofs.Expansion.Rules`: the ways in which a shape is made

The functions of a walker pass a node on to one another until one of them
makes a shape, or hands on the shape of a node below. There are not many ways
to do so, and `Walker.Made` lists them with what the walker says about the
nodes below. A statement about all shapes is proved by cases on this list.

* `Walker.made_of_describeNode`: the list is complete.
* `given_of_mem_spliced`: what the properties of a model are once arguments
  are put to them.
* `forall_mem_walk_of_given`: what holds of all below such a property.
-/

set_option autoImplicit false

namespace AppMetadata.Expansion

/-- The values of a type that is an enum without a declaration: a string
literal, or a union of nothing else. -/
def enumLiterals? (type : TypeNode) : Option (List String) :=
  match type.form with
  | .stringLiteral value => some [value]
  | .union types =>
    if 2 ≤ (presentOf types).length then (presentOf types).mapM (·.form.stringLiteral?) else none
  | _ => none

/-- The alternatives of a union that is no enum. -/
def unionTypes? (type : TypeNode) : Option (List TypeNode) :=
  match type.form with
  | .union types =>
    if 2 ≤ (presentOf types).length ∧ (presentOf types).mapM (·.form.stringLiteral?) = none then
      some (presentOf types)
    else none
  | _ => none

/-- A node that is an operation with this signature. -/
inductive Operates : Node → Signature → Prop
  | function (signature : Signature) (location : Location) :
    Operates (.type ⟨.function signature, location⟩) signature
  | method {member : Member} {signature : Signature} (hform : member.form = .method signature) :
    Operates (.member member) signature

namespace Walker

/-- The ways in which a walker makes the shape of `node` in `ctx`. -/
inductive Made (w : Walker Attempt) (node : Node) (ctx : Context) : Shape → Prop
  /-- A value without parts. -/
  | primitive {kind : Kind} (hkind : kind.isPrimitive = true) : Made w node ctx { kind }
  /-- A value of an enum. -/
  | value : Made w node ctx { kind := .object }
  /-- The name of a type that is described elsewhere. -/
  | link (typeName : String) (modelName : Option String) :
      Made w node ctx (.link typeName modelName)
  /-- An interface or class of which only the name is given. -/
  | nameOnly (name : String) : Made w node ctx { kind := .object, typeName := some name }
  /-- An enum of string literals. -/
  | literals {type : TypeNode} (name : String) (literals : List String) (nullable : Bool)
      (hnode : node = .type type) (hliterals : enumLiterals? type = some literals)
      (hname : ctx.anonymousName? enumName? = some name) :
      Made w node ctx
        { kind := .enum, typeName := some name, nullable
          properties := literals.map (literalProperty ctx.basePath) }
  /-- A union of other types. -/
  | union {type : TypeNode} {alternatives : List TypeNode} {properties : List Shape}
      (name : String) (nullable : Bool) (hmany : 2 ≤ alternatives.length)
      (hproperties : List.Forall₂
        (fun (entry : TypeNode × Nat) s => w.describe (.type entry.1)
          (ctx.below (joinPath ctx.basePath (toString entry.2))) = .ok s)
        alternatives.zipIdx properties)
      (hnode : node = .type type) (halternatives : unionTypes? type = some alternatives)
      (hname : ctx.anonymousName? unionName? = some name) :
      Made w node ctx { kind := .union, typeName := some name, nullable, properties }
  /-- An object type. -/
  | object {members : List Member} {properties : List Shape}
      (hproperties : w.describeMembers members ctx = .ok properties) :
      Made w node ctx { kind := .object, properties }
  /-- An intersection. -/
  | merged {parts : List TypeNode} {properties : List Shape}
      (hproperties : w.flattened parts ctx = .ok properties) :
      Made w node ctx { kind := .object, properties }
  /-- An interface or class. -/
  | body {heritage : List TypeNode} {members : List Member} {properties : List Shape}
      (name : String) (hproperties : w.bodyProperties heritage members ctx = .ok properties) :
      Made w node ctx { kind := .object, typeName := some name, properties }
  /-- A declared enum. -/
  | enum {declaration : Declaration} {members : List Member} {properties : List Shape}
      (hnode : node = .declaration declaration) (hform : declaration.form = .enum members)
      (hproperties : List.Forall₂
        (fun member s => w.describeMember ctx.basePath (some declaration.name) member = .ok s)
        members properties) :
      Made w node ctx { kind := .enum, typeName := some declaration.name, properties }
  /-- An operation. -/
  | function {params : List Parameter} {returns : TypeNode} {args : List Shape} {t : Shape}
      (location : Location) (hparams : params.length ≤ 1)
      (hargs : List.Forall₂ (fun param s => w.describeParameter param location ctx = .ok s)
        params args)
      (hreturns : w.describe (.type returns) (ctx.below ctx.basePath) = .ok t)
      (hoperates : Operates node ⟨params, some returns⟩) :
      Made w node ctx { kind := .function, args, returnType := some t }
  /-- The shape of a type in the same place, with other marks on it. -/
  | same {type : TypeNode} {t : Shape} (array nullable : Bool)
      (ht : w.describe (.type type) ctx = .ok t) : Made w node ctx { t with array, nullable }
  /-- The target of an alias. -/
  | target {type : TypeNode} {t : Shape} (name : String)
      (ht : w.describe (.type type) (ctx.ownedBy name) = .ok t) : Made w node ctx t
  /-- A declaration by its name, where it is described in full. -/
  | named {declaration : Declaration} {t : Shape} (hdeclared : w.program.Declares declaration)
      (ht : w.describe (.declaration declaration) (ctx.within declaration.name) = .ok t)
      (hexpands : ctx.expands = true) : Made w node ctx (ofDeclaration declaration t)
  /-- A model without arguments. -/
  | model {blueprint : TypeNode} {named : Option Declaration} {t : Shape} (force : Bool)
      (modelName : Option String)
      (ht : w.describe (.type blueprint) { ctx with flattens := ctx.flattens || force } = .ok t)
      (hwraps : Wraps w.program w.settings [blueprint] node named force) :
      Made w node ctx { t with modelName }
  /-- A model with arguments. -/
  | modelWith {blueprint args : TypeNode} {t s : Shape} (force : Bool)
      (named : Option Declaration) (location : Location)
      (hwraps : Wraps w.program w.settings [blueprint, args] node named force)
      (ht : w.describe (.type blueprint) { ctx with flattens := ctx.flattens || force } = .ok t)
      (hs : w.spliceArgs { t with modelName := wrapperModelName? w.program named blueprint } args
        location ctx = .ok s) : Made w node ctx s

variable {w : Walker Attempt} {node : Node} {ctx : Context} {location : Location} {s : Shape}

/-- The shape of a type in the same place, as it is. -/
theorem made_of_describe {type : TypeNode} (h : w.describe (.type type) ctx = .ok s) :
    w.Made node ctx s := by
  cases s
  exact .same _ _ h

/-- A union is made by the rule for its only alternative, for literals, or for
alternatives of several kinds. -/
theorem made_of_describeUnion {type : TypeNode} {types : List TypeNode}
    (hform : type.form = .union types) (h : w.describeUnion types location ctx = .ok s) :
    w.Made (.type type) ctx s := by
  rcases describeUnion_eq_ok.mp h with ⟨single, t, -, ht, rfl⟩ | ⟨hmany, t, ht, rfl⟩
  · exact .same t.array _ ht
  · rcases describeAlternatives_eq_ok.mp ht with ⟨literals, hliterals, ht⟩ | ⟨hmixed, ht⟩
    · obtain ⟨name, hname, -, rfl⟩ := literalEnum_eq_ok.mp ht
      exact .literals name literals _ rfl (by simp [enumLiterals?, hform, hmany, hliterals]) hname
    · obtain ⟨name, properties, hname, hproperties, rfl⟩ := mixedUnion_eq_ok.mp ht
      exact .union name _ hmany hproperties rfl (by simp [unionTypes?, hform, hmany, hmixed]) hname

/-- A body is made from inherited properties and own ones. -/
theorem made_of_describeBody {declaration : Declaration} {heritage : List TypeNode}
    {members : List Member} (h : w.describeBody declaration heritage members ctx = .ok s) :
    w.Made node ctx s := by
  rcases describeBody_eq_ok.mp h with ⟨-, rfl⟩ | ⟨-, -, properties, hproperties, rfl⟩
  · exact .nameOnly _
  · exact .body _ hproperties

/-- A wrapper has its blueprint in front, and its arguments behind if there are
any. -/
theorem wrapperParts?_eq_some {typeArgs : List TypeNode} {blueprint : TypeNode}
    {args : Option TypeNode} :
    wrapperParts? typeArgs = some (blueprint, args) ↔ typeArgs = blueprint :: args.toList := by
  unfold wrapperParts?
  split
  · cases args <;> simp
  · cases args <;> simp
  · next hone htwo =>
    cases args with
    | none => simpa using hone blueprint
    | some args => simpa using htwo blueprint args

/-- A model in place of its wrapper, wherever that stands: in full, or as a
link. -/
theorem made_of_describeWrapper {typeArgs : List TypeNode} {named : Option Declaration}
    {force : Bool} (hwraps : Wraps w.program w.settings typeArgs node named force)
    (h : w.describeWrapper typeArgs named location ctx force = .ok s) : w.Made node ctx s := by
  obtain ⟨blueprint, args, hparts, ⟨-, h⟩ | ⟨-, typeName, -, rfl⟩⟩ := describeWrapper_eq_ok.mp h
  · rw [wrapperParts?_eq_some.mp hparts] at hwraps
    obtain ⟨t, ht, ⟨rfl, rfl⟩ | ⟨given, rfl, hs⟩⟩ := expandWrapper_eq_ok.mp h
    · exact .model force _ ht hwraps
    · exact .modelWith force named location hwraps ht hs
  · exact .link _ _

/-- A type that is the name of a declaration: as a model, as the target of a
transparent alias, as a link, or as what is declared. -/
theorem made_of_describeUse {type : TypeNode} {declaration : Declaration}
    (hnames : Names w.program w.settings type.form declaration)
    (hdeclared : w.program.Declares declaration)
    (h : w.describeUse declaration location ctx = .ok s) : w.Made (.type type) ctx s := by
  rcases describeUse_eq_ok.mp h with
    ⟨target, args, hform, hwrapper, h⟩ | ⟨target, -, -, -, -, h⟩ | ⟨-, h⟩
  · exact made_of_describeWrapper (.named hnames hform hwrapper) h
  · exact made_of_describe h
  · rcases describeNamed_eq_ok.mp h with ⟨-, rfl⟩ | ⟨hexpands, h⟩
    · exact .link _ _
    · obtain ⟨t, ht, rfl⟩ := expandDeclaration_eq_ok.mp h
      exact .named hdeclared ht hexpands

/-- A function is made from its parameters and its return type. -/
theorem made_of_describeFunction {signature : Signature} (hoperates : Operates node signature)
    (h : w.describeFunction signature location ctx = .ok s) : w.Made node ctx s := by
  obtain ⟨params, _⟩ := signature
  obtain ⟨hparams, args, returns, t, hargs, rfl, ht, rfl⟩ := describeFunction_eq_ok.mp h
  exact .function location hparams hargs ht hoperates

/-- Each form of a type has its rule; names are described as what they denote. -/
theorem made_of_describeType {type : TypeNode} (h : w.describeType type ctx = .ok s) :
    w.Made (.type type) ctx s := by
  -- The cases are those of the match in `describeType`; the forms that it refuses come
  -- last.
  unfold describeType at h
  split at h
  case h_1 | h_2 | h_3 | h_4 =>
    cases Attempt.pure_eq_ok.mp h
    exact .primitive rfl
  case h_5 element =>
    obtain ⟨t, ht, hs⟩ := Attempt.bind_eq_ok.mp h
    cases Attempt.pure_eq_ok.mp hs
    exact .same true t.nullable ht
  case h_6 types hform => exact made_of_describeUnion hform h
  case h_7 value hform =>
    obtain ⟨name, hname, -, rfl⟩ := literalEnum_eq_ok.mp h
    exact .literals name _ false rfl (by simp [enumLiterals?, hform]) hname
  case h_8 members =>
    obtain ⟨properties, hproperties, hs⟩ := Attempt.bind_eq_ok.mp h
    cases Attempt.pure_eq_ok.mp hs
    exact .object hproperties
  case h_9 reference hform =>
    rcases describeReference_eq_ok.mp h with
      ⟨hwrapper, h⟩ | ⟨hplain, declaration, hresolve, hargs, hgeneric, h⟩
    · have hdenoted : denoted? w.program w.settings type.form =
          some (.wrapper reference.args false) := by
        simp [denoted?, hform, hwrapper]
      exact made_of_describeWrapper (.written hdenoted) h
    · have hnames : Names w.program w.settings type.form declaration := by
        rw [hform]
        exact ⟨denoted?_reference.mpr ⟨hplain, hresolve⟩, hargs, hgeneric⟩
      exact made_of_describeUse hnames (Program.resolve_declares hresolve) h
  case h_10 parts =>
    obtain ⟨properties, hproperties, hs⟩ := Attempt.bind_eq_ok.mp h
    cases Attempt.pure_eq_ok.mp hs
    exact .merged hproperties
  case h_11 link hform =>
    obtain ⟨name, hname, ⟨hwrapper, h⟩ | ⟨hplain, declaration, hresolve, hargs, hgeneric, h⟩⟩ :=
      describeImport_eq_ok.mp h
    · have hdenoted : denoted? w.program w.settings type.form =
          some (.wrapper link.args true) := by
        simp [denoted?, hform, hwrapper]
      exact made_of_describeWrapper (.written hdenoted) h
    · have hnames : Names w.program w.settings type.form declaration := by
        rw [hform]
        exact ⟨denoted?_imported.mpr ⟨hplain, name, hname, hresolve⟩, hargs, hgeneric⟩
      exact made_of_describeUse hnames (Program.resolveImport_declares hresolve) h
  case h_12 signature hform =>
    have hoperates : Operates (.type type) signature := by
      obtain ⟨form, location⟩ := type
      obtain rfl : form = .function signature := hform
      exact .function signature location
    exact made_of_describeFunction hoperates h
  all_goals simp at h

/-- So has each form of a declaration. -/
theorem made_of_describeDeclaration {declaration : Declaration}
    (h : w.describeDeclaration declaration ctx = .ok s) :
    w.Made (.declaration declaration) ctx s := by
  unfold describeDeclaration at h
  split at h
  · next target hform =>
    split at h
    · next hwrapper => exact made_of_describeWrapper (.declared hform hwrapper) h
    · exact .target _ h
  · exact made_of_describeBody h
  · exact made_of_describeBody h
  · next members hform =>
    rcases describeEnum_eq_ok.mp h with ⟨-, rfl⟩ | ⟨-, properties, hproperties, rfl⟩
    · exact .link _ _
    · exact .enum rfl hform hproperties

/-- A member is made as its type or its signature is. -/
theorem made_of_describeMemberType {member : Member}
    (h : w.describeMemberType member ctx = .ok s) : w.Made (.member member) ctx s := by
  rcases describeMemberType_eq_ok.mp h with ⟨type, -, h⟩ | ⟨signature, hform, h⟩ | ⟨-, rfl⟩
  · exact made_of_describe h
  · exact made_of_describeFunction (.method hform) h
  · exact .value

/-- Every node is made by one of the rules. -/
theorem made_of_describeNode (h : w.describeNode node ctx = .ok s) : w.Made node ctx s := by
  cases node with
  | type type => exact made_of_describeType h
  | declaration declaration => exact made_of_describeDeclaration h
  | member member => exact made_of_describeMemberType h

end Walker

/-- A walk makes every shape in one of these ways, and puts it at the path of
its context. -/
theorem made_of_describeWithin {program : Program} {settings : Settings} {levels : Nat}
    {node : Node} {ctx : Context} {s : Shape}
    (h : describeWithin program settings (levels + 1) node ctx = .ok s) :
    ∃ t, (walkerWithin program settings levels).Made node ctx t ∧ s = placed ctx t := by
  obtain ⟨t, ht, rfl⟩ := describeWithin_succ_eq_ok.mp h
  exact ⟨t, Walker.made_of_describeNode ht, rfl⟩

/-! ### Lists of properties -/

/-- Overriding moves properties, and makes none. -/
theorem mem_of_mem_overridden {own inherited : List Shape} {part : Shape}
    (h : part ∈ own.foldl override inherited) : part ∈ own ∨ part ∈ inherited := by
  rw [foldl_override_eq] at h
  rcases List.mem_append.mp h with hinherited | hown
  · exact .inr (List.mem_filter.mp hinherited).1
  · exact .inl ((lastOfEach_sublist own).subset hown)

/-- The parts of a merged shape are parts of one of those that it merges. -/
theorem mem_of_mem_flattened {w : Walker Attempt} {types : List TypeNode} {ctx : Context}
    {properties : List Shape} {part : Shape} (h : w.flattened types ctx = .ok properties)
    (hpart : part ∈ properties) :
    ∃ type ∈ types, ∃ whole, w.describe (.type type) ctx.flattening = .ok whole ∧
      part ∈ whole.properties := by
  obtain ⟨wholes, hwholes, rfl⟩ := Walker.flattened_eq_ok.mp h
  obtain ⟨whole, hwhole, hpart⟩ := List.mem_flatMap.mp hpart
  obtain ⟨type, htype, hdescribed⟩ := Attempt.exists_of_mem_right hwholes hwhole
  exact ⟨type, htype, whole, hdescribed, hpart⟩

/-- A property with one of `arguments` in place of the arguments that it has. -/
def Given (properties arguments : List Shape) (part : Shape) : Prop :=
  part ∈ properties ∨ ∃ property ∈ properties, ∃ argument ∈ arguments,
    argument.propertyName = property.propertyName ∧ part = { property with args := [argument] }

/-- What holds of properties and arguments with all below them, holds of a
property with an argument and of all below it, if the argument changes nothing
for the property itself. -/
theorem forall_mem_walk_of_given {P : Shape → Prop} {properties arguments : List Shape}
    {part : Shape}
    (hgive : ∀ property argument, P property → P argument → P { property with args := [argument] })
    (hproperties : ∀ part ∈ properties, ∀ n ∈ part.walk, P n)
    (harguments : ∀ part ∈ arguments, ∀ n ∈ part.walk, P n)
    (h : Given properties arguments part) : ∀ n ∈ part.walk, P n := by
  rcases h with hold | ⟨property, hproperty, argument, hargument, -, rfl⟩
  · exact hproperties part hold
  · -- The property itself and its own parts stay; the argument is new.
    obtain ⟨hhere, hparts, -, hreturn⟩ := Shape.forall_mem_walk.mp (hproperties property hproperty)
    have hgiven := harguments argument hargument
    have hargument : P argument := (Shape.forall_mem_walk.mp hgiven).1
    exact Shape.forall_mem_walk.mpr ⟨hgive property argument hhere hargument, hparts,
      List.forall_mem_singleton.mpr hgiven, hreturn⟩

section

variable {label : String} {arguments properties spliced : List Shape}

/-- A property of a model is as it was, or has one of the arguments. -/
theorem given_of_mem_spliced {part : Shape}
    (h : (arguments.foldlM (spliceArg label) properties : Attempt (List Shape)) = .ok spliced)
    (hpart : part ∈ spliced) : Given properties arguments part := by
  obtain ⟨-, rfl⟩ := foldlM_spliceArg_eq_ok.mp h
  obtain ⟨property, hproperty, rfl | ⟨argument, hargument, hname, rfl⟩⟩ :=
    Attempt.exists_of_mem_right (forall₂_giveEach arguments properties) hpart
  · exact .inl hproperty
  · exact .inr ⟨property, hproperty, argument, hargument, hname, rfl⟩

/-- Arguments neither add a property nor take one away. -/
theorem length_spliced
    (h : (arguments.foldlM (spliceArg label) properties : Attempt (List Shape)) = .ok spliced) :
    spliced.length = properties.length := by
  obtain ⟨-, rfl⟩ := foldlM_spliceArg_eq_ok.mp h
  exact List.length_mapIdx

end

end AppMetadata.Expansion
