import AppMetadata.Doc
import AppMetadata.Source.Location

/-!
# `AppMetadata.Tree`: declarations and types as they are written

The tree of a source module keeps what metadata is made from: declarations,
their members, and types. Every node knows where it stands, and every name
the module in whose scope it is looked up. Whatever the tree has no form for
is kept as its source text.
-/

set_option autoImplicit false

namespace AppMetadata

/-- A module by its position in the program. -/
abbrev ModuleId := Nat

/-- The names of built-in types. -/
inductive Keyword
  | number
  | string
  | boolean
  | bigint
  | null
  | undefined
  /-- A built-in type that metadata cannot describe. -/
  | other (name : String)
deriving DecidableEq, Repr

/-- The word for a built-in type. -/
def Keyword.text : Keyword → String
  | number => "number"
  | string => "string"
  | boolean => "boolean"
  | bigint => "bigint"
  | null => "null"
  | undefined => "undefined"
  | other name => name

/-- A name as it is written: plain, or with dots. -/
inductive EntityName
  | identifier (name : String)
  | qualified (parts : List String)
deriving DecidableEq, Repr

namespace EntityName

/-- The name, if it is plain. -/
def identifier? : EntityName → Option String
  | identifier name => some name
  | qualified _ => none

/-- The part after the last dot. -/
def last : EntityName → String
  | identifier name => name
  | qualified parts => parts.getLast?.getD ""

/-- The name with its dots. -/
def text : EntityName → String
  | identifier name => name
  | qualified parts => ".".intercalate parts

/-- The name followed by a dot and `part`. -/
def member (name : EntityName) (part : String) : EntityName :=
  match name with
  | identifier first => qualified [first, part]
  | qualified parts => qualified (parts ++ [part])

end EntityName

/-- The value that an enum gives to a member. -/
inductive EnumValue
  | string (value : String)
  /-- Any other expression, by its source text. -/
  | other (source : String)
deriving DecidableEq, Repr

mutual

/-- A type and where it starts. -/
structure TypeNode where
  form : TypeForm
  location : Location

/-- The forms of a type. -/
inductive TypeForm
  | keyword (keyword : Keyword)
  | stringLiteral (value : String)
  /-- Any other literal, by its source text. -/
  | literal (source : String)
  | array (element : TypeNode)
  | union (alternatives : List TypeNode)
  | intersection (parts : List TypeNode)
  | object (members : List Member)
  | reference (reference : Reference)
  | imported (link : ImportType)
  | function (signature : Signature)
  /-- Any other type, by its source text. -/
  | unsupported (source : String)

/-- A name with type arguments, looked up in the module `scope`. -/
structure Reference where
  name : EntityName
  args : List TypeNode
  scope : ModuleId

/-- `import("specifier").name` with type arguments, written in the module
`scope`. -/
structure ImportType where
  specifier : String
  name : Option EntityName
  args : List TypeNode
  scope : ModuleId

/-- Parameters and return type of a function. -/
structure Signature where
  params : List Parameter
  returns : Option TypeNode

/-- One parameter. -/
structure Parameter where
  name : String
  isOptional : Bool
  type : Option TypeNode

/-- A member of an object type, interface, class or enum. -/
structure Member where
  name : String
  form : MemberForm
  isOptional : Bool
  doc : Doc
  location : Location

/-- The forms of a member. -/
inductive MemberForm
  /-- A property of an object type or interface. -/
  | signature (type : Option TypeNode)
  /-- A property of a class. -/
  | field (type : Option TypeNode)
  | method (signature : Signature)
  | enumMember (value : Option EnumValue)
  /-- Any other member, described, with the specifiers of the import types in
  it. -/
  | unsupported (description : String) (mentions : List String)

end

instance : Inhabited TypeNode := ⟨⟨.unsupported "", {}⟩⟩

instance : Inhabited Signature := ⟨⟨[], none⟩⟩

instance : Inhabited Member := ⟨⟨"", .unsupported "" [], false, {}, {}⟩⟩

mutual

/-- Whether `keyword` is a type or, at any depth of unions, one of its
alternatives. -/
def TypeNode.admits (keyword : Keyword) : TypeNode → Bool
  | ⟨form, _⟩ => form.admits keyword

/-- Whether `keyword` is a type of this form or one of its alternatives. -/
def TypeForm.admits (keyword : Keyword) : TypeForm → Bool
  | .union alternatives => anyAdmits keyword alternatives
  | .keyword found => found == keyword
  | _ => false

/-- Whether one of `types` admits `keyword`. -/
def anyAdmits (keyword : Keyword) : List TypeNode → Bool
  | [] => false
  | type :: types => type.admits keyword || anyAdmits keyword types

end

mutual

/-- The alternatives of a type: those of a union, with nested unions opened,
or the type itself. -/
def TypeNode.alternatives : TypeNode → List TypeNode
  | type@⟨form, _⟩ => form.alternatives type

/-- The alternatives of a form; `whole` is the type of this form. -/
def TypeForm.alternatives (whole : TypeNode) : TypeForm → List TypeNode
  | .union types => alternativesOf types
  | _ => [whole]

/-- The alternatives of all of `types`, in order. -/
def alternativesOf : List TypeNode → List TypeNode
  | [] => []
  | type :: types => type.alternatives ++ alternativesOf types

end

namespace TypeForm

/-- Whether a form is `null` or `undefined`. -/
def isAbsence : TypeForm → Bool
  | keyword .null | keyword .undefined => true
  | _ => false

/-- Whether a form is `null`. -/
def isNull : TypeForm → Bool
  | keyword .null => true
  | _ => false

/-- The value of a string literal. -/
def stringLiteral? : TypeForm → Option String
  | stringLiteral value => some value
  | _ => none

end TypeForm

/-- The alternatives of a union of `types` that are values: all but `null` and
`undefined`. -/
def presentOf (types : List TypeNode) : List TypeNode :=
  (alternativesOf types).filter (!·.form.isAbsence)

/-- Whether `null` is an alternative of a union of `types`. -/
def admitNull (types : List TypeNode) : Bool :=
  (alternativesOf types).any (·.form.isNull)

namespace Member

/-- The type that a property is declared with. -/
def type? (member : Member) : Option TypeNode :=
  match member.form with
  | .signature type | .field type => type
  | _ => none

/-- Whether the declared type of a property admits `undefined`. -/
def admitsUndefined (member : Member) : Bool :=
  member.type?.any (·.admits .undefined)

end Member

mutual

/-- The specifiers of the import types in a type. -/
def TypeNode.mentions : TypeNode → List String
  | ⟨form, _⟩ => form.mentions

/-- The specifiers of the import types in a form. -/
def TypeForm.mentions : TypeForm → List String
  | .array element => element.mentions
  | .union types | .intersection types => mentionsOfTypes types
  | .object members => mentionsOfMembers members
  | .reference reference => reference.mentions
  | .imported link => link.mentions
  | .function signature => signature.mentions
  | _ => []

/-- The specifiers of the import types in type arguments. -/
def Reference.mentions : Reference → List String
  | ⟨_, args, _⟩ => mentionsOfTypes args

/-- The specifier of an import type and of those in its arguments. -/
def ImportType.mentions : ImportType → List String
  | ⟨specifier, _, args, _⟩ => specifier :: mentionsOfTypes args

/-- The specifiers of the import types in a signature. -/
def Signature.mentions : Signature → List String
  | ⟨params, returns⟩ => mentionsOfParams params ++ mentionsOfOption returns

/-- The specifiers of the import types in a parameter. -/
def Parameter.mentions : Parameter → List String
  | ⟨_, _, type⟩ => mentionsOfOption type

/-- The specifiers of the import types in a member. -/
def Member.mentions : Member → List String
  | ⟨_, form, _, _, _⟩ => form.mentions

/-- The specifiers of the import types in a member's form. -/
def MemberForm.mentions : MemberForm → List String
  | .signature type | .field type => mentionsOfOption type
  | .method signature => signature.mentions
  | .enumMember _ => []
  | .unsupported _ mentions => mentions

/-- The specifiers of the import types in a list of types. -/
def mentionsOfTypes : List TypeNode → List String
  | [] => []
  | type :: types => type.mentions ++ mentionsOfTypes types

/-- The specifiers of the import types in a list of members. -/
def mentionsOfMembers : List Member → List String
  | [] => []
  | member :: members => member.mentions ++ mentionsOfMembers members

/-- The specifiers of the import types in a list of parameters. -/
def mentionsOfParams : List Parameter → List String
  | [] => []
  | param :: params => param.mentions ++ mentionsOfParams params

/-- The specifiers of the import types in a type, if there is one. -/
def mentionsOfOption : Option TypeNode → List String
  | none => []
  | some type => type.mentions

end

/-- What a declaration declares. -/
inductive DeclarationForm
  | typeAlias (target : TypeNode)
  | interface (heritage : List TypeNode) (members : List Member)
  | classType (heritage : Option TypeNode) (members : List Member)
  | enum (members : List Member)

/-- A declared name. -/
structure Declaration where
  name : String
  form : DeclarationForm
  doc : Doc
  /-- The module that declares it. -/
  scope : ModuleId
  location : Location
  /-- Whether it takes type parameters. -/
  isGeneric : Bool

/-- The specifiers of the import types in a declaration. -/
def Declaration.mentions (declaration : Declaration) : List String :=
  match declaration.form with
  | .typeAlias target => target.mentions
  | .interface heritage members => mentionsOfTypes heritage ++ mentionsOfMembers members
  | .classType heritage members => mentionsOfOption heritage ++ mentionsOfMembers members
  | .enum _ => []

/-- The kinds of nodes. -/
inductive Category
  | numberKeyword
  | stringKeyword
  | booleanKeyword
  | bigintKeyword
  | otherKeyword
  | stringLiteral
  | otherLiteral
  | typeAlias
  | signature
  | field
  | method
  | array
  | union
  | typeLiteral
  | reference
  | intersection
  | classType
  | interface
  | enum
  | enumMember
  | importType
  | function
  | unsupported
deriving DecidableEq, Repr

/-- A category in words. -/
def Category.text : Category → String
  | numberKeyword => "number keyword"
  | stringKeyword => "string keyword"
  | booleanKeyword => "boolean keyword"
  | bigintKeyword => "bigint keyword"
  | otherKeyword => "keyword"
  | stringLiteral => "string literal type"
  | otherLiteral => "literal type"
  | typeAlias => "type alias"
  | signature => "property signature"
  | field => "property declaration"
  | method => "method signature"
  | array => "array type"
  | union => "union type"
  | typeLiteral => "type literal"
  | reference => "type reference"
  | intersection => "intersection type"
  | classType => "class declaration"
  | interface => "interface declaration"
  | enum => "enum declaration"
  | enumMember => "enum member"
  | importType => "import type"
  | function => "function type"
  | unsupported => "unsupported syntax"

/-- Any node of a tree. -/
inductive Node
  | type (type : TypeNode)
  | declaration (declaration : Declaration)
  | member (member : Member)

namespace Node

/-- The category of a type. -/
def typeCategory : TypeForm → Category
  | .keyword .number => .numberKeyword
  | .keyword .string => .stringKeyword
  | .keyword .boolean => .booleanKeyword
  | .keyword .bigint => .bigintKeyword
  | .keyword _ => .otherKeyword
  | .stringLiteral _ => .stringLiteral
  | .literal _ => .otherLiteral
  | .array _ => .array
  | .union _ => .union
  | .intersection _ => .intersection
  | .object _ => .typeLiteral
  | .reference _ => .reference
  | .imported _ => .importType
  | .function _ => .function
  | .unsupported _ => .unsupported

/-- The category of a node. -/
def category : Node → Category
  | type node => typeCategory node.form
  | declaration node =>
    match node.form with
    | .typeAlias _ => .typeAlias
    | .interface _ _ => .interface
    | .classType _ _ => .classType
    | .enum _ => .enum
  | member node =>
    match node.form with
    | .signature _ => .signature
    | .field _ => .field
    | .method _ => .method
    | .enumMember _ => .enumMember
    | .unsupported _ _ => .unsupported

/-- Where a node starts. -/
def location : Node → Location
  | type node => node.location
  | declaration node => node.location
  | member node => node.location

end Node

end AppMetadata
