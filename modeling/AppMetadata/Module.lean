import AppMetadata.Table
import AppMetadata.Tree
import AppMetadata.Path

/-!
# `AppMetadata.Module`: what one source file declares, imports and exports

A source file is a sequence of statements. `Module.ofStatements` enters them
one after the other into the tables of a module: declarations (interfaces of
one name are merged, otherwise the first declaration of a name counts),
imports and re-exports by name, and the list of exported items.
-/

set_option autoImplicit false

namespace AppMetadata

/-- What an import takes from another module. -/
inductive ImportedName
  | named (name : String)
  | default
  | namespace
deriving DecidableEq, Repr

/-- The other side of an import or re-export. -/
structure ImportBinding where
  specifier : String
  imported : ImportedName
deriving DecidableEq, Repr

/-- A call that gives a variable its value. -/
structure InitialCall where
  /-- The function called: its name, or its source text. -/
  callee : String
  typeArgs : List TypeNode
  location : Location

/-- What an export statement exports. -/
inductive ExportKind
  | variable (call : Option InitialCall)
  | function
  | classType
  | enum
  | typeAlias
  | interface
  /-- A name in braces. -/
  | specifier
  | default
  | other

/-- One exported item. -/
structure Export where
  name : String
  kind : ExportKind
  location : Location
  /-- Whether only the type of the item is exported. -/
  typeOnly : Bool := false

/-- What a declarator binds. -/
inductive Binding
  | name (name : String)
  /-- A pattern, with the names in it. -/
  | pattern (names : List String)
deriving DecidableEq, Repr

/-- One variable of a variable statement. -/
structure Declarator where
  binding : Binding
  call : Option InitialCall
  location : Location

/-- One item of an export clause. -/
structure ExportSpecifier where
  localName : String
  exported : String
  typeOnly : Bool
  location : Location

/-- A statement at the top of a source file, as far as it matters to other
files. -/
inductive Statement
  | imports (bindings : List (String × ImportBinding))
  | declare (declaration : Declaration)
  /-- An exported declaration; the location is that of the export. -/
  | exportDeclaration (declaration : Declaration) (location : Location)
  | exportFunction (name : String) (location : Location)
  | exportVariables (declarators : List Declarator)
  /-- Another exported declaration, by its source text. -/
  | exportOther (source : String) (location : Location)
  /-- A list of names, from this file or another. -/
  | exportClause (specifiers : List ExportSpecifier) (source : Option String)
  | exportAll (specifier : String)
  /-- The namespace of another file, or only the types in it. -/
  | exportNamespace (name specifier : String) (typeOnly : Bool)
  /-- `export default` or `export =`. -/
  | exportDefault (location : Location)
  /-- Any other statement. -/
  | other

/-- What a source file declares, imports and exports. -/
structure Module where
  path : Path
  declarations : Table Declaration := []
  imports : Table ImportBinding := []
  /-- Names exported from another file. -/
  reexports : Table ImportBinding := []
  /-- The files whose exports are all exported. -/
  starExports : List String := []
  exports : List Export := []
  /-- Declared or imported names by the other name under which they are
  exported. -/
  localAliases : Table String := []
  /-- The specifiers of import types. -/
  typeImports : List String := []

namespace DeclarationForm

/-- The kind of export that a declaration makes. -/
def exportKind : DeclarationForm → ExportKind
  | typeAlias _ => .typeAlias
  | interface _ _ => .interface
  | classType _ _ => .classType
  | enum _ => .enum

/-- Whether only types are declared. -/
def typeOnly : DeclarationForm → Bool
  | typeAlias _ | interface _ _ => true
  | classType _ _ | enum _ => false

/-- An interface with the heritage and members of a second one added;
nothing else is changed by a second declaration. -/
def merge (first second : DeclarationForm) : DeclarationForm :=
  match first, second with
  | interface heritage members, interface moreHeritage moreMembers =>
    interface (heritage ++ moreHeritage) (members ++ moreMembers)
  | first, _ => first

end DeclarationForm

namespace Module

/-- Enters a declaration: the first one of a name keeps its place and all
but what merging adds. -/
def mergeInto (declaration : Declaration) : Table Declaration → Table Declaration
  | [] => [(declaration.name, declaration)]
  | (name, first) :: entries =>
    if name = declaration.name then
      (name, { first with form := first.form.merge declaration.form }) :: entries
    else (name, first) :: mergeInto declaration entries

/-- Enters a declaration and the import types in it. -/
def declare (module : Module) (declaration : Declaration) : Module :=
  { module with
    declarations := mergeInto declaration module.declarations
    typeImports := module.typeImports ++ declaration.mentions }

/-- Adds an exported item. -/
def addExport (module : Module) (item : Export) : Module :=
  { module with exports := module.exports ++ [item] }

/-- The item that a declarator exports; patterns export none. -/
def exportOfDeclarator? (declarator : Declarator) : Option Export :=
  match declarator.binding with
  | .name name => some ⟨name, .variable declarator.call, declarator.location, false⟩
  | .pattern _ => none

/-- The import types in the initial call of a declarator that exports an
item. -/
def mentionsOfDeclarator (declarator : Declarator) : List String :=
  match declarator.binding, declarator.call with
  | .name _, some call => mentionsOfTypes call.typeArgs
  | _, _ => []

/-- Enters one name of an export clause. -/
def enterSpecifier (source : Option String) (module : Module) (item : ExportSpecifier) :
    Module :=
  let module :=
    match source with
    | some specifier =>
      { module with
        reexports := module.reexports.put item.exported ⟨specifier, .named item.localName⟩ }
    | none =>
      if item.localName = item.exported then module
      else { module with localAliases := module.localAliases.put item.exported item.localName }
  module.addExport ⟨item.exported, .specifier, item.location, item.typeOnly⟩

/-- Enters a statement. -/
def enter (module : Module) : Statement → Module
  | .imports bindings =>
    { module with
      imports := bindings.foldl (fun table entry => table.put entry.1 entry.2) module.imports }
  | .declare declaration => module.declare declaration
  | .exportDeclaration declaration location =>
    (module.declare declaration).addExport
      ⟨declaration.name, declaration.form.exportKind, location, declaration.form.typeOnly⟩
  | .exportFunction name location => module.addExport ⟨name, .function, location, false⟩
  | .exportVariables declarators =>
    { module with
      exports := module.exports ++ declarators.filterMap exportOfDeclarator?
      typeImports := module.typeImports ++ declarators.flatMap mentionsOfDeclarator }
  | .exportOther source location => module.addExport ⟨source, .other, location, false⟩
  | .exportClause specifiers source => specifiers.foldl (enterSpecifier source) module
  | .exportAll specifier =>
    { module with starExports := module.starExports ++ [specifier] }
  | .exportNamespace name specifier _ =>
    { module with reexports := module.reexports.put name ⟨specifier, .namespace⟩ }
  | .exportDefault location => module.addExport ⟨"default", .default, location, false⟩
  | .other => module

/-- The module of the statements of the file at `path`. -/
def ofStatements (path : Path) (statements : List Statement) : Module :=
  statements.foldl enter { path := path }

/-- Every specifier that the file mentions, each once, sorted. -/
def specifiers (module : Module) : List String :=
  let mentioned :=
    module.imports.values.map (·.specifier) ++ module.reexports.values.map (·.specifier) ++
      module.starExports ++ module.typeImports
  (mentioned.mergeSort fun a b => decide (a ≤ b)).eraseDups

end Module

end AppMetadata
