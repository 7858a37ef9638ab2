import AppMetadata.Program
import AppMetadata.SourceFiles

/-!
# `AppMetadata.Program.Resolution`: what a name denotes

A name is looked up in the scope of the module in which it is written: among
its declarations, then among its imports, which lead to the exports of other
modules. Exports may be re-exports again, so a lookup takes hops from module
to module; after `maxHops` of them it gives up, which also ends it on cycles.
-/

set_option autoImplicit false

namespace AppMetadata

/-- What a name denotes. -/
inductive Resolved
  | declaration (declaration : Declaration)
  /-- Something in a package, which is not part of the program. -/
  | external (specifier imported : String)
  | missing

/-- Whether a name denotes nothing. -/
def Resolved.isMissing : Resolved → Bool
  | missing => true
  | _ => false

namespace Program

/-- The number of hops that a lookup takes at most. -/
def maxHops : Nat := 32

/-- The item `name` of the file that `specifier` stands for in `scope`, where
`exported` looks up the exports of a module. -/
def lookupIn (program : Program) (exported : LinkedModule → String → Resolved)
    (scope : LinkedModule) (specifier name : String) : Resolved :=
  match program.linked? scope specifier with
  | some target => exported target name
  | none =>
    if SourceFiles.isRelative specifier then .missing else .external specifier name

/-- The item that an import binds. A namespace is none. -/
def followBinding (program : Program) (exported : LinkedModule → String → Resolved)
    (scope : LinkedModule) (binding : ImportBinding) : Resolved :=
  match binding.imported with
  | .named name => program.lookupIn exported scope binding.specifier name
  | .default => program.lookupIn exported scope binding.specifier "default"
  | .namespace => .missing

/-- The first answer of `lookup` for one of `specifiers`. -/
def firstFound (lookup : String → Resolved) : List String → Resolved
  | [] => .missing
  | specifier :: specifiers =>
    match lookup specifier with
    | .missing => firstFound lookup specifiers
    | found => found

mutual

/-- What `name` denotes inside `scope`, in at most `hops` further hops. -/
def lookupLocal (program : Program) :
    (hops : Nat) → (scope : LinkedModule) → (name : String) → Resolved
  | 0, _, _ => .missing
  | hops + 1, scope, name =>
    match scope.declarations.lookup name with
    | some declaration => .declaration declaration
    | none =>
      match scope.imports.lookup name with
      | some binding => program.followBinding (lookupExport program hops) scope binding
      | none => .missing

/-- What `scope` exports as `name`, in at most `hops` further hops: a local
name under another name, a re-export, a local name, or an item of one of the
files whose exports are all exported. -/
def lookupExport (program : Program) :
    (hops : Nat) → (scope : LinkedModule) → (name : String) → Resolved
  | 0, _, _ => .missing
  | hops + 1, scope, name =>
    match scope.localAliases.lookup name with
    | some localName => lookupLocal program hops scope localName
    | none =>
      match scope.reexports.lookup name with
      | some binding => program.followBinding (lookupExport program hops) scope binding
      | none =>
        match lookupLocal program hops scope name with
        | .missing =>
          firstFound (fun specifier =>
            program.lookupIn (lookupExport program hops) scope specifier name)
            scope.starExports
        | found => found

end

/-- The name of the module and of its member in a name with one dot. -/
def namespaceMember? : EntityName → Option (String × String)
  | .qualified [space, member] => some (space, member)
  | _ => none

/-- What `name` denotes where it is written in the module `scope`. A name
with a dot is a member of an imported namespace. -/
def resolve (program : Program) (scope : ModuleId) (name : EntityName) : Resolved :=
  match program.module? scope with
  | none => .missing
  | some scope =>
    match name with
    | .identifier name => program.lookupLocal (maxHops + 1) scope name
    | .qualified _ =>
      match namespaceMember? name with
      | none => .missing
      | some (space, member) =>
        match scope.imports.lookup space with
        | some ⟨specifier, .namespace⟩ =>
          program.lookupIn (program.lookupExport (maxHops + 1)) scope specifier member
        | _ => .missing

/-- What `import("specifier").name` denotes in the module `scope`. A name with
a dot is a member of a namespace that the file re-exports. -/
def resolveImport (program : Program) (scope : ModuleId) (specifier : String)
    (name : EntityName) : Resolved :=
  match program.module? scope with
  | none => .missing
  | some scope =>
    match name with
    | .identifier name =>
      program.lookupIn (program.lookupExport (maxHops + 1)) scope specifier name
    | .qualified _ =>
      match namespaceMember? name, program.linked? scope specifier with
      | some (space, member), some target =>
        match target.reexports.lookup space with
        | some ⟨inner, .namespace⟩ =>
          program.lookupIn (program.lookupExport maxHops) target inner member
        | _ => .missing
      | _, _ => .missing

end Program

end AppMetadata
