import AppMetadata.Program.Resolution
import AppMetadata.Settings

/-!
# `AppMetadata.Expansion.Wrapper`: model wrappers and transparent aliases

Two kinds of names are not types of their own. A model wrapper
`Model<Blueprint, Args>` stands for its blueprint with arguments added. An
alias of a primitive type (`type ID = string`) stands for that type wherever
it is used (`isTransparent`).
-/

set_option autoImplicit false

namespace AppMetadata.Expansion

/-- Whether a reference is a model wrapper: its last part is the wrapper's
name, and it comes from a package, from nowhere, or from a generic
declaration. -/
def isWrapper (program : Program) (settings : Settings) (reference : Reference) : Bool :=
  reference.name.last == settings.modelWrapper &&
    match program.resolve reference.scope reference.name with
    | .external _ imported => imported == settings.modelWrapper
    | .missing => true
    | .declaration declaration => declaration.isGeneric

/-- Whether an import type names the model wrapper. -/
def isImportedWrapper (settings : Settings) (link : ImportType) : Bool :=
  link.name.bind EntityName.identifier? == some settings.modelWrapper

/-- The arguments of a type that is a model wrapper. -/
def wrapperArgs? (program : Program) (settings : Settings) (type : TypeNode) :
    Option (List TypeNode) :=
  match type.form with
  | .reference reference =>
    if isWrapper program settings reference then some reference.args else none
  | .imported link => if isImportedWrapper settings link then some link.args else none
  | _ => none

/-- The blueprint and the arguments among the type arguments of a wrapper. -/
def wrapperParts? : List TypeNode → Option (TypeNode × Option TypeNode)
  | [blueprint] => some (blueprint, none)
  | [blueprint, args] => some (blueprint, some args)
  | _ => none

/-- The name of the declaration that a blueprint refers to. -/
def blueprintName? (program : Program) (blueprint : TypeNode) : Option String :=
  match blueprint.form with
  | .reference reference =>
    match program.resolve reference.scope reference.name with
    | .declaration declaration => some declaration.name
    | _ => none
  | .imported link =>
    link.name.map fun name =>
      match program.resolveImport link.scope link.specifier name with
      | .declaration declaration => declaration.name
      | _ => name.last
  | _ => none

/-- The number of aliases of aliases that are followed. -/
def maxAliasHops : Nat := 8

/-- The target of a plain alias that `reference` denotes. -/
def aliasTarget? (program : Program) (reference : Reference) : Option TypeNode :=
  match program.resolve reference.scope reference.name with
  | .declaration { form := .typeAlias target, isGeneric := false, .. } => some target
  | _ => none

mutual

/-- Whether a type is a keyword, an array of a transparent type, or a union
of one transparent type with `null` and `undefined`; `follow` says whether a
reference is transparent. -/
def typeTransparent (follow : Reference → Bool) : TypeNode → Bool
  | ⟨form, _⟩ => formTransparent follow form

/-- Whether a form is transparent. -/
def formTransparent (follow : Reference → Bool) : TypeForm → Bool
  | .keyword _ => true
  | .array element => typeTransparent follow element
  | .union alternatives => transparencies follow alternatives == [true]
  | .reference reference => follow reference
  | _ => false

/-- For each of `types` other than `null` and `undefined`, whether it is
transparent. -/
def transparencies (follow : Reference → Bool) : List TypeNode → List Bool
  | [] => []
  | type :: types =>
    if type.form.isAbsence then transparencies follow types
    else typeTransparent follow type :: transparencies follow types

end

/-- Whether a type is transparent if at most `hops` aliases are followed. -/
def isTransparent (program : Program) : (hops : Nat) → TypeNode → Bool
  | 0 => typeTransparent fun _ => false
  | hops + 1 =>
    typeTransparent fun reference =>
      (aliasTarget? program reference).any (isTransparent program hops)

end AppMetadata.Expansion
