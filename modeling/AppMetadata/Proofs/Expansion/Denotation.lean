import AppMetadata.Expansion

/-!
# `AppMetadata.Proofs.Expansion.Denotation`: what a type stands for

A reference or an import type is no structure of its own. It denotes a
declaration, or a model, and what it denotes is looked up in the program
(`denoted?`). A model wrapper is written in place, named by an alias, or is
what an alias declares (`Wraps`); its blueprint and its arguments are described
in contexts of their own (`blueprintContext`, `argsContext`).

* `denoted?_reference`, `denoted?_imported`: when a type denotes a declaration.
* `wrapperArgs?_eq`: the test for wrappers is one for what a type denotes.
* `Wraps.importsModel`: only an import type asks for a full description.
-/

set_option autoImplicit false

namespace AppMetadata.Expansion

/-! ### Lookups -/

/-- What a type that is no structure of its own stands for. -/
inductive Denoted
  /-- A model with these type arguments; `force` if it is an import type, so
  that it is described in full wherever it stands. -/
  | wrapper (typeArgs : List TypeNode) (force : Bool)
  | declaration (declaration : Declaration)

/-- The declaration that a lookup leads to. -/
def denotedBy? : Resolved → Option Denoted
  | .declaration declaration => some (.declaration declaration)
  | _ => none

/-- What a reference or an import type denotes; none for every other type. -/
def denoted? (program : Program) (settings : Settings) : TypeForm → Option Denoted
  | .reference reference =>
    if isWrapper program settings reference then some (.wrapper reference.args false)
    else denotedBy? (program.resolve reference.scope reference.name)
  | .imported link =>
    if isImportedWrapper settings link then some (.wrapper link.args true)
    else link.name.bind fun name =>
      denotedBy? (program.resolveImport link.scope link.specifier name)
  | _ => none

/-- The type arguments that a reference or an import type is used with. -/
def nameArgs : TypeForm → List TypeNode
  | .reference reference => reference.args
  | .imported link => link.args
  | _ => []

/-- A lookup denotes what it found. -/
theorem denotedBy?_eq_declaration {resolved : Resolved} {declaration : Declaration} :
    denotedBy? resolved = some (.declaration declaration) ↔
      resolved = .declaration declaration := by
  cases resolved <;> simp [denotedBy?]

/-- No lookup leads to a model: a wrapper is told by its name alone. -/
theorem denotedBy?_ne_wrapper {resolved : Resolved} {typeArgs : List TypeNode} {force : Bool} :
    denotedBy? resolved ≠ some (.wrapper typeArgs force) := by
  cases resolved <;> nofun

/-- A reference denotes a declaration unless it is a wrapper. -/
theorem denoted?_reference {program : Program} {settings : Settings} {reference : Reference}
    {declaration : Declaration} :
    denoted? program settings (.reference reference) = some (.declaration declaration) ↔
      isWrapper program settings reference = false ∧
        program.resolve reference.scope reference.name = .declaration declaration := by
  show (if isWrapper program settings reference then _ else _) = _ ↔ _
  split
  · next hwrapper => simp [hwrapper]
  · next hplain => simp [hplain, denotedBy?_eq_declaration]

/-- So does an import type with a name. -/
theorem denoted?_imported {program : Program} {settings : Settings} {link : ImportType}
    {declaration : Declaration} :
    denoted? program settings (.imported link) = some (.declaration declaration) ↔
      isImportedWrapper settings link = false ∧ ∃ name, link.name = some name ∧
        program.resolveImport link.scope link.specifier name = .declaration declaration := by
  show (if isImportedWrapper settings link then _ else _) = _ ↔ _
  split
  · next hwrapper => simp [hwrapper]
  · next hplain => simp [hplain, denotedBy?_eq_declaration, Option.bind_eq_some_iff]

/-- A type is a wrapper exactly if it denotes one. -/
theorem wrapperArgs?_eq {program : Program} {settings : Settings} (type : TypeNode) :
    wrapperArgs? program settings type =
      match denoted? program settings type.form with
      | some (.wrapper typeArgs _) => some typeArgs
      | _ => none := by
  -- A lookup never gives a wrapper, so on that side the match has nothing to find.
  have hlookup (resolved : Resolved) :
      (match denotedBy? resolved with
        | some (.wrapper typeArgs _) => some typeArgs
        | _ => none) = (none : Option (List TypeNode)) := by
    cases resolved <;> rfl
  unfold wrapperArgs? denoted?
  cases type.form with
  | reference reference =>
    dsimp only
    split
    · rfl
    · rw [hlookup]
  | imported link =>
    dsimp only
    split
    · rfl
    · cases link.name with
      | none => rfl
      | some name => rw [Option.bind_some, hlookup]
  | _ => rfl

/-- A type of this form is the name of a declaration. One that is generic, or
is used with type arguments, has no shape (`describeType_eq_ok_of_denoted`). -/
structure Names (program : Program) (settings : Settings) (form : TypeForm)
    (declaration : Declaration) : Prop where
  denoted : denoted? program settings form = some (.declaration declaration)
  args : nameArgs form = []
  plain : declaration.isGeneric = false

/-! ### Model wrappers -/

/-- A node that is an import type and a model wrapper. -/
def ImportsModel (settings : Settings) (node : Node) : Prop :=
  ∃ link location, node = .type ⟨.imported link, location⟩ ∧
    isImportedWrapper settings link = true

/-- Where a node is a model wrapper with these type arguments: the alias that
names the model, and whether it is described in full wherever it stands. -/
inductive Wraps (program : Program) (settings : Settings) (typeArgs : List TypeNode) :
    Node → Option Declaration → Bool → Prop
  | written {type : TypeNode} {force : Bool}
    (hdenoted : denoted? program settings type.form = some (.wrapper typeArgs force)) :
    Wraps program settings typeArgs (.type type) none force
  | named {type target : TypeNode} {declaration : Declaration}
    (hnames : Names program settings type.form declaration)
    (hform : declaration.form = .typeAlias target)
    (htarget : wrapperArgs? program settings target = some typeArgs) :
    Wraps program settings typeArgs (.type type) (some declaration) false
  | declared {target : TypeNode} {declaration : Declaration}
    (hform : declaration.form = .typeAlias target)
    (htarget : wrapperArgs? program settings target = some typeArgs) :
    Wraps program settings typeArgs (.declaration declaration) (some declaration) false

/-- A wrapper that is described in full wherever it stands is an import type.
The alias of one is described as its context asks for. -/
theorem Wraps.importsModel {program : Program} {settings : Settings} {typeArgs : List TypeNode}
    {node : Node} {named : Option Declaration} {force : Bool}
    (h : Wraps program settings typeArgs node named force) (hforce : force = true) :
    ImportsModel settings node := by
  subst hforce
  cases h with
  | @written type _ hdenoted =>
    obtain ⟨form, location⟩ := type
    cases form with
    | imported link =>
      refine ⟨link, location, rfl, ?_⟩
      change (if isImportedWrapper settings link then _ else _) = _ at hdenoted
      split at hdenoted
      · next hwrapper => exact hwrapper
      · obtain ⟨name, -, hfound⟩ := Option.bind_eq_some_iff.mp hdenoted
        exact absurd hfound denotedBy?_ne_wrapper
    | reference reference =>
      change (if isWrapper program settings reference then _ else _) = _ at hdenoted
      split at hdenoted
      · cases hdenoted
      · exact absurd hdenoted denotedBy?_ne_wrapper
    | _ => cases hdenoted

/-- The context of a blueprint. -/
def blueprintContext (ctx : Context) (force : Bool) : Context :=
  { ctx with flattens := ctx.flattens || force }

/-- The context of the arguments of a model with this label. -/
def argsContext (label : String) : Context where
  flattens := true
  owner := some (joinPath label "args")

end AppMetadata.Expansion
