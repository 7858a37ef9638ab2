import AppMetadata.Proofs.Expansion.Transparency

/-!
# `AppMetadata.Proofs.Expansion.ShortNames`: import types and imported names

What `import("specifier").item` stands for can also be imported under a name
of its own, by `import { item as name } from "specifier"`, and be referred to
by that name. The two spellings are read by different functions, and not
always alike:

* An alias of an import type is never transparent, so it is linked where an
  alias of the imported name is followed (`ShortName.Solid`).
* A blueprint that is an import type has a name even if it denotes nothing
  (`ShortName.Declared`).
* Other modules see the imported name, although it is not exported
  (`ShortName.Hidden`).

Where none of the three plays a part, nodes are described alike.

* `Shortens.resolve`: the imported name denotes what the import type does.
* `isTransparent_shortens`, `wrapperArgs?_shortens`, `blueprintName?_shortens`:
  what else is read from a type.
* `describe_shortens`: the whole walk.
-/

set_option autoImplicit false

namespace AppMetadata

/-- The name `name` for `import("specifier").item` in a module. -/
structure ShortName where
  scope : ModuleId
  specifier : String
  item : String
  name : String

/-- Whether a type is an import type. -/
def TypeForm.isImported : TypeForm → Bool
  | .imported _ => true
  | _ => false

namespace ShortName

variable (program : Program) (short : ShortName)

/-- What the import type denotes. -/
def denoted : Resolved :=
  program.resolveImport short.scope short.specifier (.identifier short.item)

/-- The name where it is written in its module. -/
def Hidden (scope : LinkedModule) (name : String) : Prop :=
  program.module? short.scope = some scope ∧ name = short.name

/-- The import type denotes a declaration. -/
def Declared : Prop :=
  ∃ declaration, short.denoted program = .declaration declaration

/-- The import type denotes no transparent alias. -/
def Solid : Prop :=
  ∀ target, Expansion.resolvedTarget? (short.denoted program) = some target →
    Expansion.isTransparent program Expansion.maxAliasHops target = false

/-- Both lists start with an import type or neither does, unless the import
type of the short name denotes a declaration anyway. -/
def HeadsAlike (args args' : List TypeNode) : Prop :=
  short.Declared program ∨
    args.head?.map (·.form.isImported) = args'.head?.map (·.form.isImported)

end ShortName

/-- Types of which the second one has the short name in place of some import
types of the first one. None of the other names in them comes to the short
name. -/
inductive TypeNode.Shortens (program : Program) (short : ShortName) : TypeNode → TypeNode → Prop
  | within {form form' : TypeForm} {location : Location}
    (hform : TypeForm.Alike (Shortens program short) (Member.Alike (Shortens program short))
      form form') :
    Shortens program short ⟨form, location⟩ ⟨form', location⟩
  | reference {name : EntityName} {args args' : List TypeNode} {scope : ModuleId}
    {location : Location}
    (hclear : ∀ lookup, program.lookup? scope name = some lookup →
      program.Clear (short.Hidden program) lookup)
    (hargs : List.Forall₂ (Shortens program short) args args')
    (hheads : short.HeadsAlike program args args') :
    Shortens program short ⟨.reference ⟨name, args, scope⟩, location⟩
      ⟨.reference ⟨name, args', scope⟩, location⟩
  | imported {specifier : String} {name : Option EntityName} {args args' : List TypeNode}
    {scope : ModuleId} {location : Location}
    (hclear : ∀ item lookup hops, name = some item →
      program.importLookup? scope specifier item = some (lookup, hops) →
        program.Clear (short.Hidden program) lookup)
    (hargs : List.Forall₂ (Shortens program short) args args')
    (hheads : short.HeadsAlike program args args') :
    Shortens program short ⟨.imported ⟨specifier, name, args, scope⟩, location⟩
      ⟨.imported ⟨specifier, name, args', scope⟩, location⟩
  | shortened {args args' : List TypeNode} {location : Location}
    (hargs : List.Forall₂ (Shortens program short) args args') :
    Shortens program short
      ⟨.imported ⟨short.specifier, some (.identifier short.item), args, short.scope⟩, location⟩
      ⟨.reference ⟨.identifier short.name, args', short.scope⟩, location⟩

/-- Declarations with such types. The target of an alias is no shortened name
and no array or union around one, unless the import type is not transparent
anyway. -/
structure Declaration.Shortens (program : Program) (short : ShortName)
    (declaration declaration' : Declaration) : Prop where
  alike : declaration.Alike (TypeNode.Shortens program short)
    (Member.Alike (TypeNode.Shortens program short)) declaration'
  core {target target' : TypeNode} : declaration.form = .typeAlias target →
    declaration'.form = .typeAlias target' →
      short.Solid program ∨ Likeness.SameCore target target'

/-- Programs of which the second one imports a short name into a module that
declares nothing of that name, and uses it in some of its types. The hops are
enough for one more. -/
structure Program.Shortens (program : Program) (short : ShortName) (program' : Program)
    (scope scope' : LinkedModule) : Prop where
  modules : program.Alike (Declaration.Shortens program short) (short.Hidden program) program'
  module : program.module? short.scope = some scope
  module' : program'.module? short.scope = some scope'
  undeclared : scope.declarations.lookup short.name = none
  imports : scope'.imports.lookup short.name = some ⟨short.specifier, .named short.item⟩
  clear : program.Clear (short.Hidden program) (.item scope short.specifier short.item)
  hops : program.answer maxHops (.item scope short.specifier short.item) =
    program.answer (maxHops + 1) (.item scope short.specifier short.item)

/-- The imported name denotes what the import type does. -/
theorem Program.Shortens.resolve {program program' : Program} {short : ShortName}
    {scope scope' : LinkedModule} (h : program.Shortens short program' scope scope') :
    (short.denoted program).Alike (Declaration.Shortens program short)
      (program'.resolve short.scope (.identifier short.name)) := by
  have hscope : scope.Alike (Declaration.Shortens program short) (short.Hidden program scope)
      scope' := by
    have hmodules := h.modules short.scope
    rw [h.module, h.module'] at hmodules
    cases hmodules with
    | some hscope => exact hscope
  have hundeclared : scope'.declarations.lookup short.name = none := by
    have hdeclarations := hscope.declarations short.name
    rw [h.undeclared] at hdeclarations
    cases hlookup : scope'.declarations.lookup short.name with
    | none => rfl
    | some declaration =>
      rw [hlookup] at hdeclarations
      cases hdeclarations
  have hbefore : short.denoted program =
      program.answer maxHops (.item scope short.specifier short.item) := by
    rw [ShortName.denoted, resolveImport_eq, h.hops]
    simp only [importLookup?, h.module, Option.bind_some]
  -- The import takes one hop, so the item is looked up with one hop less.
  have hafter : program'.resolve short.scope (.identifier short.name) =
      program'.answer maxHops (.item scope' short.specifier short.item) := by
    rw [resolve_eq]
    simp only [lookup?, h.module', Option.bind_some]
    rw [answer_written_succ, hundeclared, h.imports]
    exact followBinding_eq ..
  rw [hbefore, hafter]
  exact answer_alike h.modules maxHops (.item _ _ hscope) h.clear

namespace Expansion

variable {program program' : Program} {short : ShortName} {scope scope' : LinkedModule}
  {settings : Settings}

/-- Shortened types have their parts in the same places, apart from the name
that stands for an import type. -/
theorem likeness_shortens (program : Program) (short : ShortName) :
    Likeness (TypeNode.Shortens program short)
      (Member.Alike (TypeNode.Shortens program short)) where
  location htype := by cases htype <;> rfl
  form htype := by
    cases htype with
    | within hform => exact .inl hform
    | reference => exact .inr ⟨.reference _, .reference _⟩
    | imported => exact .inr ⟨.imported _, .imported _⟩
    | shortened => exact .inr ⟨.imported _, .reference _⟩
  member hmember := hmember

/-- The targets of plain aliases. -/
theorem resolvedTarget?_shortens {answer answer' : Resolved}
    (hanswer : answer.Alike (Declaration.Shortens program short) answer') :
    Option.Rel (fun target target' => TypeNode.Shortens program short target target' ∧
        (short.Solid program ∨ Likeness.SameCore target target'))
      (resolvedTarget? answer) (resolvedTarget? answer') := by
  cases hanswer with
  | external | missing => exact .none
  | @declaration declaration declaration' hdeclaration =>
    obtain ⟨⟨-, hform, -, -, hgeneric⟩, hcore⟩ := hdeclaration
    obtain ⟨_, form, _, _, _, isGeneric⟩ := declaration
    obtain ⟨_, form', _, _, _, isGeneric'⟩ := declaration'
    dsimp only at hform hgeneric hcore
    subst hgeneric
    cases hform with
    | typeAlias htarget =>
      cases isGeneric with
      | true => exact .none
      | false => exact .some ⟨htarget, hcore rfl rfl⟩
    | interface | classType | enum => exact .none

section Names

variable (h : program.Shortens short program' scope scope')

include h

/-! ### What is read from a type -/

/-- A blueprint keeps its name. A missing item still names its import type, so
the import type has to denote something where the short name takes its place. -/
theorem blueprintName?_shortens {type type' : TypeNode}
    (htype : TypeNode.Shortens program short type type')
    (hhead : short.Declared program ∨ type.form.isImported = type'.form.isImported) :
    blueprintName? program type = blueprintName? program' type' := by
  cases htype with
  | within hform => cases hform <;> rfl
  | reference hclear =>
    exact Simulation.blueprintName?_reference (·.alike.name) _ _ _
      (Program.resolve_alike h.modules hclear)
  | imported hclear =>
    exact Simulation.blueprintName?_imported (·.alike.name) _ _ _ fun item hitem =>
      Program.resolveImport_alike h.modules fun lookup hops => hclear item lookup hops hitem
  | shortened =>
    -- Only here are the names spelled in different ways.
    obtain ⟨declaration, hdeclared⟩ := hhead.resolve_right (by simp [TypeForm.isImported])
    have hresolve := h.resolve
    rw [hdeclared] at hresolve
    rw [ShortName.denoted] at hdeclared
    simp only [blueprintName?, Option.map_some, hdeclared]
    generalize program'.resolve short.scope (.identifier short.name) = answer' at hresolve
    cases hresolve with
    | declaration hdeclaration => exact congrArg some hdeclaration.alike.name

/-- The arguments of a wrapper agree: the blueprint, which is the first of
them, has the same name, and all of them are shortened alike. -/
theorem argsAgree_shortens {args args' : List TypeNode}
    (hargs : List.Forall₂ (TypeNode.Shortens program short) args args')
    (hheads : short.HeadsAlike program args args') :
    ArgsAgree (TypeNode.Shortens program short) program program' args args' := by
  refine ⟨hargs, ?_⟩
  cases hargs with
  | nil => simp only [List.head?_nil, Option.bind_none]
  | cons htype _ =>
    exact blueprintName?_shortens h htype (hheads.imp_right fun hsame => by simpa using hsame)

/-- A reference that does not come to the short name is a wrapper in both
programs or in neither. -/
theorem isWrapper_shortens {name : EntityName} {args args' : List TypeNode} {id : ModuleId}
    (hclear : ∀ lookup, program.lookup? id name = some lookup →
      program.Clear (short.Hidden program) lookup) :
    isWrapper program settings ⟨name, args, id⟩ = isWrapper program' settings ⟨name, args', id⟩ :=
  Simulation.isWrapper_eq rfl (fun hdeclaration => hdeclaration.alike.isGeneric) args args'
    (Program.resolve_alike h.modules hclear)

/-- The same types are model wrappers, provided that the short name is not the
wrapper's and does not stand for it. -/
theorem wrapperArgs?_shortens (hitem : short.item ≠ settings.modelWrapper)
    (hname : short.name ≠ settings.modelWrapper) {target target' : TypeNode}
    (htarget : TypeNode.Shortens program short target target') :
    Option.Rel (ArgsAgree (TypeNode.Shortens program short) program program')
      (wrapperArgs? program settings target) (wrapperArgs? program' settings target') := by
  cases htarget with
  | within hform => cases hform <;> exact .none
  | @reference name args args' id _ hclear hargs hheads =>
    have hsame : isWrapper program settings ⟨name, args, id⟩ =
        isWrapper program' settings ⟨name, args', id⟩ :=
      isWrapper_shortens h hclear
    simp only [wrapperArgs?, hsame]
    split
    · exact .some (argsAgree_shortens h hargs hheads)
    · exact .none
  | @imported specifier name args args' id _ hclear hargs hheads =>
    have hsame : isImportedWrapper settings ⟨specifier, name, args, id⟩ =
        isImportedWrapper settings ⟨specifier, name, args', id⟩ :=
      rfl
    simp only [wrapperArgs?, hsame]
    split
    · exact .some (argsAgree_shortens h hargs hheads)
    · exact .none
  | shortened =>
    simp [wrapperArgs?, isImportedWrapper, isWrapper, EntityName.last, EntityName.identifier?,
      hitem, hname]

/-- Types are transparent alike, unless one of them is a name in the place of
an import type. That one is followed, but to nothing transparent if the import
type is solid. -/
theorem isTransparent_shortens {hops : Nat} (hhops : hops ≤ maxAliasHops) {type type' : TypeNode}
    (htype : TypeNode.Shortens program short type type')
    (hcore : short.Solid program ∨ Likeness.SameCore type type') :
    isTransparent program hops type = isTransparent program' hops type' := by
  induction hops generalizing type type' with
  | zero =>
    refine (likeness_shortens program short).typeTransparent_eq
      (fun {type type'} _ hname hname' _ => ?_) type type' htype hcore
    obtain ⟨form, _⟩ := type
    obtain ⟨form', _⟩ := type'
    cases hname <;> cases hname' <;> rfl
  | succ hops ih =>
    have hle : hops ≤ maxAliasHops := Nat.le_of_succ_le hhops
    refine (likeness_shortens program short).typeTransparent_eq (fun htype hname _ hcore => ?_) type
      type' htype hcore
    cases htype with
    | within hform => cases hform <;> cases hname
    | @reference name args args' id _ hclear =>
      have htargets := resolvedTarget?_shortens (Program.resolve_alike h.modules hclear)
      show (aliasTarget? program ⟨name, args, id⟩).any (isTransparent program hops) =
        (aliasTarget? program' ⟨name, args', id⟩).any (isTransparent program' hops)
      rw [aliasTarget?_eq, aliasTarget?_eq]
      revert htargets
      generalize resolvedTarget? _ = target, resolvedTarget? _ = target'
      rintro (⟨htarget, hcore⟩ | _)
      · exact ih hle htarget hcore
      · simp only [Option.any_none]
    | imported => rfl
    | @shortened args args' _ =>
      -- The import type is not followed, and the name counts as a reference, so
      -- their cores differ.
      have hsolid : short.Solid program := hcore.resolve_right Bool.noConfusion
      have htargets := resolvedTarget?_shortens h.resolve
      show false = (aliasTarget? program' ⟨.identifier short.name, args', short.scope⟩).any
        (isTransparent program' hops)
      rw [aliasTarget?_eq]
      dsimp only
      unfold ShortName.Solid at hsolid
      revert htargets hsolid
      generalize resolvedTarget? (short.denoted program) = target,
        resolvedTarget? (program'.resolve short.scope (.identifier short.name)) = target'
      rintro hsolid (⟨htarget, hcore⟩ | _)
      · rw [Option.any_some, ← ih hle htarget hcore]
        have hnot := hsolid _ rfl
        refine (Bool.eq_false_iff.mpr fun htransparent => ?_).symm
        exact Bool.noConfusion (hnot.symm.trans (isTransparent_mono hle htransparent))
      · rfl

/-- The targets of two aliases are wrappers alike and transparent alike, which
is what the use of an alias depends on. -/
theorem targetsAgree_shortens (hitem : short.item ≠ settings.modelWrapper)
    (hname : short.name ≠ settings.modelWrapper) {declaration declaration' : Declaration}
    (hdeclaration : declaration.Shortens program short declaration') {target target' : TypeNode}
    (hform : declaration.form = .typeAlias target)
    (hform' : declaration'.form = .typeAlias target') (levels : Nat) :
    (walkerWithin program settings levels).TargetsAgree (TypeNode.Shortens program short)
      (walkerWithin program' settings levels) target target' := by
  have htarget : TypeNode.Shortens program short target target' := by
    have halike := hdeclaration.alike.form
    rw [hform, hform'] at halike
    cases halike with
    | typeAlias htarget => exact htarget
  exact
    { alike := htarget
      wrapper := wrapperArgs?_shortens h hitem hname htarget
      transparent := isTransparent_shortens h le_rfl htarget (hdeclaration.core hform hform') }

end Names

/-! ### The whole walk -/

/-- Runs of which both give the same answer or both fail. -/
def answering : Simulation Attempt Attempt where
  Related x y := x.toOption = y.toOption
  pure _ := rfl
  throw _ := rfl
  note _ := rfl
  bind {_ _ x y _ _} h hnext := by
    cases x with
    | error e =>
      cases y with
      | error e' => rfl
      | ok b => cases h
    | ok a =>
      cases y with
      | error e' => cases h
      | ok b =>
        cases h
        exact hnext a

/-- Two failures are related, whatever they say. -/
theorem answering_throw {α : Type} (e e' : ExtractionError) :
    answering.Related (throw e : Attempt α) (throw e' : Attempt α) :=
  rfl

/-- The walkers of two programs on one level agree about nodes with short
names. -/
abbrev ShortNamesAgree (program : Program) (short : ShortName) (program' : Program)
    (settings : Settings) (levels : Nat) : Prop :=
  (walkerWithin program settings levels).AgreeThroughout answering (TypeNode.Shortens program short)
    (Member.Alike (TypeNode.Shortens program short)) (Declaration.Shortens program short)
    (walkerWithin program' settings levels)

section Walk

variable (h : program.Shortens short program' scope scope')
  (hitem : short.item ≠ settings.modelWrapper) (hname : short.name ≠ settings.modelWrapper)

include h hitem hname

/-- A declaration is used alike, in full or by a link, if the level below
agrees. -/
theorem usesAgree_shortens {levels : Nat}
    (hbelow : ShortNamesAgree program short program' settings levels) :
    (walkerWithin program settings levels).UsesAgree answering
      (Declaration.Shortens program short) (walkerWithin program' settings levels) :=
  hbelow.uses (·.alike) fun hdeclaration _ _ hform hform' =>
    targetsAgree_shortens h hitem hname hdeclaration hform hform' levels

/-- An import type and the name in its place. -/
theorem describeShortened {levels : Nat}
    (hbelow : ShortNamesAgree program short program' settings levels) {args args' : List TypeNode}
    (hargs : List.Forall₂ (TypeNode.Shortens program short) args args') (location : Location)
    (ctx : Context) :
    answering.Related
      ((walkerWithin program settings levels).describeImport
        ⟨short.specifier, some (.identifier short.item), args, short.scope⟩ location ctx)
      ((walkerWithin program' settings levels).describeReference
        ⟨.identifier short.name, args', short.scope⟩ location ctx) := by
  have hempty : args.isEmpty = args'.isEmpty := by
    cases hargs <;> rfl
  have hplain : isImportedWrapper settings
      ⟨short.specifier, some (.identifier short.item), args, short.scope⟩ = false := by
    simp [isImportedWrapper, EntityName.identifier?, hitem]
  have hplain' : isWrapper program' settings ⟨.identifier short.name, args', short.scope⟩ =
      false := by
    simp [isWrapper, EntityName.last, hname]
  have hresolve := h.resolve
  simp only [Walker.describeImport, Walker.describeReference, walkerWithin, hplain, hplain',
    Bool.false_eq_true, if_false]
  rw [ShortName.denoted] at hresolve
  generalize program.resolveImport short.scope short.specifier (.identifier short.item) = answer,
    program'.resolve short.scope (.identifier short.name) = answer' at hresolve
  cases hresolve with
  -- The errors quote the type as it is written, so they are not the same.
  | external | missing => exact answering_throw _ _
  | declaration hdeclaration =>
    dsimp only
    rw [hempty, hdeclaration.alike.isGeneric]
    split
    · exact answering_throw _ _
    · exact (usesAgree_shortens h hitem hname hbelow).use hdeclaration location ctx

/-- Every number of levels agrees, by induction from `usesAgree_shortens`. -/
theorem shortNamesAgree (levels : Nat) :
    ShortNamesAgree program short program' settings levels := by
  induction levels with
  | zero =>
    exact
      { likeness := likeness_shortens program short
        wrapper := rfl
        type := fun _ _ => rfl
        member := fun _ _ => rfl
        declaration := fun _ _ => rfl }
  | succ levels ih =>
    have huses := usesAgree_shortens h hitem hname ih
    refine agreeThroughout_succ program settings ih ?names (·.alike)
      fun hdeclaration _ _ hform hform' =>
        targetsAgree_shortens h hitem hname hdeclaration hform hform' levels
    -- Only names are left here; a shortened one is an import type on one side and a
    -- name on the other.
    intro type type' htype hfirst _ ctx
    cases htype with
    | within hform => cases hform <;> cases hfirst
    | reference hclear hargs hheads =>
      exact answering.describeReference ih.toAgree huses (argsAgree_shortens h hargs hheads)
        (Program.resolve_alike h.modules hclear) _ ctx
    | imported hclear hargs hheads =>
      exact answering.describeImport ih.toAgree huses (argsAgree_shortens h hargs hheads)
        (fun item hitem => Program.resolveImport_alike h.modules fun lookup hops =>
          hclear item lookup hops hitem) _ ctx
    | shortened hargs => exact describeShortened h hitem hname ih hargs _ ctx

/-- Import types behave like imported names. A program that imports a short
name, and uses it in place of any of the import types for that item,
describes every type in every context as the program without it does, if the
short name is not seen from elsewhere (`Program.Shortens`). -/
theorem describe_shortens {type type' : TypeNode}
    (htype : TypeNode.Shortens program short type type') (ctx : Context) :
    (describe program settings (.type type) ctx : Attempt Shape).toOption =
      (describe program' settings (.type type') ctx : Attempt Shape).toOption := by
  rw [describe_eq_describeWithin, describe_eq_describeWithin]
  exact (shortNamesAgree h hitem hname settings.maxDepth).type htype ctx

end Walk

/-! ### A key with a short name -/

/-- `Key` of `key.ts`, under the name `K` in `app.ts`. -/
def keyName : ShortName where
  scope := 0
  specifier := "./key"
  item := "Key"
  name := "K"

/-- `import("./key").Key` -/
def keyImport : TypeNode :=
  ⟨.imported ⟨"./key", some (.identifier "Key"), [], 0⟩, {}⟩

/-- A name in `app.ts`. -/
def appName (name : String) : TypeNode :=
  ⟨.reference ⟨.identifier name, [], 0⟩, {}⟩

/-- A declaration in the module `scope`. -/
def plainDeclaration (scope : ModuleId) (name : String) (form : DeclarationForm) : Declaration where
  name := name
  form := form
  doc := {}
  scope := scope
  location := {}
  isGeneric := false

/-- `type Id = key` -/
def idDeclaration (key : TypeNode) : Declaration :=
  plainDeclaration 0 "Id" (.typeAlias key)

/-- `interface User { id: Id, key: key }` -/
def userDeclaration (key : TypeNode) : Declaration :=
  plainDeclaration 0 "User" (.interface [] [
    ⟨"id", .signature (some (appName "Id")), false, {}, {}⟩,
    ⟨"key", .signature (some key), false, {}, {}⟩])

/-- `app.ts` declares `Id` and `User`. -/
def appModule (key : TypeNode) (imports : Table ImportBinding) : LinkedModule where
  path := ⟨true, ["app.ts"]⟩
  declarations := [("Id", idDeclaration key), ("User", userDeclaration key)]
  imports := imports
  links := [("./key", 1)]

/-- `key.ts` declares `Key`. -/
def keyModule (form : DeclarationForm) : LinkedModule where
  path := ⟨true, ["key.ts"]⟩
  declarations := [("Key", plainDeclaration 1 "Key" form)]

/-- The program with import types. -/
def keyed (form : DeclarationForm) : Program :=
  ⟨#[appModule keyImport [], keyModule form]⟩

/-- The program with `import { Key as K } from "./key"`. -/
def keyedShort (form : DeclarationForm) : Program :=
  ⟨#[appModule (appName "K") [("K", ⟨"./key", .named "Key"⟩)], keyModule form]⟩

/-- The lookup of the key comes to no use of the short name. -/
theorem clear_item (form : DeclarationForm) :
    (keyed form).Clear (keyName.Hidden (keyed form))
      (.item (appModule keyImport []) "./key" "Key") := by
  have hwritten : (keyed form).Clear (keyName.Hidden (keyed form))
      (.written (keyModule form) "Key") :=
    .of_declared rfl fun hhidden => absurd hhidden.2 (by decide)
  have hexported : (keyed form).Clear (keyName.Hidden (keyed form))
      (.exported (keyModule form) "Key") := by
    refine .of_next (by rintro _ _ ⟨⟩) ?_
    rintro _ _ (_ | ⟨halias⟩ | ⟨-, hbinding, -⟩ | _ | ⟨-, -, hspecifier⟩ | _)
    · cases halias
    · cases hbinding
    · exact hwritten
    · cases hspecifier
  refine .of_next (by rintro _ _ ⟨⟩) ?_
  rintro _ _ (_ | _ | _ | _ | _ | ⟨hlink⟩)
  cases hlink
  exact hexported

/-- `Key` is found in two hops. -/
theorem answer_key (form : DeclarationForm) (hops : Nat) :
    (keyed form).answer (hops + 2) (.item (appModule keyImport []) "./key" "Key") =
      .declaration (plainDeclaration 1 "Key" form) :=
  rfl

/-- The import type denotes the key. -/
theorem denoted_key (form : DeclarationForm) :
    keyName.denoted (keyed form) = .declaration (plainDeclaration 1 "Key" form) :=
  answer_key form 31

/-- A name that is declared in `app.ts` and no short name. -/
theorem shortens_appName {form : DeclarationForm} {name : String} {declaration : Declaration}
    (hdeclared : (appModule keyImport []).declarations.lookup name = some declaration)
    (hname : name ≠ "K") :
    TypeNode.Shortens (keyed form) keyName (appName name) (appName name) := by
  refine .reference ?_ .nil (.inl ⟨_, denoted_key form⟩)
  rintro _ ⟨⟩
  exact .of_declared hdeclared fun hhidden => hname hhidden.2

/-- The two modules of the application differ in the imported name and in two
declarations. -/
theorem appModule_alike {D : Declaration → Declaration → Prop} {hidden : String → Prop}
    {key key' : TypeNode} {binding : ImportBinding} (hhidden : hidden "K")
    (hbinding : binding.imported ≠ .namespace) (hid : D (idDeclaration key) (idDeclaration key'))
    (huser : D (userDeclaration key) (userDeclaration key')) :
    (appModule key []).Alike D hidden (appModule key' [("K", binding)]) where
  declarations name := by
    -- Both tables have the names `Id` and `User` and no others.
    simp only [appModule, List.lookup_cons]
    cases name == "Id" with
    | true => exact .some hid
    | false =>
      cases name == "User" with
      | true => exact .some huser
      | false => exact .none
  imports name hname := by
    have hne : (name == "K") = false := beq_false_of_ne fun heq => hname (heq ▸ hhidden)
    simp only [appModule, List.lookup_cons, hne, List.lookup_nil]
  spaces name specifier := by
    -- Neither module imports a namespace: the only binding there is names an item.
    simp only [appModule, List.lookup_cons, List.lookup_nil]
    refine ⟨nofun, fun hspace => ?_⟩
    cases hname : name == "K" with
    | true =>
      rw [hname] at hspace
      cases hspace
      exact absurd rfl hbinding
    | false =>
      rw [hname] at hspace
      cases hspace
  reexports := rfl
  starExports := rfl
  localAliases := rfl
  links := rfl

/-- `Key` is an interface, so it is not transparent. -/
theorem keyed_shortens :
    (keyed (.interface [] [])).Shortens keyName (keyedShort (.interface [] []))
      (appModule keyImport []) (appModule (appName "K") [("K", ⟨"./key", .named "Key"⟩)]) := by
  let program := keyed (.interface [] [])
  have hdeclared : keyName.denoted program =
      .declaration (plainDeclaration 1 "Key" (.interface [] [])) :=
    denoted_key _
  have hsolid : keyName.Solid program := by
    intro target htarget
    rw [hdeclared] at htarget
    cases htarget
  have hkey : TypeNode.Shortens program keyName keyImport (appName "K") := .shortened .nil
  have hid : TypeNode.Shortens program keyName (appName "Id") (appName "Id") :=
    shortens_appName rfl (by decide)
  have hmember (name : String) {type type' : TypeNode}
      (htype : TypeNode.Shortens program keyName type type') :
      Member.Alike (TypeNode.Shortens program keyName)
        ⟨name, .signature (some type), false, {}, {}⟩
        ⟨name, .signature (some type'), false, {}, {}⟩ :=
    .mk (.property (.signature _) (.signature _) (.some htype))
  -- The modules of the application differ in the import and the two types; the other
  -- module is the same in both programs.
  have happ : (appModule keyImport []).Alike (Declaration.Shortens program keyName)
      (keyName.Hidden program (appModule keyImport []))
      (appModule (appName "K") [("K", ⟨"./key", .named "Key"⟩)]) := by
    refine appModule_alike ⟨rfl, rfl⟩ (by decide) ?id ?user
    case id => exact ⟨⟨rfl, .typeAlias hkey, rfl, rfl, rfl⟩, fun _ _ => .inl hsolid⟩
    case user =>
      have hmembers := List.Forall₂.cons (hmember "id" hid) (.cons (hmember "key" hkey) .nil)
      exact ⟨⟨rfl, .interface .nil hmembers, rfl, rfl, rfl⟩, nofun⟩
  have hfile : (keyModule (.interface [] [])).Alike (Declaration.Shortens program keyName)
      (keyName.Hidden program (keyModule (.interface [] []))) (keyModule (.interface [] [])) := by
    refine .refl fun name declaration hlookup => ?_
    have hname : declaration = plainDeclaration 1 "Key" (.interface [] []) := by
      simp only [keyModule, List.lookup_cons, List.lookup_nil] at hlookup
      split at hlookup
      · exact (Option.some.inj hlookup).symm
      · cases hlookup
    rw [hname]
    exact ⟨⟨rfl, .interface .nil .nil, rfl, rfl, rfl⟩, nofun⟩
  exact
    { modules := fun
        | 0 => .some happ
        | 1 => .some hfile
        | _ + 2 => .none
      module := rfl
      module' := rfl
      undeclared := rfl
      imports := rfl
      clear := clear_item _
      hops := (answer_key _ 30).trans (answer_key _ 31).symm }

/-- `User` has the same properties in both programs. -/
theorem describe_shortens_user :
    let node : TypeNode := appName "User"
    let before : Attempt Shape :=
      describe (keyed (.interface [] [])) {} (.type node) (.root "App")
    let after : Attempt Shape :=
      describe (keyedShort (.interface [] [])) {} (.type node) (.root "App")
    keyName.item ≠ ({} : Settings).modelWrapper ∧ keyName.name ≠ ({} : Settings).modelWrapper ∧
      before.toOption = after.toOption ∧
      before.toOption.map (fun shape => shape.properties.map (·.typeName)) =
        some [some "Id", some "Key"] := by
  intro node before after
  have huser : TypeNode.Shortens (keyed (.interface [] [])) keyName node node :=
    shortens_appName rfl (by decide)
  refine ⟨by decide, by decide, ?_, rfl⟩
  exact describe_shortens keyed_shortens (by decide) (by decide) huser (.root "App")

/-- If `Key` is an alias of `string`, an alias of the import type is linked in
a property, but an alias of the imported name is followed. -/
theorem alias_of_importType_linked :
    let node : Node := .type (appName "Id")
    let text : DeclarationForm := .typeAlias ⟨.keyword .string, {}⟩
    let before : Attempt Shape := describe (keyed text) {} node { parentPath := "User.id" }
    let after : Attempt Shape := describe (keyedShort text) {} node { parentPath := "User.id" }
    before = .ok { kind := .reference, typeName := some "Id", propertyPath := "User.id" } ∧
      after = .ok { kind := .string, propertyPath := "User.id" } :=
  ⟨rfl, rfl⟩

end Expansion

end AppMetadata
