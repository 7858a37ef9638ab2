import AppMetadata.Proofs.Expansion.Paths
import AppMetadata.Proofs.Program.Declared
import AppMetadata.Proofs.Shape
import AppMetadata.Proofs.Tree.ImportTypes

/-!
# `AppMetadata.Proofs.Expansion.Embedding`: nothing declared is embedded

A named type is described in full at a root only. Below a root it is a link,
so an object there has no name, and the name of an enum or a union is the one
that its path makes. Only an import type that is a model wrapper describes
its blueprint in full wherever it stands; the programs here have none.

* `Walker.Embeds`: what one level of a walk keeps.
* `embedded_below_root`: the statement about whole descriptions.
-/

set_option autoImplicit false

namespace AppMetadata

namespace Shape

/-- What a shape that stands at `path` may hold of the names of types: none
if it is an object, the one made from the path if it is an enum or a union.
A link has a name and nothing else. -/
structure EncodedAt (path : String) (n : Shape) : Prop where
  object : n.kind = .object → n.typeName = none ∧ n.modelName = none
  enum : n.kind = .enum → n.typeName = enumName? path
  union : n.kind = .union → n.typeName = unionName? path
  reference : n.kind = .reference → n.typeName.isSome = true ∧ n.properties = []

/-- Only the content of a shape counts. -/
theorem EncodedAt.congr {path : String} {s t : Shape} (h : t.EncodedAt path)
    (hcontent : s.content = t.content) : s.EncodedAt path := by
  have ht : t.content.EncodedAt path := ⟨h.object, h.enum, h.union, h.reference⟩
  rw [← hcontent] at ht
  exact ⟨ht.object, ht.enum, ht.union, ht.reference⟩

/-- Encoded at its own path. -/
def Encoded (n : Shape) : Prop :=
  n.EncodedAt n.propertyPath

/-- A shape that is encoded, with all below it. -/
def EncodedThroughout (s : Shape) : Prop :=
  ∀ n ∈ s.walk, n.Encoded

/-- A shape below which all is encoded. -/
def EncodedBelow (s : Shape) : Prop :=
  ∀ n ∈ s.descendants, n.Encoded

/-- A shape is encoded throughout if it is itself, and all below it are. -/
theorem encodedThroughout_iff {s : Shape} :
    s.EncodedThroughout ↔ s.Encoded ∧ s.EncodedBelow := by
  simp only [EncodedThroughout, EncodedBelow, walk_eq, List.mem_cons, forall_eq_or_imp]

/-- What is below a shape is below one of its parts, or is one of them. -/
theorem encodedBelow_iff {s : Shape} :
    s.EncodedBelow ↔
      (∀ part ∈ s.properties, part.EncodedThroughout) ∧
      (∀ part ∈ s.args, part.EncodedThroughout) ∧
      (∀ part ∈ s.returnType, part.EncodedThroughout) :=
  forall_mem_descendants

/-- The place of a shape and its name do not matter for what is below it. -/
theorem EncodedBelow.congr {s t : Shape} (h : t.EncodedBelow) (hcontent : s.content = t.content) :
    s.EncodedBelow := by
  unfold EncodedBelow
  rw [descendants_congr hcontent]
  exact h

/-- Shapes whose only parts are properties. -/
theorem encodedBelow_of_properties {s : Shape}
    (h : ∀ part ∈ s.properties, part.EncodedThroughout) (hargs : s.args = [])
    (hreturn : s.returnType = none) : s.EncodedBelow :=
  forall_mem_descendants_of_properties h hargs hreturn

end Shape

namespace Expansion

open Shape

/-! ### Programs without imported wrappers -/

/-- None of these import types is a model wrapper. -/
def PlainLinks (settings : Settings) (links : List ImportType) : Prop :=
  ∀ link ∈ links, isImportedWrapper settings link = false

/-- A part of a source has no more import types than the whole. -/
theorem PlainLinks.mono {settings : Settings} {links more : List ImportType}
    (h : PlainLinks settings more) (hsubset : links ⊆ more) : PlainLinks settings links :=
  fun link hlink => h link (hsubset hlink)

/-- A program whose declarations have names and no imported wrappers. -/
structure PlainProgram (program : Program) (settings : Settings) : Prop where
  named : program.Named
  links : ∀ declaration, program.Declares declaration →
    PlainLinks settings declaration.importTypes

/-- The places where a walk through such a program describes a node: it knows
a path for the parts, and is at a declaration only to describe it in full. -/
structure Met (settings : Settings) (node : Node) (ctx : Context) : Prop where
  links : PlainLinks settings node.importTypes
  path : ctx.basePath ≠ ""
  expands : ∀ declaration, node = .declaration declaration → ctx.expands = true

/-- A type may be met below the root of a description if none of its import
types is a wrapper. -/
theorem Met.type {settings : Settings} {type : TypeNode} {ctx : Context}
    (hlinks : PlainLinks settings type.importTypes) (hpath : ctx.basePath ≠ "") :
    Met settings (.type type) ctx :=
  ⟨hlinks, hpath, nofun⟩

/-- So may a member. -/
theorem Met.member {settings : Settings} {member : Member} {ctx : Context}
    (hlinks : PlainLinks settings member.importTypes) (hpath : ctx.basePath ≠ "") :
    Met settings (.member member) ctx :=
  ⟨hlinks, hpath, nofun⟩

/-- The blueprint and the arguments are among the type arguments. -/
theorem wrapperParts?_importTypes {typeArgs : List TypeNode} {blueprint : TypeNode}
    {args : Option TypeNode} (h : wrapperParts? typeArgs = some (blueprint, args)) :
    blueprint.importTypes ⊆ importTypesOf typeArgs ∧
      importTypesOfOption args ⊆ importTypesOf typeArgs := by
  unfold wrapperParts? at h
  split at h
  · cases h
    exact ⟨importTypes_subset_of_mem (by simp), List.nil_subset _⟩
  · cases h
    exact ⟨importTypes_subset_of_mem (by simp), importTypes_subset_of_mem (by simp)⟩
  · cases h

/-- And those are parts of the wrapper. -/
theorem wrapperArgs?_importTypes {program : Program} {settings : Settings} {type : TypeNode}
    {args : List TypeNode} (h : wrapperArgs? program settings type = some args) :
    importTypesOf args ⊆ type.importTypes := by
  rw [TypeNode.importTypes_eq]
  unfold wrapperArgs? at h
  split at h
  · next reference hform =>
    obtain ⟨-, rfl⟩ := Option.ite_some_none_eq_some.mp h
    simp [hform, TypeForm.importTypes, Reference.importTypes_eq]
  · next link hform =>
    obtain ⟨-, rfl⟩ := Option.ite_some_none_eq_some.mp h
    simp [hform, TypeForm.importTypes, ImportType.importTypes_eq]
  · cases h

/-! ### What a step keeps -/

/-- A shape as it may be described in `ctx`, before it is placed: all below
it is encoded, and so is the shape itself where types are linked. -/
structure Embedded (ctx : Context) (s : Shape) : Prop where
  below : s.EncodedBelow
  here : ctx.expands = false → s.EncodedAt ctx.parentPath

/-- A description may hand on a shape with another mark on it. -/
theorem Embedded.congr {ctx : Context} {s t : Shape} (h : Embedded ctx t)
    (hcontent : s.content = t.content) : Embedded ctx s where
  below := h.below.congr hcontent
  here hctx := (h.here hctx).congr hcontent

/-- At a path of its own, such a shape is encoded with all below it. -/
theorem Embedded.throughout {ctx : Context} {s t : Shape} (h : Embedded ctx t)
    (hctx : ctx.expands = false) (hcontent : s.content = t.content)
    (hpath : s.propertyPath = ctx.parentPath) : s.EncodedThroughout := by
  have hhere := (h.here hctx).congr hcontent
  rw [← hpath] at hhere
  exact encodedThroughout_iff.mpr ⟨hhere, h.below.congr hcontent⟩

/-- A walker that describes the nodes of a plain program as they may be
embedded. -/
structure Walker.Embeds (w : Walker Attempt) : Prop where
  program : PlainProgram w.program w.settings
  places : w.Places
  describe : ∀ {node ctx s}, Met w.settings node ctx → w.describe node ctx = .ok s →
    Embedded ctx s

variable {w : Walker Attempt} {ctx : Context} {location : Location} {s : Shape}

/-- What is described below a property is encoded. -/
theorem Walker.Embeds.throughout (hw : w.Embeds) {node : Node} (hmet : Met w.settings node ctx)
    (hctx : ctx.expands = false) (h : w.describe node ctx = .ok s) : s.EncodedThroughout := by
  have hpath : s.propertyPath = ctx.parentPath :=
    hw.places (Context.expands_eq_false.mp hctx).1 h
  exact (hw.describe hmet h).throughout hctx rfl hpath

/-- A link has nothing below it. -/
theorem embedded_link (typeName : String) (modelName : Option String) :
    Embedded ctx (.link typeName modelName) where
  below := encodedBelow_of_properties nofun rfl rfl
  here _ := ⟨nofun, nofun, nofun, fun _ => ⟨rfl, rfl⟩⟩

/-- Neither has a primitive value. -/
theorem embedded_primitive {kind : Kind} (h : kind.isPrimitive = true) :
    Embedded ctx { kind } where
  below := encodedBelow_of_properties nofun rfl rfl
  here _ := by constructor <;> rintro rfl <;> cases h

/-- Below an enum of literals there are its values, which are no declarations. -/
theorem embedded_literalEnum {literals : List String}
    (h : (literalEnum literals location ctx : Attempt Shape) = .ok s) : Embedded ctx s := by
  obtain ⟨name, hname, -, rfl⟩ := literalEnum_eq_ok.mp h
  constructor
  · refine encodedBelow_of_properties (fun part hpart => ?_) rfl rfl
    obtain ⟨literal, -, rfl⟩ := List.mem_map.mp hpart
    exact encodedThroughout_iff.mpr
      ⟨⟨nofun, nofun, nofun, nofun⟩, encodedBelow_of_properties nofun rfl rfl⟩
  · intro hctx
    have hpath := (Context.expands_eq_false.mp hctx).1
    rw [Context.anonymousName?_of_parentPath hpath] at hname
    exact ⟨nofun, fun _ => hname.symm, nofun, nofun⟩

namespace Walker.Embeds

/-- A member stands at a path, where nothing is expanded, so that its type is
encoded from the top. -/
theorem describeMember (hw : w.Embeds) {base : String} {owner : Option String} {member : Member}
    (hlinks : PlainLinks w.settings member.importTypes) (hbase : base ≠ "")
    (h : w.describeMember base owner member = .ok s) : s.EncodedThroughout := by
  obtain ⟨t, ht, rfl⟩ := describeMember_eq_ok.mp h
  have hpath := joinPath_ne_empty hbase member.name
  have hctx : Context.expands { parentPath := joinPath base member.name, owner } = false :=
    @Context.below_expands { owner } _ hpath
  have hmet : Met w.settings (.member member)
      { parentPath := joinPath base member.name, owner } :=
    .member hlinks (by rwa [Context.basePath_of_parentPath hpath])
  exact (hw.describe hmet ht).throughout hctx (content_ofMember _ _ t) rfl

/-- The members of one type. -/
theorem describeMembers (hw : w.Embeds) {members : List Member} {shapes : List Shape}
    (hlinks : PlainLinks w.settings (importTypesOfMembers members)) (hpath : ctx.basePath ≠ "")
    (h : w.describeMembers members ctx = .ok shapes) :
    ∀ part ∈ shapes, part.EncodedThroughout := by
  intro part hpart
  obtain ⟨member, hmember, hpart⟩ :=
    Attempt.exists_of_mem_right (describeMembers_eq_ok.mp h) hpart
  exact hw.describeMember (hlinks.mono (Member.importTypes_subset_of_mem hmember)) hpath hpart

/-- The alternatives of a union stand at paths as well. -/
theorem mixedUnion (hw : w.Embeds) {alternatives : List TypeNode}
    (hlinks : ∀ alternative ∈ alternatives, PlainLinks w.settings alternative.importTypes)
    (hpath : ctx.basePath ≠ "") (h : w.mixedUnion alternatives location ctx = .ok s) :
    Embedded ctx s := by
  obtain ⟨name, properties, hname, hproperties, rfl⟩ := mixedUnion_eq_ok.mp h
  constructor
  · refine encodedBelow_of_properties (fun part hpart => ?_) rfl rfl
    obtain ⟨⟨alternative, index⟩, hentry, hpart⟩ :=
      Attempt.exists_of_mem_right hproperties hpart
    have hbelow := joinPath_ne_empty hpath (toString index)
    refine hw.throughout (.type (hlinks _ (List.fst_mem_of_mem_zipIdx hentry)) ?_)
      (Context.below_expands hbelow) hpart
    rwa [Context.below_basePath hbelow]
  · intro hctx
    have hparent := (Context.expands_eq_false.mp hctx).1
    rw [Context.anonymousName?_of_parentPath hparent] at hname
    exact ⟨nofun, nofun, fun _ => hname.symm, nofun⟩

/-- A union is embedded as its only alternative is, or as several are. -/
theorem describeUnion (hw : w.Embeds) {types : List TypeNode}
    (hlinks : PlainLinks w.settings (importTypesOf types)) (hpath : ctx.basePath ≠ "")
    (h : w.describeUnion types location ctx = .ok s) : Embedded ctx s := by
  have hpresent (alternative : TypeNode) (hmem : alternative ∈ presentOf types) :
      PlainLinks w.settings alternative.importTypes :=
    hlinks.mono (importTypes_present_subset hmem)
  rcases describeUnion_eq_ok.mp h with ⟨single, t, hsingle, ht, rfl⟩ | ⟨-, t, ht, rfl⟩
  · have hmet : Met w.settings (.type single) ctx :=
      .type (hpresent single (by simp [hsingle])) hpath
    exact (hw.describe hmet ht).congr rfl
  · have hembedded : Embedded ctx t := by
      rcases describeAlternatives_eq_ok.mp ht with ⟨literals, -, ht⟩ | ⟨-, ht⟩
      · exact embedded_literalEnum ht
      · exact hw.mixedUnion hpresent hpath ht
    exact hembedded.congr rfl

/-- Types whose properties are taken over are no parts themselves: only what is
below them counts. -/
theorem flattened (hw : w.Embeds) {types : List TypeNode} {properties : List Shape}
    (hlinks : PlainLinks w.settings (importTypesOf types)) (hpath : ctx.basePath ≠ "")
    (h : w.flattened types ctx = .ok properties) :
    ∀ part ∈ properties, part.EncodedThroughout := by
  intro part hpart
  obtain ⟨type, htype, whole, hwhole, hpart⟩ := mem_of_mem_flattened h hpart
  have hmet : Met w.settings (.type type) ctx.flattening :=
    .type (hlinks.mono (importTypes_subset_of_mem htype)) hpath
  exact (encodedBelow_iff.mp (hw.describe hmet hwhole).below).1 part hpart

/-- An interface or class, which is described in full where a walk meets
it. -/
theorem describeBody (hw : w.Embeds) {declaration : Declaration} {heritage : List TypeNode}
    {members : List Member} (hheritage : PlainLinks w.settings (importTypesOf heritage))
    (hmembers : PlainLinks w.settings (importTypesOfMembers members)) (hpath : ctx.basePath ≠ "")
    (hctx : ctx.expands = true) (h : w.describeBody declaration heritage members ctx = .ok s) :
    Embedded ctx s := by
  rcases describeBody_eq_ok.mp h with ⟨hnot, -⟩ | ⟨-, -, properties, hproperties, rfl⟩
  · rw [hctx] at hnot
    cases hnot
  · -- What is inherited is described in full, but only its properties are kept.
    obtain ⟨inherited, own, hinherited, hown, rfl⟩ := bodyProperties_eq_ok.mp hproperties
    refine ⟨encodedBelow_of_properties (fun part hpart => ?_) rfl rfl, by simp [hctx]⟩
    rcases mem_of_mem_overridden hpart with hpart | hpart
    · exact hw.describeMembers hmembers hpath hown part hpart
    · exact hw.flattened hheritage hpath hinherited part hpart

/-- The arguments stand under a label of their own, and each goes below the
property of its name. -/
theorem spliceArgs (hw : w.Embeds) {model : Shape} {args : TypeNode}
    (hlinks : PlainLinks w.settings args.importTypes) (hmodel : model.EncodedBelow)
    (h : w.spliceArgs model args location ctx = .ok s) : s.EncodedBelow := by
  obtain ⟨shape, properties, hshape, -, hproperties, rfl⟩ := spliceArgs_eq_ok.mp h
  have hlabel := joinPath_args_ne_empty (argsLabel model ctx)
  have hmet : Met w.settings (.type args)
      { flattens := true, owner := some (joinPath (argsLabel model ctx) "args") } :=
    .type hlinks hlabel
  have harguments := (encodedBelow_iff.mp (hw.describe hmet hshape).below).1
  obtain ⟨hparts, hargs, hreturn⟩ := encodedBelow_iff.mp hmodel
  refine encodedBelow_iff.mpr ⟨fun part hpart => ?_, hargs, hreturn⟩
  exact forall_mem_walk_of_given
    (fun _ _ hhere _ => ⟨hhere.object, hhere.enum, hhere.union, hhere.reference⟩) hparts harguments
    (given_of_mem_spliced hproperties hpart)

/-- A wrapper that is no import type. -/
theorem describeWrapper (hw : w.Embeds) {typeArgs : List TypeNode} {named : Option Declaration}
    (hlinks : PlainLinks w.settings (importTypesOf typeArgs)) (hpath : ctx.basePath ≠ "")
    (h : w.describeWrapper typeArgs named location ctx false = .ok s) : Embedded ctx s := by
  obtain ⟨blueprint, args, hparts, hcases⟩ := describeWrapper_eq_ok.mp h
  obtain ⟨hblueprint, hargs⟩ := wrapperParts?_importTypes hparts
  rcases hcases with ⟨hctx, h⟩ | ⟨-, typeName, -, rfl⟩
  · rw [Bool.false_or] at hctx
    refine ⟨?_, by simp [hctx]⟩
    obtain ⟨t, ht, hs⟩ := expandWrapper_eq_ok.mp h
    rw [Bool.or_false] at ht
    have hmodel : EncodedBelow
        { t with modelName := wrapperModelName? w.program named blueprint } :=
      (hw.describe (.type (hlinks.mono hblueprint) hpath) ht).below
    rcases hs with ⟨-, rfl⟩ | ⟨given, rfl, hs⟩
    · exact hmodel
    · exact hw.spliceArgs (hlinks.mono hargs) hmodel hs
  · exact embedded_link _ _

/-! ### Names and declarations -/

/-- A declaration that is not expanded is a link. One that is expanded is a
root, or is taken over. -/
theorem describeNamed (hw : w.Embeds) {declaration : Declaration}
    (hdeclared : w.program.Declares declaration) (hpath : ctx.basePath ≠ "")
    (h : w.describeNamed declaration ctx = .ok s) : Embedded ctx s := by
  rcases describeNamed_eq_ok.mp h with ⟨-, rfl⟩ | ⟨hctx, h⟩
  · exact embedded_link _ _
  · obtain ⟨t, ht, rfl⟩ := expandDeclaration_eq_ok.mp h
    have hmet : Met w.settings (.declaration declaration) (ctx.within declaration.name) :=
      { links := hw.program.links _ hdeclared
        path := Context.within_basePath_ne_empty (hw.program.named _ hdeclared) hpath
        expands := fun _ _ => hctx }
    have hbelow := (hw.describe hmet ht).below
    -- The name goes to the shape itself, and this is not embedded here.
    refine ⟨?_, by simp [hctx]⟩
    unfold ofDeclaration Shape.document
    split <;> exact hbelow

/-- The use of a declaration: inlined, as a model, or by its name. -/
theorem describeUse (hw : w.Embeds) {declaration : Declaration}
    (hdeclared : w.program.Declares declaration) (hpath : ctx.basePath ≠ "")
    (h : w.describeUse declaration location ctx = .ok s) : Embedded ctx s := by
  have hlinks := hw.program.links _ hdeclared
  rcases describeUse_eq_ok.mp h with
    ⟨target, args, hform, hwrapper, h⟩ | ⟨target, hform, -, -, -, h⟩ | ⟨-, h⟩
  · rw [Declaration.importTypes, hform] at hlinks
    exact hw.describeWrapper (hlinks.mono (wrapperArgs?_importTypes hwrapper)) hpath h
  · rw [Declaration.importTypes, hform] at hlinks
    exact hw.describe (.type hlinks hpath) h
  · exact hw.describeNamed hdeclared hpath h

/-- A reference leads to a declaration of the program, or is a wrapper whose
arguments are parts of it. -/
theorem describeReference (hw : w.Embeds) {reference : Reference}
    (hlinks : PlainLinks w.settings reference.importTypes) (hpath : ctx.basePath ≠ "")
    (h : w.describeReference reference location ctx = .ok s) : Embedded ctx s := by
  rcases describeReference_eq_ok.mp h with ⟨-, h⟩ | ⟨-, declaration, hresolve, -, -, h⟩
  · rw [Reference.importTypes_eq] at hlinks
    exact hw.describeWrapper hlinks hpath h
  · exact hw.describeUse (Program.resolve_declares hresolve) hpath h

/-- So does an import type that is no wrapper. One that is would be expanded
below the root. -/
theorem describeImport (hw : w.Embeds) {link : ImportType}
    (hlink : isImportedWrapper w.settings link = false) (hpath : ctx.basePath ≠ "")
    (h : w.describeImport link location ctx = .ok s) : Embedded ctx s := by
  obtain ⟨name, -, ⟨hwrapper, -⟩ | ⟨-, declaration, hresolve, -, -, h⟩⟩ :=
    describeImport_eq_ok.mp h
  · -- This is the one place where a model would be described in full.
    rw [hlink] at hwrapper
    cases hwrapper
  · exact hw.describeUse (Program.resolveImport_declares hresolve) hpath h

/-- A parameter stands at a path, as a member does. -/
theorem describeParameter (hw : w.Embeds) {param : Parameter}
    (hlinks : PlainLinks w.settings param.importTypes) (hpath : ctx.basePath ≠ "")
    (h : w.describeParameter param location ctx = .ok s) : s.EncodedThroughout := by
  obtain ⟨type, t, htype, ht, rfl⟩ := describeParameter_eq_ok.mp h
  have hbelow := joinPath_ne_empty hpath param.name
  rw [Parameter.importTypes_eq, htype] at hlinks
  have hmet : Met w.settings (.type type) (ctx.below (joinPath ctx.basePath param.name)) :=
    .type hlinks (by rwa [Context.below_basePath hbelow])
  exact (hw.describe hmet ht).throughout (Context.below_expands hbelow)
    (content_ofParameter param _ t) rfl

/-- So do the parameters of an operation, and its return type. -/
theorem describeFunction (hw : w.Embeds) {signature : Signature}
    (hlinks : PlainLinks w.settings signature.importTypes) (hpath : ctx.basePath ≠ "")
    (h : w.describeFunction signature location ctx = .ok s) : Embedded ctx s := by
  obtain ⟨-, args, returns, t, hargs, hreturns, ht, rfl⟩ := describeFunction_eq_ok.mp h
  rw [Signature.importTypes_eq] at hlinks
  refine ⟨encodedBelow_iff.mpr ⟨nofun, ?_, ?_⟩, fun _ => ⟨nofun, nofun, nofun, nofun⟩⟩
  · intro part hpart
    obtain ⟨param, hparam, hpart⟩ := Attempt.exists_of_mem_right hargs hpart
    have hparams := hlinks.mono (List.subset_append_left ..)
    exact hw.describeParameter (hparams.mono (Parameter.importTypes_subset_of_mem hparam)) hpath
      hpart
  · rintro part hpart
    obtain rfl : t = part := Option.some.inj hpart
    rw [hreturns] at hlinks
    have hmet : Met w.settings (.type returns) (ctx.below ctx.basePath) :=
      .type (hlinks.mono (List.subset_append_right ..)) (by rwa [Context.below_basePath hpath])
    exact hw.throughout hmet (Context.below_expands hpath) ht

/-- All forms of types, with those of import types that are no wrappers. -/
theorem describeType (hw : w.Embeds) {type : TypeNode}
    (hlinks : PlainLinks w.settings type.importTypes) (hpath : ctx.basePath ≠ "")
    (h : w.describeType type ctx = .ok s) : Embedded ctx s := by
  -- Each form passes on the links that are plain in its own parts.
  rw [TypeNode.importTypes_eq] at hlinks
  unfold Walker.describeType at h
  split at h
  case h_1 | h_2 | h_3 | h_4 =>
    cases Attempt.pure_eq_ok.mp h
    exact embedded_primitive rfl
  case h_5 element hform =>
    obtain ⟨t, ht, hs⟩ := Attempt.bind_eq_ok.mp h
    cases Attempt.pure_eq_ok.mp hs
    rw [hform] at hlinks
    exact (hw.describe (.type hlinks hpath) ht).congr rfl
  case h_6 types hform =>
    rw [hform] at hlinks
    exact hw.describeUnion hlinks hpath h
  case h_7 value _ => exact embedded_literalEnum h
  case h_8 members hform =>
    obtain ⟨properties, hproperties, hs⟩ := Attempt.bind_eq_ok.mp h
    cases Attempt.pure_eq_ok.mp hs
    rw [hform] at hlinks
    exact ⟨encodedBelow_of_properties (hw.describeMembers hlinks hpath hproperties) rfl rfl,
      fun _ => ⟨fun _ => ⟨rfl, rfl⟩, nofun, nofun, nofun⟩⟩
  case h_9 reference hform =>
    rw [hform] at hlinks
    exact hw.describeReference hlinks hpath h
  case h_10 parts hform =>
    obtain ⟨properties, hproperties, hs⟩ := Attempt.bind_eq_ok.mp h
    cases Attempt.pure_eq_ok.mp hs
    rw [hform] at hlinks
    exact ⟨encodedBelow_of_properties (hw.flattened hlinks hpath hproperties) rfl rfl,
      fun _ => ⟨fun _ => ⟨rfl, rfl⟩, nofun, nofun, nofun⟩⟩
  case h_11 link hform =>
    rw [hform] at hlinks
    exact hw.describeImport (hlinks link (List.mem_cons_self ..)) hpath h
  case h_12 signature hform =>
    rw [hform] at hlinks
    exact hw.describeFunction hlinks hpath h
  all_goals simp at h

/-- The members of an enum stand below its name. -/
theorem describeEnum (hw : w.Embeds) {declaration : Declaration} {members : List Member}
    (hlinks : PlainLinks w.settings (importTypesOfMembers members)) (hpath : ctx.basePath ≠ "")
    (h : w.describeEnum declaration members ctx = .ok s) : Embedded ctx s := by
  rcases describeEnum_eq_ok.mp h with ⟨-, rfl⟩ | ⟨hctx, properties, hproperties, rfl⟩
  · exact embedded_link _ _
  · refine ⟨encodedBelow_of_properties (fun part hpart => ?_) rfl rfl, by simp [hctx]⟩
    obtain ⟨member, hmember, hpart⟩ := Attempt.exists_of_mem_right hproperties hpart
    exact hw.describeMember (hlinks.mono (Member.importTypes_subset_of_mem hmember)) hpath hpart

/-- All forms of declarations: only their parts have to be embedded. -/
theorem describeDeclaration (hw : w.Embeds) {declaration : Declaration}
    (hmet : Met w.settings (.declaration declaration) ctx)
    (h : w.describeDeclaration declaration ctx = .ok s) : Embedded ctx s := by
  have hctx := hmet.expands _ rfl
  have hlinks : PlainLinks w.settings declaration.importTypes := hmet.links
  -- A declaration is only met where it is described in full, so nothing is asked of it
  -- as a link.
  unfold Declaration.importTypes at hlinks
  unfold Walker.describeDeclaration at h
  split at h
  · next target hform =>
    rw [hform] at hlinks
    split at h
    · next args hwrapper =>
      exact hw.describeWrapper (hlinks.mono (wrapperArgs?_importTypes hwrapper)) hmet.path h
    · have htarget := hw.describe
        (.type hlinks (Context.ownedBy_basePath_ne_empty hmet.path)) h
      exact ⟨htarget.below, by simp [hctx]⟩
  · next heritage members hform =>
    rw [hform] at hlinks
    exact hw.describeBody (hlinks.mono (List.subset_append_left ..))
      (hlinks.mono (List.subset_append_right ..)) hmet.path hctx h
  · next heritage members hform =>
    rw [hform] at hlinks
    refine hw.describeBody (hlinks.mono ?_) (hlinks.mono (List.subset_append_right ..)) hmet.path
      hctx h
    cases heritage <;> simp [importTypesOf, importTypesOfOption]
  · next members hform =>
    rw [hform] at hlinks
    exact hw.describeEnum hlinks hmet.path h

/-- What a member is described as. -/
theorem describeMemberType (hw : w.Embeds) {member : Member}
    (hlinks : PlainLinks w.settings member.importTypes) (hpath : ctx.basePath ≠ "")
    (h : w.describeMemberType member ctx = .ok s) : Embedded ctx s := by
  rcases describeMemberType_eq_ok.mp h with ⟨type, htype, h⟩ | ⟨signature, hform, h⟩ | ⟨-, rfl⟩
  · exact hw.describe (.type (hlinks.mono (Member.importTypes_type?_subset htype)) hpath) h
  · rw [Member.importTypes_eq, hform] at hlinks
    exact hw.describeFunction hlinks hpath h
  · exact ⟨encodedBelow_of_properties nofun rfl rfl,
      fun _ => ⟨fun _ => ⟨rfl, rfl⟩, nofun, nofun, nofun⟩⟩

/-- One level of a walk keeps what the levels below keep. -/
theorem describeNode (hw : w.Embeds) {node : Node} (hmet : Met w.settings node ctx)
    (h : w.describeNode node ctx = .ok s) : Embedded ctx s := by
  cases node with
  | type type => exact hw.describeType hmet.links hmet.path h
  | declaration declaration => exact hw.describeDeclaration hmet h
  | member member => exact hw.describeMemberType hmet.links hmet.path h

end Walker.Embeds

/-! ### Whole descriptions -/

/-- By induction on the levels, a walker with any number of them embeds what it
describes. -/
theorem walkerWithin_embeds {program : Program} {settings : Settings}
    (hprogram : PlainProgram program settings) (levels : Nat) :
    (walkerWithin program settings levels).Embeds := by
  induction levels with
  | zero =>
    exact
      { program := hprogram
        places := walkerWithin_places program settings 0
        describe := fun _ h => nomatch h }
  | succ levels ih =>
    refine
      { program := hprogram
        places := walkerWithin_places program settings (levels + 1)
        describe := fun hmet h => ?_ }
    obtain ⟨t, ht, rfl⟩ := describeWithin_succ_eq_ok.mp h
    exact (ih.describeNode hmet ht).congr (content_placed _ t)

/-- In a program whose declarations have names, and which like the type has
no import type that is a model wrapper: below the description of a type at a
root with a name, no object has the name of a type or a model, so the body of
nothing declared is there, every enum and every union has the name that its
path makes, and every link has a name and no properties. -/
theorem embedded_below_root {program : Program} {settings : Settings} {type : TypeNode}
    {ctx : Context} {owner : String} {s : Shape} (hprogram : PlainProgram program settings)
    (hlinks : PlainLinks settings type.importTypes) (hroot : ctx.parentPath = "")
    (howner : ctx.owner = some owner) (hnamed : owner ≠ "")
    (h : (describe program settings (.type type) ctx : Attempt Shape) = .ok s) :
    ∀ n ∈ s.descendants, n.Encoded := by
  rw [describe_eq_describeWithin] at h
  have hpath : ctx.basePath ≠ "" := by rwa [Context.basePath_of_owner hroot howner]
  exact ((walkerWithin_embeds hprogram settings.maxDepth).describe (.type hlinks hpath) h).below

/-- A program that declares the interface `User`, with a property `friend`
of type `User` and a property `status` of type `"on" | "off"`. -/
def friendly : Program where
  modules := #[
    { path := ⟨true, ["app.ts"]⟩
      declarations := [
        ("User",
          { name := "User"
            form := .interface [] [
              { name := "friend"
                form := .signature (some ⟨.reference ⟨.identifier "User", [], 0⟩, {}⟩)
                isOptional := false, doc := {}, location := {} },
              { name := "status"
                form := .signature (some
                  ⟨.union [⟨.stringLiteral "on", {}⟩, ⟨.stringLiteral "off", {}⟩], {}⟩)
                isOptional := false, doc := {}, location := {} }]
            doc := {}, scope := 0, location := {}, isGeneric := false })] }]

/-- The user of `friendly`: the friend is a link, and the name of the enum is
made from its path. -/
def friendlyUser : Shape where
  kind := .object
  typeName := some "User"
  propertyPath := "User"
  properties := [
    { kind := .reference, typeName := some "User", propertyName := "friend",
      propertyPath := "User.friend" },
    { kind := .enum, typeName := some "UserStatusEnum", propertyName := "status",
      propertyPath := "User.status",
      properties := [literalProperty "User.status" "on", literalProperty "User.status" "off"] }]

/-- The program has no import types at all. -/
theorem friendly_plain : PlainProgram friendly {} := by
  have hdeclares (declaration : Declaration) (h : friendly.Declares declaration) :
      declaration.name = "User" ∧ declaration.importTypes = [] := by
    obtain ⟨scope, hscope, hentry⟩ := h
    obtain rfl : scope = friendly.modules[0] := by simpa [friendly] using hscope
    obtain rfl := List.mem_singleton.mp hentry
    exact ⟨rfl, rfl⟩
  constructor
  · intro declaration h
    simp [(hdeclares declaration h).1]
  · intro declaration h
    simp [(hdeclares declaration h).2, PlainLinks]

/-- Below the user of `friendly`, which is described at a root. -/
theorem embedded_below_root_friendly :
    let user : TypeNode := ⟨.reference ⟨.identifier "User", [], 0⟩, {}⟩
    (describe friendly {} (.type user) (.root "User") : Attempt Shape) = .ok friendlyUser ∧
      ∀ n ∈ friendlyUser.descendants, n.Encoded := by
  intro user
  have huser : (describe friendly {} (.type user) (.root "User") : Attempt Shape) =
      .ok friendlyUser := rfl
  exact ⟨huser, embedded_below_root friendly_plain (fun _ h => absurd h List.not_mem_nil) rfl rfl
    (by decide) huser⟩

end Expansion

end AppMetadata
