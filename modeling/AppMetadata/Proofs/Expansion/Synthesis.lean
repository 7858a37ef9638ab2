import AppMetadata.Proofs.Expansion.Owners
import AppMetadata.Proofs.Expansion.Rooting
import AppMetadata.Proofs.Expansion.Trace

/-!
# `AppMetadata.Proofs.Expansion.Synthesis`: where synthesized types come from

An enum of string literals and a union have no name in the source. Below a
property they get one from the path at which they stand. So what such a shape
lists, and how it is called, is told by one site that the description visits:
the written type says what is listed, and the path of the site gives the name.

* `EnumFrom.sameName_iff`, `UnionFrom.sameName_iff`: when two of them have one
  name.
* `alternatives_unique`: the alternatives of a union are told by the types
  and the path.
* `sourcedAt_of_describe`: every enum of literals and every union of a
  description has such a site.
-/

set_option autoImplicit false

namespace AppMetadata

/-- Names from paths are alike exactly if the paths read alike without dots,
whatever the suffix is. -/
theorem syntheticName?_eq_iff {suffix path other : String} :
    syntheticName? suffix path = syntheticName? suffix other ↔ baseName path = baseName other := by
  constructor
  · intro h
    unfold syntheticName? at h
    split at h <;> split at h
    · next hpath hother => rw [String.isEmpty_iff.mp hpath, String.isEmpty_iff.mp hother]
    · cases h
    · cases h
    · exact String.append_left_inj _ |>.mp (Option.some.inj h)
  · intro h
    simp only [syntheticName?, h]

namespace Shape

/-- An enum that is made of string literals: its parts are values. The parts
of a declared enum are members. -/
def IsLiteralEnum (shape : Shape) : Prop :=
  shape.kind = .enum ∧ ∃ value ∈ shape.properties, value.kind = .property

/-- The names of the parts, in order. -/
def values (shape : Shape) : List String :=
  shape.properties.map (·.propertyName)

/-- A shape as it is, or with an argument that a model wrapper put in place of
those that it has. -/
def SplicedFrom (shape spliced : Shape) : Prop :=
  spliced = shape ∨ ∃ argument, spliced = { shape with args := [argument] }

/-- Arguments may be put in place several times, and the last ones stay. -/
theorem SplicedFrom.trans {first second third : Shape} (h : first.SplicedFrom second)
    (hnext : second.SplicedFrom third) : first.SplicedFrom third := by
  obtain rfl | ⟨argument, rfl⟩ := hnext
  · exact h
  · obtain rfl | ⟨_, rfl⟩ := h
    · exact .inr ⟨argument, rfl⟩
    · exact .inr ⟨argument, rfl⟩

/-- Only the arguments change, so the name stays. -/
theorem SplicedFrom.propertyName {shape spliced : Shape} (h : shape.SplicedFrom spliced) :
    spliced.propertyName = shape.propertyName := by
  obtain rfl | ⟨_, rfl⟩ := h <;> rfl

/-- And so does the kind. -/
theorem SplicedFrom.kind {shape spliced : Shape} (h : shape.SplicedFrom spliced) :
    spliced.kind = shape.kind := by
  obtain rfl | ⟨_, rfl⟩ := h <;> rfl

/-- Unions of the same alternatives, the arguments aside that model wrappers
put to them. -/
def SameAlternatives (union other : Shape) : Prop :=
  ∃ alternatives, List.Forall₂ SplicedFrom alternatives union.properties ∧
    List.Forall₂ SplicedFrom alternatives other.properties

/-- Properties that nothing was given to. -/
theorem forall₂_splicedFrom_refl (shapes : List Shape) : List.Forall₂ SplicedFrom shapes shapes :=
  List.forall₂_same.mpr fun _ _ => .inl rfl

/-- Properties that were given something twice. -/
theorem forall₂_splicedFrom_trans {first second third : List Shape}
    (h : List.Forall₂ SplicedFrom first second) (hnext : List.Forall₂ SplicedFrom second third) :
    List.Forall₂ SplicedFrom first third := by
  induction h generalizing third with
  | nil => exact hnext
  | cons hhead _ ih =>
    obtain _ | ⟨hnext, hrest⟩ := hnext
    exact .cons (hhead.trans hnext) (ih hrest)

/-- The names of the properties stay in order. -/
theorem map_propertyName_of_spliced {properties spliced : List Shape}
    (h : List.Forall₂ SplicedFrom properties spliced) :
    spliced.map (·.propertyName) = properties.map (·.propertyName) := by
  induction h with
  | nil => rfl
  | cons hhead _ ih => rw [List.map_cons, List.map_cons, ih, hhead.propertyName]

end Shape

namespace Expansion

open Shape

/-- Putting arguments to properties changes nothing else of them. -/
theorem forall₂_of_spliced {label : String} {arguments properties spliced : List Shape}
    (h : (arguments.foldlM (spliceArg label) properties : Attempt (List Shape)) = .ok spliced) :
    List.Forall₂ SplicedFrom properties spliced := by
  obtain ⟨-, rfl⟩ := foldlM_spliceArg_eq_ok.mp h
  refine (forall₂_giveEach arguments properties).imp fun property given hgiven => ?_
  rcases hgiven with rfl | ⟨argument, -, -, rfl⟩
  · exact .inl rfl
  · exact .inr ⟨argument, rfl⟩

/-! ### Types that are written at a site -/

namespace Site

/-- What `read` says about the type at a site below a property, with the path
of the site. -/
def written? {α : Type} (read : TypeNode → Option α) (site : Site) : Option (String × α) :=
  match site.node with
  | .type type =>
    if site.ctx.parentPath.isEmpty then none else (read type).map (site.ctx.parentPath, ·)
  | _ => none

/-- The path and the values of an enum that is written at a site. -/
def enum? (site : Site) : Option (String × List String) :=
  site.written? enumLiterals?

/-- The path and the alternatives of a union that is written at a site. -/
def union? (site : Site) : Option (String × List TypeNode) :=
  site.written? unionTypes?

/-- What is written at a site below a property, with the path of the property. -/
theorem written?_eq_some {α : Type} {read : TypeNode → Option α} {type : TypeNode} {ctx : Context}
    {a : α} (hpath : ctx.parentPath ≠ "") (hread : read type = some a) :
    written? read ⟨.type type, ctx⟩ = some (ctx.parentPath, a) := by
  simp [written?, hread, String.isEmpty_iff, hpath]

end Site

/-- The shapes of the alternatives of a union at `path`. -/
def AlternativesAt (program : Program) (settings : Settings) (path : String)
    (types : List TypeNode) (alternatives : List Shape) : Prop :=
  List.Forall₂ (fun (entry : TypeNode × Nat) alternative =>
      (describe program settings (.type entry.1)
        { parentPath := joinPath path (toString entry.2) } : Attempt Shape) = .ok alternative)
    types.zipIdx alternatives

variable {program : Program} {settings : Settings}

/-- A description has one answer, so a union has one list of alternatives. -/
theorem alternatives_unique {path : String} {types : List TypeNode} {first second : List Shape}
    (hfirst : AlternativesAt program settings path types first)
    (hsecond : AlternativesAt program settings path types second) : first = second := by
  have hanswer := Attempt.mapM_eq_ok.mpr hfirst
  rw [Attempt.mapM_eq_ok.mpr hsecond] at hanswer
  exact (Except.ok.inj hanswer).symm

/-- An enum of string literals at `path` that is written at one of the
allowed sites, where it gets its name from the path. -/
structure EnumFrom (allowed : Site → Prop) (path : String) (n : Shape) : Prop where
  site : ∃ site, allowed site ∧ site.enum? = some (path, n.values)
  name : enumName? path = n.typeName
  named : n.typeName.isSome = true

/-- A union at `path` that is written at one of the allowed sites, where it
gets its name from the path. -/
structure UnionFrom (program : Program) (settings : Settings) (allowed : Site → Prop)
    (path : String) (n : Shape) : Prop where
  site : ∃ site types, allowed site ∧ site.union? = some (path, types) ∧
    ∃ alternatives, AlternativesAt program settings path types alternatives ∧
      List.Forall₂ SplicedFrom alternatives n.properties
  name : unionName? path = n.typeName
  named : n.typeName.isSome = true

/-- Two enums of literals have one name exactly if their paths read alike
without the dots. -/
theorem EnumFrom.sameName_iff {allowed : Site → Prop} {path path' : String} {n n' : Shape}
    (h : EnumFrom allowed path n) (h' : EnumFrom allowed path' n') :
    n.typeName = n'.typeName ↔ baseName path = baseName path' := by
  rw [← h.name, ← h'.name]
  exact syntheticName?_eq_iff

/-- Two unions have one name exactly if their paths read alike without the
dots. -/
theorem UnionFrom.sameName_iff {allowed : Site → Prop} {path path' : String} {n n' : Shape}
    (h : UnionFrom program settings allowed path n)
    (h' : UnionFrom program settings allowed path' n') :
    n.typeName = n'.typeName ↔ baseName path = baseName path' := by
  rw [← h.name, ← h'.name]
  exact syntheticName?_eq_iff

/-- A shape at `path`: if its type was synthesized, then at an allowed site. -/
structure Sourced (program : Program) (settings : Settings) (allowed : Site → Prop)
    (path : String) (n : Shape) : Prop where
  enum : n.IsLiteralEnum → EnumFrom allowed path n
  union : n.kind = .union → UnionFrom program settings allowed path n

/-- What the description of a node in `ctx` says about the sites of its
types. -/
structure SourcedAt (program : Program) (settings : Settings) (allowed : Site → Prop)
    (ctx : Context) (s : Shape) : Prop where
  /-- Only literals are values. -/
  type : s.kind ≠ .property
  here : ctx.parentPath ≠ "" → Sourced program settings allowed ctx.parentPath s
  below : ∀ n ∈ s.descendants, Sourced program settings allowed n.propertyPath n

variable {allowed : Site → Prop} {path : String} {ctx : Context} {s t : Shape}

/-- Nothing is asked of kinds that are not synthesized. -/
theorem sourced_of_kind (henum : s.kind ≠ .enum) (hunion : s.kind ≠ .union) :
    Sourced program settings allowed path s :=
  ⟨fun h => absurd h.1 henum, fun h => absurd h hunion⟩

/-- Kind, name and parts decide, and a part may have been given an argument. -/
theorem Sourced.splice (h : Sourced program settings allowed path t) (hkind : s.kind = t.kind)
    (hname : t.typeName.isSome = true → s.typeName = t.typeName)
    (hproperties : List.Forall₂ SplicedFrom t.properties s.properties) :
    Sourced program settings allowed path s where
  enum := by
    rintro ⟨henum, value, hvalue, hproperty⟩
    obtain ⟨original, horiginal, hsplice⟩ :=
      Attempt.exists_of_mem_right hproperties hvalue
    obtain ⟨hsite, hpath, hnamed⟩ :=
      h.enum ⟨hkind ▸ henum, original, horiginal, hsplice.kind ▸ hproperty⟩
    have hvalues : s.values = t.values := map_propertyName_of_spliced hproperties
    exact ⟨hvalues ▸ hsite, hname hnamed ▸ hpath, hname hnamed ▸ hnamed⟩
  union hunion := by
    obtain ⟨⟨site, types, hallowed, hsite, alternatives, halternatives, hspliced⟩, hpath, hnamed⟩ :=
      h.union (hkind ▸ hunion)
    exact ⟨⟨site, types, hallowed, hsite, alternatives, halternatives,
      forall₂_splicedFrom_trans hspliced hproperties⟩, hname hnamed ▸ hpath, hname hnamed ▸ hnamed⟩

/-- Only the content of a shape counts, as its path is given. -/
theorem Sourced.congr (h : Sourced program settings allowed path t)
    (hcontent : s.content = t.content) : Sourced program settings allowed path s :=
  h.splice (kind_congr hcontent) (fun _ => typeName_congr hcontent)
    (properties_congr hcontent ▸ forall₂_splicedFrom_refl _)

/-- The same for what a description says. -/
theorem SourcedAt.congr (h : SourcedAt program settings allowed ctx t)
    (hcontent : s.content = t.content) : SourcedAt program settings allowed ctx s where
  type := kind_congr hcontent ▸ h.type
  here hpath := (h.here hpath).congr hcontent
  below := descendants_congr hcontent ▸ h.below

/-- A shape that stands at the parent path of its context. -/
theorem SourcedAt.throughout (h : SourcedAt program settings allowed ctx t)
    (hpath : ctx.parentPath ≠ "") (hcontent : s.content = t.content)
    (hplace : s.propertyPath = ctx.parentPath) :
    ∀ n ∈ s.walk, Sourced program settings allowed n.propertyPath n := by
  rw [walk_eq, List.forall_mem_cons, descendants_congr hcontent, hplace]
  exact ⟨(h.here hpath).congr hcontent, h.below⟩

/-- What is said about a site depends on the parent path alone. -/
theorem SourcedAt.move {inner : Context} (h : SourcedAt program settings allowed inner s)
    (hparent : ctx.parentPath = inner.parentPath) : SourcedAt program settings allowed ctx s :=
  ⟨h.type, hparent ▸ h.here, h.below⟩

/-- The name of a model plays no part. -/
theorem SourcedAt.model (h : SourcedAt program settings allowed ctx s) (modelName : Option String) :
    SourcedAt program settings allowed ctx { s with modelName } :=
  ⟨h.type, fun hpath => (h.here hpath).splice rfl (fun _ => rfl) (forall₂_splicedFrom_refl _),
    h.below⟩

/-- A declaration names what has no name, and below a property every
synthesized type has one. -/
theorem SourcedAt.declare (h : SourcedAt program settings allowed ctx s)
    (declaration : Declaration) :
    SourcedAt program settings allowed ctx (ofDeclaration declaration s) := by
  unfold ofDeclaration
  split
  · next hnone =>
    rw [Bool.and_eq_true, Option.isNone_iff_eq_none] at hnone
    have hnamed : SourcedAt program settings allowed ctx
        { s with typeName := some declaration.name } :=
      { type := h.type
        here := fun hpath => (h.here hpath).splice rfl (by simp [hnone.1])
          (forall₂_splicedFrom_refl _)
        below := h.below }
    exact hnamed.congr rfl
  · exact h.congr rfl

/-- A shape of another kind has nothing to say about itself, but its parts
have. -/
theorem sourcedAt_of_parts (hkind : s.kind ∉ [Kind.property, .enum, .union])
    (hparts : ∀ n ∈ s.descendants, Sourced program settings allowed n.propertyPath n) :
    SourcedAt program settings allowed ctx s := by
  simp only [List.mem_cons, List.not_mem_nil, or_false, not_or] at hkind
  exact ⟨hkind.1, fun _ => sourced_of_kind hkind.2.1 hkind.2.2, hparts⟩

/-- What is below a shape that has nothing but properties. -/
theorem sourced_of_properties (hargs : s.args = []) (hreturn : s.returnType = none)
    (hproperties : ∀ part ∈ s.properties, ∀ n ∈ part.walk,
      Sourced program settings allowed n.propertyPath n) :
    ∀ n ∈ s.descendants, Sourced program settings allowed n.propertyPath n :=
  forall_mem_descendants_of_properties hproperties hargs hreturn

/-- A literal is neither an enum nor a union. -/
theorem sourced_literalProperty (path literal : String) :
    ∀ n ∈ (literalProperty path literal).walk,
      Sourced program settings allowed n.propertyPath n := by
  rw [walk_eq, List.forall_mem_cons]
  exact ⟨sourced_of_kind (by simp [literalProperty]) (by simp [literalProperty]),
    sourced_of_properties rfl rfl (by simp [literalProperty])⟩

/-! ### One level of a walk -/

/-- A walker that keeps to the allowed sites, all of which have a path, and
answers as a whole description does. -/
structure Walker.Sources (w : Walker Attempt) (program : Program) (settings : Settings)
    (allowed : Site → Prop) : Prop where
  path {site : Site} : allowed site → site.ctx.basePath ≠ ""
  described {node : Node} {ctx : Context} {s : Shape} : w.describe node ctx = .ok s →
    (Expansion.describe program settings node ctx : Attempt Shape) = .ok s
  sourced {node : Node} {ctx : Context} {s : Shape} : w.describe node ctx = .ok s →
    SourcedAt program settings allowed ctx s

namespace Walker

variable {w : Walker Attempt} (hw : w.Sources program settings allowed)

section
include hw

/-- A node that is described at a path of its own, with what its member or
parameter adds. -/
theorem Sources.throughout {node : Node} (h : w.describe node ctx = .ok t)
    (hpath : ctx.parentPath ≠ "") (hcontent : s.content = t.content)
    (hplace : s.propertyPath = ctx.parentPath) :
    ∀ n ∈ s.walk, Sourced program settings allowed n.propertyPath n :=
  (hw.sourced h).throughout hpath hcontent hplace

/-- A node that is described at a path of its own, as it is. -/
theorem Sources.part {node : Node} (h : w.describe node ctx = .ok t) (hpath : ctx.parentPath ≠ "") :
    ∀ n ∈ t.walk, Sourced program settings allowed n.propertyPath n := by
  have hwhole := hw.described h
  rw [describe_eq_describeWithin] at hwhole
  exact hw.throughout h hpath rfl
    (walkerWithin_places program settings settings.maxDepth hpath hwhole)

/-- A member is at the path that its type was described at, where what
`SourcedAt` says of the context holds of the member. -/
theorem Sources.member {base : String} (hbase : base ≠ "") {owner : Option String} {member : Member}
    (h : w.describeMember base owner member = .ok s) :
    s.kind ≠ .property ∧ ∀ n ∈ s.walk, Sourced program settings allowed n.propertyPath n := by
  obtain ⟨t, ht, rfl⟩ := describeMember_eq_ok.mp h
  have hcontent := content_ofMember member (joinPath base member.name) t
  exact ⟨kind_congr hcontent ▸ (hw.sourced ht).type,
    hw.throughout ht (joinPath_ne_empty hbase _) hcontent rfl⟩

/-- The members of a body, one by one. -/
theorem Sources.members (hbase : ctx.basePath ≠ "") {members : List Member} {shapes : List Shape}
    (h : w.describeMembers members ctx = .ok shapes) :
    ∀ part ∈ shapes, ∀ n ∈ part.walk, Sourced program settings allowed n.propertyPath n := by
  intro part hpart
  obtain ⟨member, -, hmember⟩ := Attempt.exists_of_mem_right (describeMembers_eq_ok.mp h) hpart
  exact (hw.member hbase hmember).2

/-- Properties that are taken over have been placed before, so they are sourced
as they are. -/
theorem Sources.flattened {types : List TypeNode} {shapes : List Shape}
    (h : w.flattened types ctx = .ok shapes) :
    ∀ part ∈ shapes, ∀ n ∈ part.walk, Sourced program settings allowed n.propertyPath n := by
  intro part hpart
  obtain ⟨type, -, whole, hwhole, hpart⟩ := mem_of_mem_flattened h hpart
  exact (forall_mem_descendants.mp (hw.sourced hwhole).below).1 part hpart

/-- The alternatives of a union, as they are without an owner. -/
theorem Sources.alternatives (hpath : ctx.parentPath ≠ "") {types : List TypeNode}
    {properties : List Shape}
    (h : List.Forall₂ (fun (entry : TypeNode × Nat) s => w.describe (.type entry.1)
      (ctx.below (joinPath ctx.basePath (toString entry.2))) = .ok s) types.zipIdx properties) :
    AlternativesAt program settings ctx.parentPath types properties := by
  -- Where there is a path no shape depends on the owner, so two sites at one
  -- path have the same alternatives, whoever owns them.
  refine h.imp fun entry part hpart => ?_
  rw [Context.basePath_of_parentPath hpath] at hpart
  exact describe_withOwner (joinPath_ne_empty hpath _) (hw.described hpart) none

/-- The properties of a model are those of its blueprint, up to the arguments
that it puts to them. -/
theorem Sources.splice {model : Shape} {args : TypeNode} {location : Location}
    (hmodel : SourcedAt program settings allowed ctx model)
    (h : w.spliceArgs model args location ctx = .ok s) :
    SourcedAt program settings allowed ctx s := by
  obtain ⟨shape, properties, hshape, -, hspliced, rfl⟩ := spliceArgs_eq_ok.mp h
  obtain ⟨hparts, hargs, hreturn⟩ := forall_mem_descendants.mp hmodel.below
  have harguments := (forall_mem_descendants.mp (hw.sourced hshape).below).1
  have hproperties := forall₂_of_spliced hspliced
  have hgiven : ∀ part ∈ properties, ∀ n ∈ part.walk,
      Sourced program settings allowed n.propertyPath n := by
    intro part hpart
    exact forall_mem_walk_of_given
      (fun _ _ hhere _ => hhere.splice rfl (fun _ => rfl) (forall₂_splicedFrom_refl _)) hparts
      harguments (given_of_mem_spliced hspliced hpart)
  exact
    { type := hmodel.type
      here := fun hpath => (hmodel.here hpath).splice rfl (fun _ => rfl) hproperties
      below := forall_mem_descendants.mpr ⟨hgiven, hargs, hreturn⟩ }

/-- By the ways in which a shape is made. Enums of literals and unions are made
at a site where they are written, and this site is the one that is visited. All
others hand on what was made below. -/
theorem Sources.sourcedAt_of_made {node : Node} (hsite : allowed ⟨node, ctx⟩)
    (h : w.Made node ctx s) : SourcedAt program settings allowed ctx s := by
  have hbase : ctx.basePath ≠ "" := hw.path hsite
  cases h with
  | @primitive kind hkind =>
    refine sourcedAt_of_parts ?_ (sourced_of_properties rfl rfl (by simp))
    cases kind <;> simp [Kind.isPrimitive] at hkind ⊢
  | value | link | nameOnly =>
    exact sourcedAt_of_parts (by simp [Shape.link])
      (sourced_of_properties rfl rfl (by simp [Shape.link]))
  | @literals type name literals nullable hnode hliterals hname =>
    subst hnode
    have hvalues :
      (literals.map (literalProperty ctx.basePath)).map (·.propertyName) = literals := by
      simp [Function.comp_def, literalProperty]
    -- The site that the enum comes from is the one that is described.
    refine ⟨by simp, fun hpath => ⟨fun _ => ⟨⟨_, hsite, ?_⟩, ?_, rfl⟩, by simp⟩,
      sourced_of_properties rfl rfl fun part hpart => ?_⟩
    · rw [Site.enum?, Site.written?_eq_some hpath hliterals, Shape.values, hvalues]
    · rwa [Context.anonymousName?_of_parentPath hpath] at hname
    · obtain ⟨literal, -, rfl⟩ := List.mem_map.mp hpart
      exact sourced_literalProperty _ literal
  | @union type types properties name nullable hmany hproperties hnode htypes hname =>
    subst hnode
    refine ⟨by simp, fun hpath => ⟨by simp [IsLiteralEnum], fun _ => ⟨?_, ?_, rfl⟩⟩,
      sourced_of_properties rfl rfl fun part hpart => ?_⟩
    · exact ⟨_, types, hsite, Site.written?_eq_some hpath htypes, properties,
        hw.alternatives hpath hproperties, forall₂_splicedFrom_refl _⟩
    · rwa [Context.anonymousName?_of_parentPath hpath] at hname
    · obtain ⟨entry, -, hentry⟩ := Attempt.exists_of_mem_right hproperties hpart
      exact hw.part hentry (joinPath_ne_empty hbase _)
  | object hproperties =>
    exact sourcedAt_of_parts (by simp)
      (sourced_of_properties rfl rfl (hw.members hbase hproperties))
  | merged hproperties =>
    exact sourcedAt_of_parts (by simp) (sourced_of_properties rfl rfl (hw.flattened hproperties))
  | body name hproperties =>
    obtain ⟨inherited, own, hinherited, hown, rfl⟩ := bodyProperties_eq_ok.mp hproperties
    refine sourcedAt_of_parts (by simp) (sourced_of_properties rfl rfl fun part hpart => ?_)
    rcases mem_of_mem_overridden hpart with hpart | hpart
    · exact hw.members hbase hown part hpart
    · exact hw.flattened hinherited part hpart
  | enum hnode hform hproperties =>
    refine ⟨by simp, fun _ => ⟨?_, by simp⟩, sourced_of_properties rfl rfl fun part hpart => ?_⟩
    · -- Members are no values, so a declared enum is not made of literals.
      rintro ⟨-, value, hvalue, hproperty⟩
      obtain ⟨member, -, hmember⟩ := Attempt.exists_of_mem_right hproperties hvalue
      exact absurd hproperty (hw.member hbase hmember).1
    · obtain ⟨member, -, hmember⟩ := Attempt.exists_of_mem_right hproperties hpart
      exact (hw.member hbase hmember).2
  | function location hparams hargs hreturns =>
    refine sourcedAt_of_parts (by simp)
      (forall_mem_descendants.mpr ⟨by simp, fun part hpart => ?_, fun part hpart => ?_⟩)
    · obtain ⟨param, -, hparam⟩ := Attempt.exists_of_mem_right hargs hpart
      obtain ⟨type, t, -, ht, rfl⟩ := describeParameter_eq_ok.mp hparam
      exact hw.throughout ht (joinPath_ne_empty hbase _) (content_ofParameter param _ t) rfl
    · obtain rfl := Option.some.inj hpart
      exact hw.part hreturns hbase
  | same array nullable ht => exact (hw.sourced ht).congr rfl
  | target name ht => exact (hw.sourced ht).move rfl
  | @named declaration t hdeclared ht =>
    have hsourced : SourcedAt program settings allowed ctx t := (hw.sourced ht).move rfl
    exact hsourced.declare declaration
  | @model _ _ t force modelName ht =>
    have hsourced : SourcedAt program settings allowed ctx t := (hw.sourced ht).move rfl
    exact hsourced.model modelName
  | @modelWith _ _ t _ force named location hwraps ht hs =>
    have hsourced : SourcedAt program settings allowed ctx t := (hw.sourced ht).move rfl
    exact hw.splice (hsourced.model _) hs

end

end Walker

/-! ### Whole descriptions -/

variable {sites : List Site} {levels : Nat} {node : Node}

/-- By induction on the levels of a run: what it makes is sourced at the sites
that it came to. -/
theorem sourcedAt_of_run (hpath : ∀ site, allowed site → site.ctx.basePath ≠ "")
    (hlevels : levels ≤ settings.maxDepth)
    (h : (describeTraced program settings levels node ctx).run = .ok (s, sites))
    (hallowed : ∀ site ∈ sites, allowed site) : SourcedAt program settings allowed ctx s := by
  -- By induction on the levels: the walker below a node is confined to the
  -- allowed sites, so its own answers are sourced.
  induction levels generalizing node ctx s sites with
  | zero => cases h
  | succ levels ih =>
    obtain ⟨hsite, t, ht, rfl⟩ := made_of_run h hallowed
    have hw :
      (walkerConfined allowed program settings levels).Sources program settings allowed := by
      refine ⟨fun {site} => hpath site, fun hdescribed => ?_, fun hdescribed => ?_⟩
      · obtain ⟨_, hrun, -⟩ := walkerConfined_eq_ok.mp hdescribed
        exact describe_of_describeWithin (by omega) (describeWithin_of_run hrun)
      · obtain ⟨_, hrun, hbelow⟩ := walkerConfined_eq_ok.mp hdescribed
        exact ih (by omega) hrun hbelow
    exact (hw.sourcedAt_of_made hsite ht).congr (content_placed ctx t)

/-- In a description all of whose sites have a path, every enum of literals
and every union is made by the type of a site at its path, and has its name
from there. -/
theorem sourcedAt_of_describe (hpath : ∀ site, allowed site → site.ctx.basePath ≠ "")
    (h : (describe program settings node ctx : Attempt Shape) = .ok s)
    (hallowed : ∀ site ∈ visited program settings node ctx, allowed site) :
    SourcedAt program settings allowed ctx s :=
  sourcedAt_of_run hpath (Nat.le_refl _) (run_of_describe h) hallowed

end Expansion

end AppMetadata
