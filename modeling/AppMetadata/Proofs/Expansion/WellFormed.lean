import AppMetadata.Proofs.Expansion.Paths
import AppMetadata.Proofs.Expansion.Rules
import AppMetadata.Proofs.Program.Loaded
import AppMetadata.Proofs.Shape

/-!
# `AppMetadata.Proofs.Expansion.WellFormed`: every description is well formed

What kind a shape has decides which of its fields say something: only
composite types have properties, only operations have a return type, and what
is linked has a name and nothing else. The kinds of a shape and of the shapes
below it come from different places. Marks, names, arguments and whole lists
of properties are put on shapes that were made for something else.

* `Walker.Forms.throughout_of_made`: each way in which a walker makes a shape
  keeps it well formed.
* `describe_wellFormed`: so is every shape in every description. The children
  of an enum are values, unless the enum was declared with members of another
  sort.
* `mixedEnum_holds_string`: such an enum has children that are no values.
* `wellFormed_of_load`: no source file declares such an enum, so in a program
  that was loaded there is no exception.
-/

set_option autoImplicit false

namespace AppMetadata

/-- The name of an enum with a member of another sort, which the program
declares or which is described itself. Source files have none, but trees can
be built with one. -/
def Expansion.MixedName (program : Program) (node : Node) (name : String) : Prop :=
  ∃ declaration, (program.Declares declaration ∨ node = .declaration declaration) ∧
    ¬declaration.EnumPure ∧ declaration.name = name

namespace Shape

/-- A value of an enum. -/
structure IsValue (n : Shape) : Prop where
  properties : n.properties = []
  kind : n.kind = .property ∨ n.kind = .object

/-- A shape with the fields that its kind asks for. Enums with a name in
`mixed` may have any children. -/
structure WellFormed (mixed : String → Prop) (n : Shape) : Prop where
  properties : n.properties ≠ [] → n.kind = .object ∨ n.kind = .enum ∨ n.kind = .union
  primitive : n.kind.isPrimitive = true →
    n.properties = [] ∧ n.typeName = none ∧ n.returnType = none
  reference : n.kind = .reference → (∃ name, n.typeName = some name) ∧ n.properties = []
  enum : n.kind = .enum → ∃ name, n.typeName = some name ∧
    ((∀ child ∈ n.properties, child.IsValue) ∨ mixed name)
  union : n.kind = .union → (∃ name, n.typeName = some name) ∧ 2 ≤ n.properties.length
  returnType : n.returnType.isSome = true ↔ n.kind = .function
  args : n.args.length ≤ 1

/-- A shape that is well formed, with all below it. -/
def WellFormedThroughout (mixed : String → Prop) (s : Shape) : Prop :=
  ∀ n ∈ s.walk, n.WellFormed mixed

variable {mixed : String → Prop} {s t : Shape}

/-- Only the content of a shape counts. -/
theorem WellFormed.congr (h : t.WellFormed mixed) (hcontent : s.content = t.content) :
    s.WellFormed mixed := by
  have ht : t.content.WellFormed mixed :=
    ⟨h.properties, h.primitive, h.reference, h.enum, h.union, h.returnType, h.args⟩
  rw [← hcontent] at ht
  exact ⟨ht.properties, ht.primitive, ht.reference, ht.enum, ht.union, ht.returnType, ht.args⟩

/-- A shape is well formed throughout if it is itself, and each of its parts
is. -/
theorem wellFormedThroughout_iff :
    s.WellFormedThroughout mixed ↔ s.WellFormed mixed ∧
      (∀ part ∈ s.properties, part.WellFormedThroughout mixed) ∧
      (∀ part ∈ s.args, part.WellFormedThroughout mixed) ∧
      (∀ part ∈ s.returnType, part.WellFormedThroughout mixed) :=
  forall_mem_walk

/-- Whether a shape is a value does not depend on its place. -/
theorem IsValue.congr (h : t.IsValue) (hcontent : s.content = t.content) : s.IsValue where
  properties := (properties_congr hcontent).trans h.properties
  kind := kind_congr hcontent ▸ h.kind

/-- The same for all below it, which are untouched. -/
theorem WellFormedThroughout.congr (h : t.WellFormedThroughout mixed)
    (hcontent : s.content = t.content) : s.WellFormedThroughout mixed := by
  unfold WellFormedThroughout
  rw [walk_eq, descendants_congr hcontent]
  rw [WellFormedThroughout, walk_eq, List.forall_mem_cons] at h
  exact List.forall_mem_cons.mpr ⟨h.1.congr hcontent, h.2⟩

/-- Shapes whose only parts are properties. -/
theorem WellFormed.throughout_of_properties (h : s.WellFormed mixed)
    (hproperties : ∀ part ∈ s.properties, part.WellFormedThroughout mixed) (hargs : s.args = [])
    (hreturn : s.returnType = none) : s.WellFormedThroughout mixed :=
  wellFormedThroughout_iff.mpr ⟨h, hproperties, by simp [hargs], by simp [hreturn]⟩

/-! ### Shapes made in one step -/

/-- A primitive value has a kind and nothing else. -/
theorem wellFormed_primitive {kind : Kind} (hkind : kind.isPrimitive = true) :
    ({ kind } : Shape).WellFormedThroughout mixed := by
  have hhere : ({ kind } : Shape).WellFormed mixed := by
    -- What is said about the other kinds is not about this one.
    constructor <;> cases kind <;> simp_all [Kind.isPrimitive]
  exact hhere.throughout_of_properties (by simp) rfl rfl

/-- A link has a type name, and no properties. -/
theorem wellFormed_link (typeName : String) (modelName : Option String) :
    (link typeName modelName).WellFormedThroughout mixed := by
  have hhere : (link typeName modelName).WellFormed mixed := by
    constructor <;> simp [link, Kind.isPrimitive]
  exact hhere.throughout_of_properties (by simp [link]) rfl rfl

/-- An object may have any properties, and a name or none. -/
theorem wellFormed_object {typeName : Option String} {properties : List Shape}
    (h : ∀ part ∈ properties, part.WellFormedThroughout mixed) :
    ({ kind := .object, typeName, properties } : Shape).WellFormedThroughout mixed := by
  have hhere : ({ kind := .object, typeName, properties } : Shape).WellFormed mixed := by
    constructor <;> simp [Kind.isPrimitive]
  exact hhere.throughout_of_properties h rfl rfl

section

variable {name : String} {nullable : Bool} {properties : List Shape}

/-- An enum is made with its name. Its values are values, or it is one of those
that are excepted. -/
theorem wellFormed_enum (h : ∀ part ∈ properties, part.WellFormedThroughout mixed)
    (hvalues : (∀ child ∈ properties, child.IsValue) ∨ mixed name) :
    ({ kind := .enum, typeName := some name, nullable, properties } :
      Shape).WellFormedThroughout mixed := by
  refine WellFormed.throughout_of_properties ?_ h rfl rfl
  exact
    { properties := by simp
      primitive := by simp [Kind.isPrimitive]
      reference := by simp
      enum := fun _ => ⟨name, rfl, hvalues⟩
      union := by simp
      returnType := by simp
      args := by simp }

/-- A union is made with its name and with all of its alternatives, which are
two at least. -/
theorem wellFormed_union (h : ∀ part ∈ properties, part.WellFormedThroughout mixed)
    (hmany : 2 ≤ properties.length) :
    ({ kind := .union, typeName := some name, nullable, properties } :
      Shape).WellFormedThroughout mixed := by
  refine WellFormed.throughout_of_properties ?_ h rfl rfl
  exact
    { properties := by simp
      primitive := by simp [Kind.isPrimitive]
      reference := by simp
      enum := by simp
      union := fun _ => ⟨⟨name, rfl⟩, hmany⟩
      returnType := by simp
      args := by simp }

end

/-- An operation is made with its return type, and with one argument at most. -/
theorem wellFormed_function {args : List Shape} {returns : Shape} (hcount : args.length ≤ 1)
    (hargs : ∀ part ∈ args, part.WellFormedThroughout mixed)
    (hreturns : returns.WellFormedThroughout mixed) :
    ({ kind := .function, args, returnType := some returns } :
      Shape).WellFormedThroughout mixed := by
  refine wellFormedThroughout_iff.mpr ⟨?_, by simp, hargs, by simpa using hreturns⟩
  exact
    { properties := by simp
      primitive := by simp [Kind.isPrimitive]
      reference := by simp
      enum := by simp
      union := by simp
      returnType := by simp
      args := hcount }

/-! ### Shapes made of other shapes -/

/-- A name for a type that has none. Enums and unions have one already. -/
theorem WellFormed.named (h : t.WellFormed mixed) (hnone : t.typeName = none)
    (hkind : t.kind.isComposite = true) (name : String) :
    ({ t with typeName := some name } : Shape).WellFormed mixed where
  properties := h.properties
  primitive hprimitive := by
    replace hprimitive : t.kind.isPrimitive = true := hprimitive
    cases hk : t.kind <;> simp [hk, Kind.isPrimitive, Kind.isComposite] at hprimitive hkind
  reference hreference := ⟨⟨name, rfl⟩, (h.reference hreference).2⟩
  enum henum := by
    obtain ⟨name, hname, -⟩ := h.enum henum
    rw [hnone] at hname
    cases hname
  union hunion := ⟨⟨name, rfl⟩, (h.union hunion).2⟩
  returnType := h.returnType
  args := h.args

/-- The name of a model is nothing that a kind asks for. -/
theorem WellFormed.model (h : t.WellFormed mixed) (modelName : Option String) :
    ({ t with modelName } : Shape).WellFormed mixed :=
  ⟨h.properties, h.primitive, h.reference, h.enum, h.union, h.returnType, h.args⟩

/-- And it is nothing that the parts see. -/
theorem WellFormedThroughout.model (h : t.WellFormedThroughout mixed)
    (modelName : Option String) :
    ({ t with modelName } : Shape).WellFormedThroughout mixed := by
  obtain ⟨hhere, hparts⟩ := wellFormedThroughout_iff.mp h
  exact wellFormedThroughout_iff.mpr ⟨hhere.model modelName, hparts⟩

/-- One argument in place of those that a property has. -/
theorem WellFormed.give (h : t.WellFormed mixed) (argument : Shape) :
    ({ t with args := [argument] } : Shape).WellFormed mixed :=
  ⟨h.properties, h.primitive, h.reference, h.enum, h.union, h.returnType, by simp⟩

open Expansion in
/-- A model with its arguments is well formed again. No property is lost, so a
union keeps its alternatives, and none is added to a kind that has none. -/
theorem WellFormedThroughout.splice {arguments properties : List Shape}
    (h : t.WellFormedThroughout mixed)
    (harguments : ∀ part ∈ arguments, part.WellFormedThroughout mixed)
    (hlength : properties.length = t.properties.length)
    (hgiven : ∀ part ∈ properties, Given t.properties arguments part) :
    ({ t with properties } : Shape).WellFormedThroughout mixed := by
  obtain ⟨hhere, hproperties, hargs, hreturn⟩ := wellFormedThroughout_iff.mp h
  have hempty (hnone : t.properties = []) : properties = [] := by
    rw [hnone] at hlength
    exact List.length_eq_zero_iff.mp hlength
  refine wellFormedThroughout_iff.mpr ⟨?_, fun part hpart => ?_, hargs, hreturn⟩
  · exact
      { properties := fun hne => hhere.properties fun hnone => hne (hempty hnone)
        primitive := fun hkind => (hhere.primitive hkind).imp_left hempty
        reference := fun hkind => (hhere.reference hkind).imp_right hempty
        enum := fun hkind => by
          obtain ⟨name, hname, hvalues⟩ := hhere.enum hkind
          refine ⟨name, hname, hvalues.imp_left fun hvalues part hpart => ?_⟩
          -- A value of an enum may be given an argument too, and stays a value.
          rcases hgiven part hpart with hold | ⟨property, hproperty, argument, -, -, rfl⟩
          · exact hvalues part hold
          · exact ⟨(hvalues property hproperty).properties, (hvalues property hproperty).kind⟩
        union := fun hkind => (hhere.union hkind).imp_right fun hmany => hlength ▸ hmany
        returnType := hhere.returnType
        args := hhere.args }
  · exact forall_mem_walk_of_given (fun _ argument hhere _ => hhere.give argument) hproperties
      harguments (hgiven part hpart)

end Shape

namespace Expansion

open Shape

/-! ### One level of a walk -/

variable {mixed : String → Prop}

/-- A declaration gives its name only to a shape without one whose kind may
have one. -/
theorem wellFormed_ofDeclaration {declaration : Declaration} {t : Shape}
    (h : t.WellFormedThroughout mixed) :
    (ofDeclaration declaration t).WellFormedThroughout mixed := by
  unfold ofDeclaration
  split
  · next hname =>
    rw [Bool.and_eq_true, Option.isNone_iff_eq_none] at hname
    obtain ⟨hhere, hparts⟩ := wellFormedThroughout_iff.mp h
    have hnamed := hhere.named hname.1 hname.2 declaration.name
    exact (wellFormedThroughout_iff.mpr ⟨hnamed, hparts⟩).congr rfl
  · exact h.congr rfl

/-- A literal has the kind of a value, and no parts. -/
theorem isValue_literalProperty (path literal : String) : (literalProperty path literal).IsValue :=
  ⟨rfl, .inl rfl⟩

/-- And a value is well formed. -/
theorem wellFormed_literalProperty (path literal : String) :
    (literalProperty path literal).WellFormedThroughout mixed := by
  have hhere : (literalProperty path literal).WellFormed mixed := by
    constructor <;> simp [literalProperty, Kind.isPrimitive]
  exact hhere.throughout_of_properties (by simp [literalProperty]) rfl rfl

namespace Walker

/-- A node that is no enum declaration with members of another sort, or one
whose name is in `mixed`. -/
def Covers (mixed : String → Prop) (node : Node) : Prop :=
  ∀ declaration, node = .declaration declaration → ¬declaration.EnumPure → mixed declaration.name

/-- A type is no declaration. -/
theorem covers_type (type : TypeNode) : Covers mixed (.type type) :=
  fun _ h => nomatch h

/-- Neither is a member. -/
theorem covers_member (member : Member) : Covers mixed (.member member) :=
  fun _ h => nomatch h

/-- A walker whose shapes are well formed throughout, and which describes the
members of an enum as values. -/
structure Forms (w : Walker Attempt) (mixed : String → Prop) : Prop where
  declared : ∀ declaration, w.program.Declares declaration → ¬declaration.EnumPure →
    mixed declaration.name
  throughout : ∀ {node ctx s}, Covers mixed node → w.describe node ctx = .ok s →
    s.WellFormedThroughout mixed
  value : ∀ {member value ctx s}, member.form = .enumMember value →
    w.describe (.member member) ctx = .ok s → s.IsValue

variable {w : Walker Attempt} {node : Node} {ctx : Context} {s : Shape}

/-- So types need no exception, -/
theorem Forms.type (hw : w.Forms mixed) {type : TypeNode}
    (h : w.describe (.type type) ctx = .ok s) : s.WellFormedThroughout mixed :=
  hw.throughout (covers_type type) h

/-- nor do members, which are described as their types are. -/
theorem Forms.member (hw : w.Forms mixed) {base : String} {owner : Option String}
    {member : Member} (h : w.describeMember base owner member = .ok s) :
    s.WellFormedThroughout mixed := by
  obtain ⟨t, ht, rfl⟩ := describeMember_eq_ok.mp h
  exact (hw.throughout (covers_member member) ht).congr (content_ofMember ..)

/-- The members of a body, one by one. -/
theorem Forms.members (hw : w.Forms mixed) {members : List Member} {shapes : List Shape}
    (h : w.describeMembers members ctx = .ok shapes) :
    ∀ part ∈ shapes, part.WellFormedThroughout mixed := by
  intro part hpart
  obtain ⟨member, -, hmember⟩ := Attempt.exists_of_mem_right (describeMembers_eq_ok.mp h) hpart
  exact hw.member hmember

/-- The properties of a type that are taken over are parts of a shape that is
well formed throughout. -/
theorem Forms.flattened (hw : w.Forms mixed) {types : List TypeNode} {properties : List Shape}
    (h : w.flattened types ctx = .ok properties) :
    ∀ part ∈ properties, part.WellFormedThroughout mixed := by
  intro part hpart
  obtain ⟨type, -, whole, hwhole, hpart⟩ := mem_of_mem_flattened h hpart
  exact (wellFormedThroughout_iff.mp (hw.type hwhole)).2.1 part hpart

/-- Each way in which a walker makes a shape gives it the fields that its kind
asks for. -/
theorem Forms.throughout_of_made (hw : w.Forms mixed) (hnode : Covers mixed node)
    (h : w.Made node ctx s) : s.WellFormedThroughout mixed := by
  -- A shape that is made here has the parts of its kind by the rule itself. One that is
  -- handed on keeps its kind and its parts, also under another name or mark.
  cases h with
  | primitive hkind => exact wellFormed_primitive hkind
  | value => exact wellFormed_object (by simp)
  | link typeName modelName => exact wellFormed_link typeName modelName
  | nameOnly name => exact wellFormed_object (by simp)
  | literals name literals nullable =>
    refine wellFormed_enum ?_ (.inl ?_)
    · exact List.forall_mem_map.mpr fun literal _ => wellFormed_literalProperty _ literal
    · exact List.forall_mem_map.mpr fun literal _ => isValue_literalProperty _ literal
  | union name nullable hmany hproperties =>
    refine wellFormed_union (fun part hpart => ?_) ?_
    · obtain ⟨entry, -, hentry⟩ := Attempt.exists_of_mem_right hproperties hpart
      exact hw.type hentry
    · rwa [← hproperties.length_eq, List.length_zipIdx]
  | object hproperties => exact wellFormed_object (hw.members hproperties)
  | merged hproperties => exact wellFormed_object (hw.flattened hproperties)
  | body name hproperties =>
    obtain ⟨inherited, own, hinherited, hown, rfl⟩ := bodyProperties_eq_ok.mp hproperties
    refine wellFormed_object fun part hpart => ?_
    rcases mem_of_mem_overridden hpart with hpart | hpart
    · exact hw.members hown part hpart
    · exact hw.flattened hinherited part hpart
  | @enum declaration members properties hnode' hform hproperties =>
    refine wellFormed_enum (fun part hpart => ?_) ?_
    · obtain ⟨member, -, hmember⟩ := Attempt.exists_of_mem_right hproperties hpart
      exact hw.member hmember
    · by_cases hpure : declaration.EnumPure
      · -- Every member is one of an enum, and those are described as values.
        refine .inl fun child hchild => ?_
        obtain ⟨member, hmember, hdescribed⟩ := Attempt.exists_of_mem_right hproperties hchild
        obtain ⟨value, hvalue⟩ := hpure members hform member hmember
        obtain ⟨t, ht, rfl⟩ := describeMember_eq_ok.mp hdescribed
        exact (hw.value hvalue ht).congr (content_ofMember ..)
      · exact .inr (hnode declaration hnode' hpure)
  | function location hparams hargs hreturns =>
    refine wellFormed_function (hargs.length_eq ▸ hparams) (fun part hpart => ?_)
      (hw.type hreturns)
    obtain ⟨param, -, hparam⟩ := Attempt.exists_of_mem_right hargs hpart
    obtain ⟨type, t, -, ht, rfl⟩ := describeParameter_eq_ok.mp hparam
    exact (hw.type ht).congr (content_ofParameter ..)
  | same array nullable ht => exact (hw.type ht).congr rfl
  | target name ht => exact hw.type ht
  | @named declaration t hdeclared ht =>
    refine wellFormed_ofDeclaration (hw.throughout ?_ ht)
    rintro _ ⟨⟩ hmixes
    exact hw.declared declaration hdeclared hmixes
  | model force modelName ht => exact (hw.type ht).model modelName
  | modelWith force named location hwraps ht hs =>
    obtain ⟨shape, properties, hshape, -, hspliced, rfl⟩ := spliceArgs_eq_ok.mp hs
    have harguments := (wellFormedThroughout_iff.mp (hw.type hshape)).2.1
    exact ((hw.type ht).model _).splice harguments (length_spliced hspliced)
      fun part hpart => given_of_mem_spliced hspliced hpart

end Walker

/-- A member of an enum is described by nothing but its place. -/
theorem isValue_of_enumMember {w : Walker Attempt} {member : Member} {value : Option EnumValue}
    {ctx : Context} {s : Shape} (hvalue : member.form = .enumMember value)
    (h : w.describeMemberType member ctx = .ok s) : s.IsValue := by
  rcases Walker.describeMemberType_eq_ok.mp h with
    ⟨type, htype, -⟩ | ⟨signature, hmethod, -⟩ | ⟨-, rfl⟩
  · simp [Member.type?, hvalue] at htype
  · rw [hvalue] at hmethod
    cases hmethod
  · exact ⟨rfl, .inr rfl⟩

/-- Every level of a walk keeps shapes well formed. -/
theorem walkerWithin_forms {program : Program} (settings : Settings)
    (hdeclared : ∀ declaration, program.Declares declaration → ¬declaration.EnumPure →
      mixed declaration.name) (levels : Nat) :
    (walkerWithin program settings levels).Forms mixed := by
  -- No level describes nothing. With one more, a shape is made in one of the ways of
  -- `Made` from shapes of the level below, and put at its place.
  induction levels with
  | zero => exact ⟨hdeclared, fun _ h => (nomatch h), fun _ h => (nomatch h)⟩
  | succ levels ih =>
    refine ⟨hdeclared, fun {node ctx s} hnode h => ?_, fun {member value ctx s} hvalue h => ?_⟩
    · obtain ⟨t, ht, rfl⟩ := made_of_describeWithin h
      exact (ih.throughout_of_made hnode ht).congr (content_placed ctx t)
    · obtain ⟨t, ht, rfl⟩ := describeWithin_succ_eq_ok.mp h
      exact (isValue_of_enumMember hvalue ht).congr (content_placed ctx t)

/-- Every description is well formed, with all that is below: for every kind
the fields that it asks for, at most one argument, and a return type for
operations and nothing else. The children of an enum are values, unless the
enum has the name of one that was declared with members of another sort. -/
theorem describe_wellFormed {program : Program} {settings : Settings} {node : Node}
    {ctx : Context} {s : Shape}
    (h : (describe program settings node ctx : Attempt Shape) = .ok s) :
    ∀ n ∈ s.walk, n.WellFormed (MixedName program node) := by
  rw [describe_eq_describeWithin] at h
  have hdeclared (declaration : Declaration) (hdeclared : program.Declares declaration)
      (hmixes : ¬declaration.EnumPure) : MixedName program node declaration.name :=
    ⟨declaration, .inl hdeclared, hmixes, rfl⟩
  refine (walkerWithin_forms settings hdeclared settings.maxDepth).throughout ?_ h
  exact fun declaration hnode hmixes => ⟨declaration, .inr hnode, hmixes, rfl⟩

/-- The type `{ mode: "on" | "off"; find(key: string | number): boolean }`. -/
def controls : TypeNode :=
  let literal (value : String) : TypeNode := ⟨.stringLiteral value, {}⟩
  let keyword (word : Keyword) : TypeNode := ⟨.keyword word, {}⟩
  ⟨.object [
    { name := "mode", form := .signature (some ⟨.union [literal "on", literal "off"], {}⟩)
      isOptional := false, doc := {}, location := {} },
    { name := "find"
      form := .method
        { params := [⟨"key", false, some ⟨.union [keyword .string, keyword .number], {}⟩⟩]
          returns := some (keyword .boolean) }
      isOptional := false, doc := {}, location := {} }], {}⟩

/-- The controls: an enum, and an operation on a union. -/
def controlsShape : Shape where
  kind := .object
  propertyPath := "Controls"
  properties := [
    { kind := .enum, typeName := some "ControlsModeEnum", propertyName := "mode",
      propertyPath := "Controls.mode",
      properties := [literalProperty "Controls.mode" "on", literalProperty "Controls.mode" "off"] },
    { kind := .function, propertyName := "find", propertyPath := "Controls.find"
      args := [
        { kind := .union, typeName := some "ControlsFindKeyUnion", propertyName := "key",
          propertyPath := "Controls.find.key",
          properties := [
            { kind := .string, propertyPath := "Controls.find.key.0" },
            { kind := .number, propertyPath := "Controls.find.key.1" }] }]
      returnType := some { kind := .boolean, propertyPath := "Controls.find" } }]

/-- Shapes of eight kinds, each with the fields that its kind asks for. -/
theorem describe_wellFormed_controls :
    (describe ⟨#[]⟩ {} (.type controls) (.root "Controls") : Attempt Shape) = .ok controlsShape ∧
      controlsShape.walk.map (·.kind) = [.object, .enum, .property, .property, .function, .union,
        .string, .number, .boolean] ∧
      ∀ n ∈ controlsShape.walk, n.WellFormed (MixedName ⟨#[]⟩ (.type controls)) := by
  have hdescribed : (describe ⟨#[]⟩ {} (.type controls) (.root "Controls") : Attempt Shape) =
      .ok controlsShape := rfl
  exact ⟨hdescribed, rfl, describe_wellFormed hdescribed⟩

/-- An enum declaration whose only member is a property of type `string`. -/
def mixedEnum : Declaration where
  name := "D"
  form := .enum [
    { name := "a", form := .signature (some ⟨.keyword .string, {}⟩)
      isOptional := false, doc := {}, location := {} }]
  doc := {}
  scope := 0
  location := {}
  isGeneric := false

/-- The enum that `mixedEnum` declares, with a child that is a string. -/
def mixedEnumShape : Shape where
  kind := .enum
  typeName := some "D"
  propertyPath := "D"
  properties := [{ kind := .string, propertyName := "a", propertyPath := "D.a" }]

/-- Without an exception for enums with members of another sort, not every
description is well formed. -/
theorem mixedEnum_holds_string :
    (describe ⟨#[]⟩ {} (.declaration mixedEnum) (.root "D") : Attempt Shape) =
        .ok mixedEnumShape ∧
      ¬ ∀ n ∈ mixedEnumShape.walk, n.WellFormed fun _ => False := by
  refine ⟨rfl, fun hall => ?_⟩
  have hself : mixedEnumShape ∈ mixedEnumShape.walk := by simp [walk_eq]
  obtain ⟨-, -, hvalues⟩ := (hall mixedEnumShape hself).enum rfl
  -- The child is a string, neither a value of a literal nor one of a declared enum.
  have hchild := (hvalues.resolve_right id _ (List.mem_singleton_self _)).kind
  simp at hchild

/-- In a loaded program the types that are written and declared there have no
enums with members of another sort, so the children of every enum are
values. -/
theorem wellFormed_of_load {files : SourceFiles} {root : Path} {program : Program}
    (hload : (Program.load files root : Attempt Program) = .ok program) {settings : Settings}
    {node : Node} (hnode : ∀ declaration, node = .declaration declaration →
      program.Declares declaration) {ctx : Context} {s : Shape}
    (h : (describe program settings node ctx : Attempt Shape) = .ok s) :
    ∀ n ∈ s.walk, n.WellFormed fun _ => False := by
  rw [describe_eq_describeWithin] at h
  have hdeclared (declaration : Declaration) (hdeclares : program.Declares declaration)
      (hmixes : ¬declaration.EnumPure) : False :=
    hmixes (Program.enumPure_of_load hload hdeclares)
  refine (walkerWithin_forms settings hdeclared settings.maxDepth).throughout ?_ h
  exact fun declaration hdeclaration => hdeclared declaration (hnode declaration hdeclaration)

end Expansion

end AppMetadata
