import AppMetadata.Expansion.Wrapper
import Mathlib.Data.List.Forall2

/-!
# `AppMetadata.Proofs.Tree.Likeness`: types that are written alike

Two types are alike if they are built in the same way from parts that are
alike. What counts as alike is a relation `R` on types, and `TypeForm.Alike R`
goes one level down from two types to their parts. Names are left open: how
two names have to be related depends on what they denote (`Likeness`).

A property of an interface and one of a class are alike, since nothing is
read from either but the type.

* `Likeness.admits_eq`, `Likeness.rel_presentOf`, `Likeness.admitNull_eq`,
  `Likeness.mapM_stringLiteral?`: what is read from a type without a look at
  what its names denote.
* `Likeness.typeTransparent_eq`: transparent types, if the names in them are.
* `likeness_eq`: equality is a likeness.
-/

set_option autoImplicit false

namespace AppMetadata

/-! ### One level of a type -/

/-- Parameters with alike types. -/
inductive Parameter.Alike (R : TypeNode → TypeNode → Prop) : Parameter → Parameter → Prop
  | mk {name : String} {isOptional : Bool} {type type' : Option TypeNode}
    (htype : Option.Rel R type type') : Alike R ⟨name, isOptional, type⟩ ⟨name, isOptional, type'⟩

/-- Signatures with alike parameters and results. -/
inductive Signature.Alike (R : TypeNode → TypeNode → Prop) : Signature → Signature → Prop
  | mk {params params' : List Parameter} {returns returns' : Option TypeNode}
    (hparams : List.Forall₂ (Parameter.Alike R) params params')
    (hreturns : Option.Rel R returns returns') : Alike R ⟨params, returns⟩ ⟨params', returns'⟩

/-- The type of a property, of an interface or of a class. -/
inductive MemberForm.HasType : MemberForm → Option TypeNode → Prop
  | signature (type : Option TypeNode) : HasType (.signature type) type
  | field (type : Option TypeNode) : HasType (.field type) type

/-- Forms of members with alike types. -/
inductive MemberForm.Alike (R : TypeNode → TypeNode → Prop) : MemberForm → MemberForm → Prop
  | property {form form' : MemberForm} {type type' : Option TypeNode} (hform : form.HasType type)
    (hform' : form'.HasType type') (htype : Option.Rel R type type') : Alike R form form'
  | method {signature signature' : Signature}
    (hsignature : Signature.Alike R signature signature') :
    Alike R (.method signature) (.method signature')
  | enumMember (value : Option EnumValue) : Alike R (.enumMember value) (.enumMember value)
  | unsupported (description : String) (mentions mentions' : List String) :
    Alike R (.unsupported description mentions) (.unsupported description mentions')

/-- Members of one name with alike types. -/
inductive Member.Alike (R : TypeNode → TypeNode → Prop) : Member → Member → Prop
  | mk {name : String} {form form' : MemberForm} {isOptional : Bool} {doc : Doc}
    {location : Location} (hform : MemberForm.Alike R form form') :
    Alike R ⟨name, form, isOptional, doc, location⟩ ⟨name, form', isOptional, doc, location⟩

/-- Types of one form, other than names, with alike parts: `R` is about types
and `M` about members. -/
inductive TypeForm.Alike (R : TypeNode → TypeNode → Prop) (M : Member → Member → Prop) :
    TypeForm → TypeForm → Prop
  | keyword (keyword : Keyword) : Alike R M (.keyword keyword) (.keyword keyword)
  | stringLiteral (value : String) : Alike R M (.stringLiteral value) (.stringLiteral value)
  | literal (source : String) : Alike R M (.literal source) (.literal source)
  | unsupported (source : String) : Alike R M (.unsupported source) (.unsupported source)
  | array {element element' : TypeNode} (helement : R element element') :
    Alike R M (.array element) (.array element')
  | union {types types' : List TypeNode} (htypes : List.Forall₂ R types types') :
    Alike R M (.union types) (.union types')
  | intersection {types types' : List TypeNode} (htypes : List.Forall₂ R types types') :
    Alike R M (.intersection types) (.intersection types')
  | object {members members' : List Member} (hmembers : List.Forall₂ M members members') :
    Alike R M (.object members) (.object members')
  | function {signature signature' : Signature}
    (hsignature : Signature.Alike R signature signature') :
    Alike R M (.function signature) (.function signature')

/-- What is declared, in one form with alike parts. -/
inductive DeclarationForm.Alike (R : TypeNode → TypeNode → Prop) (M : Member → Member → Prop) :
    DeclarationForm → DeclarationForm → Prop
  | typeAlias {target target' : TypeNode} (htarget : R target target') :
    Alike R M (.typeAlias target) (.typeAlias target')
  | interface {heritage heritage' : List TypeNode} {members members' : List Member}
    (hheritage : List.Forall₂ R heritage heritage') (hmembers : List.Forall₂ M members members') :
    Alike R M (.interface heritage members) (.interface heritage' members')
  | classType {heritage heritage' : Option TypeNode} {members members' : List Member}
    (hheritage : Option.Rel R heritage heritage') (hmembers : List.Forall₂ M members members') :
    Alike R M (.classType heritage members) (.classType heritage' members')
  | enum {members members' : List Member} (hmembers : List.Forall₂ M members members') :
    Alike R M (.enum members) (.enum members')

/-- Declarations of one name that differ in their parts alone. -/
structure Declaration.Alike (R : TypeNode → TypeNode → Prop) (M : Member → Member → Prop)
    (declaration declaration' : Declaration) : Prop where
  name : declaration.name = declaration'.name
  form : DeclarationForm.Alike R M declaration.form declaration'.form
  doc : declaration.doc = declaration'.doc
  location : declaration.location = declaration'.location
  isGeneric : declaration.isGeneric = declaration'.isGeneric

/-- Alike declarations are of one category, so messages about them say the
same. -/
theorem Declaration.Alike.category_eq {R : TypeNode → TypeNode → Prop} {M : Member → Member → Prop}
    {declaration declaration' : Declaration} (h : declaration.Alike R M declaration') :
    (Node.declaration declaration).category = (Node.declaration declaration').category := by
  have hform := h.form
  simp only [Node.category]
  cases hform' : declaration.form <;> cases hform'' : declaration'.form <;>
    rw [hform', hform''] at hform <;> cases hform

/-- References and import types. -/
inductive TypeForm.IsName : TypeForm → Prop
  | reference (reference : Reference) : IsName (.reference reference)
  | imported (link : ImportType) : IsName (.imported link)

/-- Relations between types and between members. They hold of types at one
place that are built alike or are both names, and of members that are built
alike. -/
structure Likeness (R : TypeNode → TypeNode → Prop) (M : Member → Member → Prop) : Prop where
  location {type type' : TypeNode} : R type type' → type.location = type'.location
  form {type type' : TypeNode} : R type type' →
    TypeForm.Alike R M type.form type'.form ∨ type.form.IsName ∧ type'.form.IsName
  member {member member' : Member} : M member member' → Member.Alike R member member'

namespace Likeness

variable {R : TypeNode → TypeNode → Prop} {M : Member → Member → Prop}

/-! ### What is read from a type -/

/-- A relation between types is a relation between what the two forms are. -/
theorem form_cases (h : Likeness R M) {P : TypeForm → TypeForm → Prop} {type type' : TypeNode}
    (htype : R type type') (halike : ∀ {form form'}, TypeForm.Alike R M form form' → P form form')
    (hname : ∀ {form form' : TypeForm}, form.IsName → form'.IsName → P form form') :
    P type.form type'.form :=
  (h.form htype).elim halike fun hnames => hname hnames.1 hnames.2

/-- Like types are absent alike: `null` and `undefined` are keywords, and no
name is. -/
theorem isAbsence_eq (h : Likeness R M) {type type' : TypeNode} (htype : R type type') :
    type.form.isAbsence = type'.form.isAbsence := by
  refine h.form_cases htype (P := fun form form' => form.isAbsence = form'.isAbsence) ?_ ?_
  · intro form form' hform
    cases hform <;> rfl
  · intro form form' hname hname'
    cases hname <;> cases hname' <;> rfl

/-- The same for `null` alone. -/
theorem isNull_eq (h : Likeness R M) {type type' : TypeNode} (htype : R type type') :
    type.form.isNull = type'.form.isNull := by
  refine h.form_cases htype (P := fun form form' => form.isNull = form'.isNull) ?_ ?_
  · intro form form' hform
    cases hform <;> rfl
  · intro form form' hname hname'
    cases hname <;> cases hname' <;> rfl

/-- Like types are one string literal, or none of them is one. -/
theorem stringLiteral?_eq (h : Likeness R M) {type type' : TypeNode} (htype : R type type') :
    type.form.stringLiteral? = type'.form.stringLiteral? := by
  refine h.form_cases htype
    (P := fun form form' => form.stringLiteral? = form'.stringLiteral?) ?_ ?_
  · intro form form' hform
    cases hform <;> rfl
  · intro form form' hname hname'
    cases hname <;> cases hname' <;> rfl

mutual

/-- A keyword is looked for in the alternatives of a union, and names are not
opened for it. So like types admit the same keywords. -/
theorem admits_eq (h : Likeness R M) (keyword : Keyword) :
    (type type' : TypeNode) → R type type' → type.admits keyword = type'.admits keyword
  | ⟨form, _⟩, ⟨form', _⟩, htype => formAdmits_eq h keyword form form' (h.form htype)

/-- The same for the forms of types. -/
theorem formAdmits_eq (h : Likeness R M) (keyword : Keyword) :
    (form form' : TypeForm) → TypeForm.Alike R M form form' ∨ form.IsName ∧ form'.IsName →
      form.admits keyword = form'.admits keyword
  | form, form', hform => by
    rcases hform with hform | ⟨hname, hname'⟩
    · cases hform with
      | union htypes => exact anyAdmits_eq h keyword _ _ htypes
      | _ => rfl
    · cases hname <;> cases hname' <;> rfl

/-- And for a list of types. -/
theorem anyAdmits_eq (h : Likeness R M) (keyword : Keyword) :
    (types types' : List TypeNode) → List.Forall₂ R types types' →
      anyAdmits keyword types = anyAdmits keyword types'
  | [], [], _ => rfl
  | type :: types, type' :: types', .cons htype htypes => by
    rw [anyAdmits, anyAdmits, admits_eq h keyword type type' htype,
      anyAdmits_eq h keyword types types' htypes]

end

mutual

/-- Like types open up to like alternatives. -/
theorem rel_alternatives (h : Likeness R M) :
    (type type' : TypeNode) → R type type' →
      List.Forall₂ R type.alternatives type'.alternatives
  | ⟨form, location⟩, ⟨form', location'⟩, htype =>
    rel_formAlternatives h htype form form' (h.form htype)

/-- By the form of the two types: a union opens up, and everything else is its
own alternative. -/
theorem rel_formAlternatives (h : Likeness R M) {whole whole' : TypeNode}
    (hwhole : R whole whole') :
    (form form' : TypeForm) → TypeForm.Alike R M form form' ∨ form.IsName ∧ form'.IsName →
      List.Forall₂ R (form.alternatives whole) (form'.alternatives whole')
  | form, form', hform => by
    rcases hform with hform | ⟨hname, hname'⟩
    · cases hform with
      | union htypes => exact rel_alternativesOf h _ _ htypes
      | _ => exact .cons hwhole .nil
    · cases hname <;> cases hname' <;> exact .cons hwhole .nil

/-- The alternatives of several types. -/
theorem rel_alternativesOf (h : Likeness R M) :
    (types types' : List TypeNode) → List.Forall₂ R types types' →
      List.Forall₂ R (alternativesOf types) (alternativesOf types')
  | [], [], _ => .nil
  | type :: types, type' :: types', .cons htype htypes =>
    List.rel_append (rel_alternatives h type type' htype) (rel_alternativesOf h types types' htypes)

end

/-- So what is present in like unions is alike, -/
theorem rel_presentOf (h : Likeness R M) {types types' : List TypeNode}
    (htypes : List.Forall₂ R types types') : List.Forall₂ R (presentOf types) (presentOf types') :=
  List.rel_filter (fun _ _ htype => by simp only [h.isAbsence_eq htype])
    (rel_alternativesOf h _ _ htypes)

/-- and `null` is among the types of both or of neither. -/
theorem any_isNull_eq (h : Likeness R M) {types types' : List TypeNode}
    (htypes : List.Forall₂ R types types') :
    types.any (·.form.isNull) = types'.any (·.form.isNull) := by
  induction htypes with
  | nil => rfl
  | cons htype _ ih => rw [List.any_cons, List.any_cons, h.isNull_eq htype, ih]

/-- It is enough for it to be among their alternatives. -/
theorem admitNull_eq (h : Likeness R M) {types types' : List TypeNode}
    (htypes : List.Forall₂ R types types') : admitNull types = admitNull types' :=
  any_isNull_eq h (rel_alternativesOf h _ _ htypes)

/-- The literals of an enum that is written as a union. -/
theorem mapM_stringLiteral?_eq (h : Likeness R M) {types types' : List TypeNode}
    (htypes : List.Forall₂ R types types') :
    types.mapM (·.form.stringLiteral?) = types'.mapM (·.form.stringLiteral?) := by
  induction htypes with
  | nil => rfl
  | cons htype _ ih => rw [List.mapM_cons, List.mapM_cons, h.stringLiteral?_eq htype, ih]

/-- A property under two spellings. -/
theorem admitsUndefined_eq (h : Likeness R M) {member member' : Member}
    (hmember : M member member') : member.admitsUndefined = member'.admitsUndefined := by
  obtain ⟨hform⟩ := h.member hmember
  cases hform with
  | property hform hform' htype =>
    cases htype with
    | none => cases hform <;> cases hform' <;> rfl
    | some htype => cases hform <;> cases hform' <;> exact admits_eq h .undefined _ _ htype
  | method | enumMember | unsupported => rfl

open Expansion

/-- Types of which both or neither would be transparent if every reference
were. In the types of a program whose names are all spelled one way, this is
so. -/
def SameCore (type type' : TypeNode) : Prop :=
  typeTransparent (fun _ => true) type = typeTransparent (fun _ => true) type'

/-- Names that are alike are transparent or not by both tests of references,
where `always` holds or both names are of one kind. -/
def FollowAlike (R : TypeNode → TypeNode → Prop) (always : Prop)
    (follow follow' : Reference → Bool) : Prop :=
  ∀ {type type' : TypeNode}, R type type' → type.form.IsName → type'.form.IsName →
    always ∨ SameCore type type' → typeTransparent follow type = typeTransparent follow' type'

variable {always : Prop} {follow follow' : Reference → Bool}

/-- Whether each of several types is transparent, where absent ones are left
out. -/
theorem transparencies_eq_map (types : List TypeNode) :
    transparencies follow types =
      (types.filter fun type => !type.form.isAbsence).map (typeTransparent follow) := by
  induction types with
  | nil => rfl
  | cons type types ih =>
    cases habsence : type.form.isAbsence <;> simp [transparencies, habsence, ih]

/-- Only a single alternative counts. -/
theorem unionTransparent_eq (h : Likeness R M) {types types' : List TypeNode}
    {location location' : Location}
    (htypes : List.Forall₂ (fun type type' => R type type' ∧ (always ∨ SameCore type type' →
      typeTransparent follow type = typeTransparent follow' type')) types types')
    (hcore : always ∨ SameCore ⟨.union types, location⟩ ⟨.union types', location'⟩) :
    (transparencies follow types == [true]) = (transparencies follow' types' == [true]) := by
  have hpresent := List.rel_filter (fun _ _ htype => by simp only [h.isAbsence_eq htype.1]) htypes
    (p := fun type => !type.form.isAbsence) (q := fun type => !type.form.isAbsence)
  simp only [SameCore, typeTransparent, formTransparent] at hcore
  simp only [transparencies_eq_map] at hcore ⊢
  generalize (types.filter fun type => !type.form.isAbsence) = present,
    (types'.filter fun type => !type.form.isAbsence) = present' at hpresent hcore ⊢
  match present, present', hpresent with
  | [], [], _ => rfl
  | [type], [type'], .cons htype _ =>
    have hsingle : always ∨ SameCore type type' :=
      hcore.imp_right fun hcore => by simpa [SameCore] using hcore
    simp only [List.map_cons, List.map_nil, htype.2 hsingle]
  | _ :: _ :: _, _ :: _ :: _, _ => simp

mutual

/-- A type is transparent as another one is, if the names in them are. -/
theorem typeTransparent_eq (h : Likeness R M) (hnames : FollowAlike R always follow follow') :
    (type type' : TypeNode) → R type type' → always ∨ SameCore type type' →
      typeTransparent follow type = typeTransparent follow' type'
  | ⟨form, location⟩, ⟨form', location'⟩, htype, hcore => by
    rcases h.form htype with hform | hname
    · cases hform with
      | @array element element' helement =>
        exact typeTransparent_eq h hnames element element' helement hcore
      | @union types types' htypes =>
        exact unionTransparent_eq h (eachTransparent_eq h hnames types types' htypes) hcore
      | _ => rfl
    · exact hnames htype hname.1 hname.2 hcore

/-- Types in a row, each of which is transparent in both rows or in neither. -/
theorem eachTransparent_eq (h : Likeness R M) (hnames : FollowAlike R always follow follow') :
    (types types' : List TypeNode) → List.Forall₂ R types types' →
      List.Forall₂ (fun type type' => R type type' ∧ (always ∨ SameCore type type' →
        typeTransparent follow type = typeTransparent follow' type')) types types'
  | [], [], _ => .nil
  | type :: types, type' :: types', .cons htype htypes =>
    .cons ⟨htype, typeTransparent_eq h hnames type type' htype⟩
      (eachTransparent_eq h hnames types types' htypes)

end

end Likeness

/-! ### Types that are equal -/

/-- A value that may be missing is equal to itself. -/
theorem optionRel_refl {α : Type} : (value : Option α) → Option.Rel Eq value value
  | none => .none
  | some _ => .some rfl

/-- A signature is alike to itself. -/
theorem Signature.Alike.refl : (signature : Signature) → Signature.Alike Eq signature signature
  | ⟨_, returns⟩ =>
    .mk (List.forall₂_same.mpr fun ⟨_, _, type⟩ _ => .mk (optionRel_refl type))
      (optionRel_refl returns)

/-- So is a member. -/
theorem Member.Alike.refl (member : Member) : Member.Alike Eq member member := by
  obtain ⟨name, form, isOptional, doc, location⟩ := member
  refine .mk ?_
  cases form with
  | signature type => exact .property (.signature type) (.signature type) (optionRel_refl type)
  | field type => exact .property (.field type) (.field type) (optionRel_refl type)
  | method signature => exact .method (.refl signature)
  | enumMember value => exact .enumMember value
  | unsupported description mentions => exact .unsupported description mentions mentions

/-- Equal types, and members by any relation that holds of equal ones. -/
theorem likeness_eq {M : Member → Member → Prop} (hrefl : ∀ member, M member member)
    (halike : ∀ {member member'}, M member member' → Member.Alike Eq member member') :
    Likeness Eq M where
  location htype := by rw [htype]
  form := by
    rintro ⟨form, location⟩ _ rfl
    cases form with
    | keyword keyword => exact .inl (.keyword keyword)
    | stringLiteral value => exact .inl (.stringLiteral value)
    | literal source => exact .inl (.literal source)
    | unsupported source => exact .inl (.unsupported source)
    | array element => exact .inl (.array rfl)
    | union types => exact .inl (.union (List.forall₂_same.mpr fun _ _ => rfl))
    | intersection types => exact .inl (.intersection (List.forall₂_same.mpr fun _ _ => rfl))
    | object members => exact .inl (.object (List.forall₂_same.mpr fun member _ => hrefl member))
    | function signature => exact .inl (.function (.refl signature))
    | reference reference => exact .inr ⟨.reference reference, .reference reference⟩
    | imported link => exact .inr ⟨.imported link, .imported link⟩
  member := halike

/-- And a declaration, if its members are. -/
theorem Declaration.Alike.refl {M : Member → Member → Prop} (hrefl : ∀ member, M member member)
    (declaration : Declaration) : declaration.Alike Eq M declaration := by
  have hmembers (members : List Member) : List.Forall₂ M members members :=
    List.forall₂_same.mpr fun member _ => hrefl member
  refine ⟨rfl, ?_, rfl, rfl, rfl⟩
  cases declaration.form with
  | typeAlias target => exact .typeAlias rfl
  | interface heritage members =>
    exact .interface (List.forall₂_same.mpr fun _ _ => rfl) (hmembers members)
  | classType heritage members => exact .classType (optionRel_refl heritage) (hmembers members)
  | enum members => exact .enum (hmembers members)

end AppMetadata
