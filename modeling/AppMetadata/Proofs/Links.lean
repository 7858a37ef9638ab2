import AppMetadata.Proofs.Expansion.Titles
import AppMetadata.Proofs.Expansion.Transparency
import AppMetadata.Proofs.Group

/-!
# `AppMetadata.Proofs.Links`: when a link leads to a listed model

A declaration that is used below a property is linked by a name
(`Declaration.linkName`), and where it is listed as a model it is described
at a root, with a title of its own (`Titled`). The two are made apart from
each other. They agree for interfaces, classes, enums and aliases of types
that are written out, but an alias of a type that has a name already is linked
by the name of the alias and described under the other one.

* `Declaration.LinkAnswered`: for which declarations they agree.
* `link_resolves_iff`: a link to a listed declaration leads to its entry
  exactly for these.
* `aliasOfInterface_dangles`: a listed alias whose links dangle.
-/

set_option autoImplicit false

namespace AppMetadata

open Expansion

/-- The name under which a declaration is linked where it is not described in
full: for an alias of a model that of the blueprint, if it has one. -/
def Declaration.linkName (program : Program) (settings : Settings)
    (declaration : Declaration) : String :=
  match declaration.form with
  | .typeAlias target =>
    match wrapperArgs? program settings target with
    | some typeArgs =>
      ((wrapperParts? typeArgs).bind fun parts => blueprintName? program parts.1).getD
        declaration.name
    | none => declaration.name
  | _ => declaration.name

/-- An alias of a model is linked by the name of the blueprint, or else by its
own. -/
theorem Declaration.linkName_of_model {program : Program} {settings : Settings}
    {declaration : Declaration} {target blueprint : TypeNode} {typeArgs : List TypeNode}
    {args : Option TypeNode} (hform : declaration.form = .typeAlias target)
    (hwrapper : wrapperArgs? program settings target = some typeArgs)
    (hparts : wrapperParts? typeArgs = some (blueprint, args)) :
    declaration.linkName program settings =
      (blueprintName? program blueprint).getD declaration.name := by
  simp [Declaration.linkName, hform, hwrapper, hparts]

/-- Everything else is linked by its own name. -/
theorem Declaration.linkName_of_plain {program : Program} {settings : Settings}
    {declaration : Declaration}
    (hplain : ∀ target, declaration.form = .typeAlias target →
      wrapperArgs? program settings target = none) :
    declaration.linkName program settings = declaration.name := by
  unfold Declaration.linkName
  split
  · next target hform => rw [hplain target hform]
  · rfl

namespace Expansion

/-- The link that a walker gives for the use of a declaration, if it takes
transparent types for primitive ones. -/
theorem Walker.describeUse_typeName {w : Walker Attempt} {ctx : Context} {location : Location}
    {declaration : Declaration} {s : Shape} (hctx : ctx.expands = false)
    (hprimitive : ∀ {target t}, isTransparent w.program maxAliasHops target = true →
      w.describe (.type target) ctx = .ok t → t.kind.isPrimitive = true)
    (h : w.describeUse declaration location ctx = .ok s) (hlink : s.kind = .reference) :
    s.typeName = some (declaration.linkName w.program w.settings) := by
  rcases describeUse_eq_ok.mp h with
    ⟨target, typeArgs, hform, hwrapper, h⟩ | ⟨target, -, -, -, htransparent, h⟩ | ⟨hplain, h⟩
  · obtain ⟨blueprint, args, hparts, ⟨hexpands, -⟩ | ⟨-, typeName, hname, rfl⟩⟩ :=
      describeWrapper_eq_ok.mp h
    · simp [hctx] at hexpands
    · -- The name of the blueprint, or else that of the alias.
      replace hname : (blueprintName? w.program blueprint <|> some declaration.name) =
          some typeName := hname
      rw [Declaration.linkName_of_model hform hwrapper hparts]
      cases hblueprint : blueprintName? w.program blueprint with
      | some name => simpa [hblueprint, Shape.link] using hname.symm
      | none => simpa [hblueprint, Shape.link] using hname.symm
  · -- The target of a transparent alias is primitive, so this is no link.
    have hkind := hprimitive htransparent h
    rw [hlink] at hkind
    cases hkind
  · rcases describeNamed_eq_ok.mp h with ⟨-, rfl⟩ | ⟨hexpands, -⟩
    · rw [Declaration.linkName_of_plain fun target hform => (hplain target hform).1]
      rfl
    · rw [hctx] at hexpands
      cases hexpands

variable {program : Program} {settings : Settings} {ctx : Context} {type : TypeNode}
  {declaration : Declaration} {s : Shape}

/-- A use of a declaration that gives a link gives it this name. A
transparent alias gives none, since it stands for a primitive type. -/
theorem describe_link_typeName
    (hdenoted : denoted? program settings type.form = some (.declaration declaration))
    (hctx : ctx.expands = false)
    (h : (describe program settings (.type type) ctx : Attempt Shape) = .ok s)
    (hlink : s.isReference = true) :
    s.typeName = some (declaration.linkName program settings) := by
  obtain ⟨levels, -, h⟩ := describe_eq_ok.mp h
  obtain ⟨t, ht, rfl⟩ := describeWithin_succ_eq_ok.mp h
  have hcontent := content_placed ctx t
  have hname : (placed ctx t).typeName = t.typeName := Shape.typeName_congr hcontent
  have hkind : (placed ctx t).kind = t.kind := Shape.kind_congr hcontent
  have hreference : t.kind = .reference := by simpa [Shape.isReference, hkind] using hlink
  rw [hname]
  exact Walker.describeUse_typeName hctx
    (fun htransparent h => describeWithin_isPrimitive hctx (Nat.le_refl _) htransparent h)
    ((describeType_eq_ok_of_denoted hdenoted).mp ht).2 hreference

/-! ### Listed models -/

end Expansion

/-- Whether the entry of a declaration that is listed under `key` is called
by the name under which the declaration is linked. Interfaces, classes and
enums are. An alias of a model is linked by its own name, which is that of
the model, or else its blueprint has to lead to a type that is called as the
link is. The target of any other alias has to lead to a type or model that is
called as the alias is, or to a type without a name; this takes the name of
the alias if it has parts, and that of the key if it is primitive or a
function. -/
def Declaration.LinkAnswered (program : Program) (settings : Settings) (key : String)
    (declaration : Declaration) : Prop :=
  match declaration.form with
  | .typeAlias target =>
    match wrapperArgs? program settings target with
    | some typeArgs => ∃ blueprint args title, wrapperParts? typeArgs = some (blueprint, args) ∧
      Titled program settings false key blueprint title ∧
      (declaration.linkName program settings = declaration.name ∨
        title.typeName.getD key = declaration.linkName program settings)
    | none => ∃ title, Titled program settings false declaration.name target title ∧
      ((title.under declaration.name).typeName.getD key = declaration.name ∨
        title.modelName = some declaration.name)
  | _ => True

/-- The entry of a declaration answers to its link by one of the two names of
its title. -/
theorem Declaration.linkAnswered_iff {program : Program} {settings : Settings} {key : String}
    {declaration : Declaration} {type : TypeNode} {title : Title}
    (hdenoted : denoted? program settings type.form = some (.declaration declaration))
    (h : Titled program settings false key type title) :
    declaration.LinkAnswered program settings key ↔
      title.typeName.getD key = declaration.linkName program settings ∨
        title.modelName = some (declaration.linkName program settings) := by
  -- One case for each rule that a declaration can be titled by; the first one has no
  -- alias.
  rcases titled_declaration_cases hdenoted h with
    ⟨hbody, rfl⟩ |
      ⟨target, typeArgs, blueprint, args, inner, hform, hwrapper, hparts, hinner, rfl⟩ |
      ⟨target, inner, hform, hwrapper, hinner, rfl⟩
  · have hname : declaration.linkName program settings = declaration.name :=
      linkName_of_plain fun target hform => absurd hform (hbody target)
    unfold LinkAnswered
    split
    · next target hform => exact absurd hform (hbody target)
    · simp [hname]
  · -- An alias of a model: the entry is the model, under the name of the alias.
    unfold LinkAnswered
    simp only [hform, hwrapper, hparts, Option.some.injEq, Prod.mk.injEq]
    constructor
    · rintro ⟨_, _, title, ⟨rfl, rfl⟩, htitle, hname⟩
      obtain rfl := hinner.unique htitle
      exact hname.symm.imp_right Eq.symm
    · intro hname
      exact ⟨blueprint, args, inner, ⟨rfl, rfl⟩, hinner, hname.symm.imp_left Eq.symm⟩
  · have hname : declaration.linkName program settings = declaration.name := by
      refine linkName_of_plain fun other hother => ?_
      cases hform.symm.trans hother
      exact hwrapper
    unfold LinkAnswered
    simp only [hform, hwrapper, hname, Title.under_modelName]
    constructor
    · rintro ⟨title, htitle, hcalled⟩
      obtain rfl := hinner.unique htitle
      exact hcalled
    · intro hcalled
      exact ⟨inner, hinner, hcalled⟩

/-- A type that is written out: the alias of one gives it its name. -/
inductive TypeForm.WrittenOut : TypeForm → Prop
  | object (members : List Member) : WrittenOut (.object members)
  | intersection (parts : List TypeNode) : WrittenOut (.intersection parts)
  | literal (value : String) : WrittenOut (.stringLiteral value)
  | alternatives {types : List TypeNode} (htwo : 2 ≤ (presentOf types).length) :
    WrittenOut (.union types)

/-- Links to an alias of a type that is written out lead to its entry. -/
theorem Declaration.linkAnswered_of_writtenOut {program : Program} {settings : Settings}
    {key : String} {declaration : Declaration} {target : TypeNode}
    (hform : declaration.form = .typeAlias target) (hwritten : target.form.WrittenOut) :
    declaration.LinkAnswered program settings key := by
  obtain ⟨form, location⟩ := target
  unfold LinkAnswered
  cases hwritten with
  | object members => simpa [hform, wrapperArgs?] using ⟨_, .object, .inl rfl⟩
  | intersection parts => simpa [hform, wrapperArgs?] using ⟨_, .intersection, .inl rfl⟩
  | literal value => simpa [hform, wrapperArgs?] using ⟨_, .literal, .inl rfl⟩
  | alternatives htwo => simpa [hform, wrapperArgs?] using ⟨_, .alternatives htwo, .inl rfl⟩

/-- Links to an alias of an interface, class or enum lead to its entry only
if the two have the same name: the entry is called as the other one is. -/
theorem Declaration.linkAnswered_of_alias_iff {program : Program} {settings : Settings}
    {key : String} {declaration named : Declaration} {target : TypeNode}
    (hform : declaration.form = .typeAlias target)
    (hdenoted : denoted? program settings target.form = some (.declaration named))
    (hbody : ∀ other, named.form ≠ .typeAlias other) :
    declaration.LinkAnswered program settings key ↔ named.name = declaration.name := by
  have hnone : wrapperArgs? program settings target = none := by
    rw [wrapperArgs?_eq, hdenoted]
  have htitled : Titled program settings false declaration.name target
      { typeName := some named.name, isComposite := true } := .declared hdenoted hbody
  unfold LinkAnswered
  simp only [hform, hnone]
  constructor
  · rintro ⟨title, htitle, hcalled⟩
    obtain rfl := htitled.unique htitle
    simpa [Title.under] using hcalled
  · intro hname
    exact ⟨_, htitled, .inl (by simp [Title.under, hname])⟩

/-- With one model listed, a link dangles unless its name is that of the
entry or of its model. -/
theorem Application.danglingLink?_single {appName name : String} {model s : Shape}
    (hlink : s.isReference = true) (hname : s.typeName = some name) :
    danglingLink? { name := appName, models := [model] } s = none ↔
      model.typeName = some name ∨ model.modelName = some name := by
  simp only [danglingLink?, hlink, hname, model?, input?, findNamed?, if_true,
    List.find?_nil, Option.isNone_none, Bool.and_true]
  by_cases hcalled : model.typeName = some name ∨ model.modelName = some name
  · simp [hcalled]
  · simp [hcalled]

/-- In an application whose only model is a declaration: every link to the
declaration has one name, `linkName`, and it leads to the entry exactly if
`LinkAnswered` says so. -/
theorem link_resolves_iff {extractor : Extractor} {declaration : Declaration} {member : Member}
    {group entry mention : TypeNode} {models : List Shape} {ctx : Context} {s : Shape}
    (appName : String)
    (hgroup : Group.models.find extractor.options = .ok (some (group, [member])))
    (hentry : member.type? = some entry)
    (hlisted : denoted? extractor.program extractor.settings entry.form =
      some (.declaration declaration))
    (hmodels : (extractor.models : Attempt _) = .ok models)
    (hmention : denoted? extractor.program extractor.settings mention.form =
      some (.declaration declaration))
    (hctx : ctx.expands = false)
    (hs : (describe extractor.program extractor.settings (.type mention) ctx : Attempt Shape) =
      .ok s)
    (hlink : s.isReference = true) :
    s.typeName = some (declaration.linkName extractor.program extractor.settings) ∧
      (Application.danglingLink? { name := appName, models } s = none ↔
        declaration.LinkAnswered extractor.program extractor.settings member.name) := by
  have hname := describe_link_typeName hmention hctx hs hlink
  -- The only entry is the description of the declaration at a root, with its title.
  obtain ⟨found, members, hfound, htypes⟩ := Extractor.models_eq_ok.mp hmodels
  obtain ⟨rfl, rfl⟩ : found = group ∧ members = [member] := by
    simpa using hfound.symm.trans hgroup
  obtain ⟨type, t, model, htype, ht, rfl, htypeName, hmodelName⟩ :=
    Extractor.namedTypesAlone_single htypes
  obtain rfl : type = entry := Option.some.inj (htype.symm.trans hentry)
  have htitled := describe_titled rfl rfl ht
  refine ⟨hname, ?_⟩
  rw [Application.danglingLink?_single hlink hname, htypeName, hmodelName, Option.some.injEq,
    Declaration.linkAnswered_iff hlisted htitled]
  rfl

/-- The interface `B`, with a property `x` of type `number`. -/
def interfaceB : Declaration where
  name := "B"
  form := .interface [] [
    { name := "x", form := .signature (some ⟨.keyword .number, {}⟩)
      isOptional := false, doc := {}, location := {} }]
  doc := {}
  scope := 0
  location := {}
  isGeneric := false

/-- The alias `A` of `B`. -/
def aliasA : Declaration where
  name := "A"
  form := .typeAlias ⟨.reference ⟨.identifier "B", [], 0⟩, {}⟩
  doc := {}
  scope := 0
  location := {}
  isGeneric := false

/-- A reference to `name` in the program of the two. -/
def referenceTo (name : String) : TypeNode :=
  ⟨.reference ⟨.identifier name, [], 0⟩, {}⟩

/-- A member called `name`, of type `type`. -/
def memberOf (name : String) (type : TypeNode) : Member where
  name := name
  form := .signature (some type)
  isOptional := false
  doc := {}
  location := {}

/-- The options whose only model is `name` under its own name, in the program
of the two. -/
def listing (name : String) : Extractor where
  program := { modules := #[
    { path := ⟨true, ["app.ts"]⟩, declarations := [("B", interfaceB), ("A", aliasA)] }] }
  settings := {}
  options := [memberOf "models" ⟨.object [memberOf name (referenceTo name)], {}⟩]

/-- The shape of `B`, which is that of `A` too. -/
def shapeOfB : Shape where
  kind := .object
  typeName := some "B"
  propertyPath := "B"
  properties := [{ kind := .number, propertyName := "x", propertyPath := "B.x" }]

/-- A link at the path of a query. -/
def linkAtQuery (name : String) : Shape :=
  { Shape.link name with propertyPath := "Query.get" }

/-- The interface is listed, and a link to it leads to its entry. -/
theorem link_resolves_iff_interface :
    let e := listing "B"
    (e.models : Attempt _) = .ok [shapeOfB] ∧
      (describe e.program e.settings (.type (referenceTo "B")) { parentPath := "Query.get" } :
        Attempt Shape) = .ok (linkAtQuery "B") ∧
      Application.danglingLink? { name := "app", models := [shapeOfB] } (linkAtQuery "B") =
        none := by
  intro e
  have hmodels : (e.models : Attempt _) = .ok [shapeOfB] := rfl
  have hlink : (describe e.program e.settings (.type (referenceTo "B"))
      { parentPath := "Query.get" } : Attempt Shape) = .ok (linkAtQuery "B") := rfl
  have hiff := (@link_resolves_iff e interfaceB (memberOf "B" (referenceTo "B")) _
    (referenceTo "B") (referenceTo "B") _ _ _ "app" rfl rfl rfl hmodels rfl rfl hlink rfl).2
  exact ⟨hmodels, hlink, hiff.mpr trivial⟩

/-- The alias is listed, but its entry is called as the interface is, so a
link to it dangles. -/
theorem aliasOfInterface_dangles :
    let e := listing "A"
    (e.models : Attempt _) = .ok [shapeOfB] ∧
      (describe e.program e.settings (.type (referenceTo "A")) { parentPath := "Query.get" } :
        Attempt Shape) = .ok (linkAtQuery "A") ∧
      (linkAtQuery "A").isReference = true ∧
      Application.danglingLink? { name := "app", models := [shapeOfB] } (linkAtQuery "A") =
        some ("A", "Query.get") :=
  ⟨rfl, rfl, rfl, rfl⟩

end AppMetadata
