import AppMetadata.Proofs.Expansion.Denotation
import AppMetadata.Proofs.Expansion.Paths

/-!
# `AppMetadata.Proofs.Expansion.Titles`: which names a root has

A type that is described at a root is named by what it leads to: through
arrays, nullable types, the blueprints of models and the targets of aliases,
up to a type that has a name of its own or none at all. The relation `Titled`
holds the rules, and a description follows them.

* `Titled.unique`: the rules leave no choice.
* `describe_titled`: the names of a description are those that the
  rules give.
-/

set_option autoImplicit false

namespace AppMetadata

/-- What a description says about names. -/
structure Title where
  typeName : Option String := none
  modelName : Option String := none
  /-- Whether a declaration gives its name to it, if it has none. -/
  isComposite : Bool
deriving DecidableEq

namespace Title

/-- The title of a shape. -/
def of (shape : Shape) : Title where
  typeName := shape.typeName
  modelName := shape.modelName
  isComposite := shape.kind.isComposite

/-- The title of what a declaration called `name` declares. A name that is
there already stays. -/
def under (title : Title) (name : String) : Title :=
  if title.typeName.isNone && title.isComposite then { title with typeName := some name }
  else title

/-- The name of a declaration is a type name; the name of a model stays. -/
@[simp] theorem under_modelName (title : Title) (name : String) :
    (title.under name).modelName = title.modelName := by
  unfold under
  split <;> rfl

/-- A shape is titled as its declaration says. -/
theorem of_ofDeclaration (declaration : Declaration) (shape : Shape) :
    of (Expansion.ofDeclaration declaration shape) = (of shape).under declaration.name := by
  unfold Expansion.ofDeclaration Shape.document of under
  dsimp only
  split <;> rfl

/-- A title does not depend on the place of the shape. -/
theorem of_placed (ctx : Context) (shape : Shape) :
    of (Expansion.placed ctx shape) = of shape := by
  show of (Expansion.placed ctx shape).content = of shape.content
  rw [Expansion.content_placed]

end Title

namespace Expansion

/-! ### Types that denote declarations -/

section

variable {w : Walker Attempt} {type : TypeNode} {ctx : Context} {s : Shape}

/-- A type that denotes a declaration is described as a use of it. It must be
used without type arguments, and the declaration must not be generic. -/
theorem describeType_eq_ok_of_denoted {declaration : Declaration}
    (hdenoted : denoted? w.program w.settings type.form = some (.declaration declaration)) :
    w.describeType type ctx = .ok s ↔
      (nameArgs type.form = [] ∧ declaration.isGeneric = false) ∧
        w.describeUse declaration type.location ctx = .ok s := by
  obtain ⟨form, location⟩ := type
  cases form with
  | reference reference =>
    obtain ⟨hplain, hresolve⟩ := denoted?_reference.mp hdenoted
    show w.describeReference reference location ctx = .ok s ↔ _
    simp [Walker.describeReference_eq_ok, hplain, hresolve, nameArgs, and_assoc]
  | imported link =>
    obtain ⟨hplain, name, hname, hresolve⟩ := denoted?_imported.mp hdenoted
    show w.describeImport link location ctx = .ok s ↔ _
    simp [Walker.describeImport_eq_ok, hplain, hname, hresolve, nameArgs, and_assoc]
  | _ => cases hdenoted

end

/-! ### The rules -/

/-- The titles that a type may have at a root called `owner`; `flat` says
whether it is described there to become a part of another type, which then
gives the name to what has none. -/
inductive Titled (program : Program) (settings : Settings) :
    (flat : Bool) → (owner : String) → TypeNode → Title → Prop
  | keyword {flat owner keyword location} :
    Titled program settings flat owner ⟨.keyword keyword, location⟩ { isComposite := false }
  | function {flat owner signature location} :
    Titled program settings flat owner ⟨.function signature, location⟩ { isComposite := false }
  | object {flat owner members location} :
    Titled program settings flat owner ⟨.object members, location⟩ { isComposite := true }
  | intersection {flat owner parts location} :
    Titled program settings flat owner ⟨.intersection parts, location⟩ { isComposite := true }
  /-- An enum of one value has the name of the root. -/
  | literal {flat owner value location} :
    Titled program settings flat owner ⟨.stringLiteral value, location⟩
      { typeName := some owner, isComposite := true }
  /-- So has a union, and an enum of several values. -/
  | alternatives {flat owner types location} (htwo : 2 ≤ (presentOf types).length) :
    Titled program settings flat owner ⟨.union types, location⟩
      { typeName := some owner, isComposite := true }
  | single {flat owner types location single title} (hsingle : presentOf types = [single])
      (h : Titled program settings flat owner single title) :
    Titled program settings flat owner ⟨.union types, location⟩ title
  | array {flat owner element location title}
      (h : Titled program settings flat owner element title) :
    Titled program settings flat owner ⟨.array element, location⟩ title
  /-- A model is called as its blueprint is, with the name that the blueprint
  is written with as the name of the model. -/
  | wrapper {flat owner type typeArgs force blueprint args title}
      (hdenoted : denoted? program settings type.form = some (.wrapper typeArgs force))
      (hparts : wrapperParts? typeArgs = some (blueprint, args))
      (h : Titled program settings (flat || force) owner blueprint title) :
    Titled program settings flat owner type
      { title with modelName := blueprintName? program blueprint }
  /-- An interface, class or enum has its own name. -/
  | declared {flat owner type declaration}
      (hdenoted : denoted? program settings type.form = some (.declaration declaration))
      (hbody : ∀ target, declaration.form ≠ .typeAlias target) :
    Titled program settings flat owner type
      { typeName := some declaration.name, isComposite := true }
  /-- An alias of a model gives its name to the model. -/
  | model {flat owner type declaration target typeArgs blueprint args title}
      (hdenoted : denoted? program settings type.form = some (.declaration declaration))
      (hform : declaration.form = .typeAlias target)
      (hwrapper : wrapperArgs? program settings target = some typeArgs)
      (hparts : wrapperParts? typeArgs = some (blueprint, args))
      (h : Titled program settings flat owner blueprint title) :
    Titled program settings flat owner type { title with modelName := some declaration.name }
  /-- Any other alias gives its name only to what has none. -/
  | aliased {flat owner type declaration target title}
      (hdenoted : denoted? program settings type.form = some (.declaration declaration))
      (hform : declaration.form = .typeAlias target)
      (hwrapper : wrapperArgs? program settings target = none)
      (h : Titled program settings flat (if flat then owner else declaration.name) target title) :
    Titled program settings flat owner type (title.under declaration.name)

variable {program : Program} {settings : Settings} {flat : Bool} {owner : String}
  {type : TypeNode}

/-- The rules are a function: a type has one title at most at a root. -/
theorem Titled.unique {title other : Title} (h : Titled program settings flat owner type title)
    (h' : Titled program settings flat owner type other) : title = other := by
  -- The form of the type, and what it denotes if it has no structure, choose the
  -- rule. A second rule for the same type contradicts one of the two.
  induction h generalizing other with
  | keyword | function | object | intersection | literal =>
    cases h' with
    | wrapper hdenoted | declared hdenoted | model hdenoted | aliased hdenoted => cases hdenoted
    | _ => rfl
  | alternatives htwo =>
    cases h' with
    | wrapper hdenoted | declared hdenoted | model hdenoted | aliased hdenoted => cases hdenoted
    | single hsingle => simp [hsingle] at htwo
    | alternatives => rfl
  | single hsingle _ ih =>
    cases h' with
    | wrapper hdenoted | declared hdenoted | model hdenoted | aliased hdenoted => cases hdenoted
    | single hother h' =>
      obtain rfl := List.singleton_inj.mp (hsingle.symm.trans hother)
      exact ih h'
    | alternatives htwo => simp [hsingle] at htwo
  | array _ ih =>
    cases h' with
    | wrapper hdenoted | declared hdenoted | model hdenoted | aliased hdenoted => cases hdenoted
    | array h' => exact ih h'
  | wrapper hdenoted hparts _ ih =>
    cases h' with
    | wrapper hother hparts' h' =>
      cases hdenoted.symm.trans hother
      cases hparts.symm.trans hparts'
      rw [ih h']
    | declared hother | model hother | aliased hother => cases hdenoted.symm.trans hother
    | _ => cases hdenoted
  | declared hdenoted hbody =>
    cases h' with
    | wrapper hother => cases hdenoted.symm.trans hother
    | declared hother =>
      cases hdenoted.symm.trans hother
      rfl
    | model hother hform | aliased hother hform =>
      cases hdenoted.symm.trans hother
      exact absurd hform (hbody _)
    | _ => cases hdenoted
  | model hdenoted hform hwrapper hparts _ ih =>
    cases h' with
    | wrapper hother => cases hdenoted.symm.trans hother
    | declared hother hbody =>
      cases hdenoted.symm.trans hother
      exact absurd hform (hbody _)
    | model hother hform' hwrapper' hparts' h' =>
      cases hdenoted.symm.trans hother
      cases hform.symm.trans hform'
      cases hwrapper.symm.trans hwrapper'
      cases hparts.symm.trans hparts'
      rw [ih h']
    | aliased hother hform' hnone =>
      cases hdenoted.symm.trans hother
      cases hform.symm.trans hform'
      cases hwrapper.symm.trans hnone
    | _ => cases hdenoted
  | aliased hdenoted hform hnone _ ih =>
    cases h' with
    | wrapper hother => cases hdenoted.symm.trans hother
    | declared hother hbody =>
      cases hdenoted.symm.trans hother
      exact absurd hform (hbody _)
    | model hother hform' hwrapper =>
      cases hdenoted.symm.trans hother
      cases hform.symm.trans hform'
      cases hwrapper.symm.trans hnone
    | aliased hother hform' _ h' =>
      cases hdenoted.symm.trans hother
      cases hform.symm.trans hform'
      rw [ih h']
    | _ => cases hdenoted

/-- The three rules for the use of a declaration. -/
theorem titled_declaration_cases {declaration : Declaration} {title : Title}
    (hdenoted : denoted? program settings type.form = some (.declaration declaration))
    (h : Titled program settings flat owner type title) :
    ((∀ target, declaration.form ≠ .typeAlias target) ∧
        title = { typeName := some declaration.name, isComposite := true }) ∨
      (∃ target typeArgs blueprint args inner, declaration.form = .typeAlias target ∧
        wrapperArgs? program settings target = some typeArgs ∧
        wrapperParts? typeArgs = some (blueprint, args) ∧
        Titled program settings flat owner blueprint inner ∧
        title = { inner with modelName := some declaration.name }) ∨
      (∃ target inner, declaration.form = .typeAlias target ∧
        wrapperArgs? program settings target = none ∧
        Titled program settings flat (if flat then owner else declaration.name) target inner ∧
        title = inner.under declaration.name) := by
  -- What a type denotes is one thing, so the rule for wrappers and those for written
  -- forms are excluded.
  cases h with
  | wrapper hother => cases hdenoted.symm.trans hother
  | declared hother hbody =>
    cases hdenoted.symm.trans hother
    exact .inl ⟨hbody, rfl⟩
  | model hother hform hwrapper hparts h =>
    cases hdenoted.symm.trans hother
    exact .inr (.inl ⟨_, _, _, _, _, hform, hwrapper, hparts, h, rfl⟩)
  | aliased hother hform hwrapper h =>
    cases hdenoted.symm.trans hother
    exact .inr (.inr ⟨_, _, hform, hwrapper, h, rfl⟩)
  | _ => cases hdenoted

/-! ### A description follows the rules -/

/-- The title of a declaration that is described in full. -/
def TitledBody (program : Program) (settings : Settings) (flat : Bool) (owner : String)
    (declaration : Declaration) (title : Title) : Prop :=
  match declaration.form with
  | .typeAlias target =>
    wrapperArgs? program settings target = none → Titled program settings flat owner target title
  | _ => title = { typeName := some declaration.name, isComposite := true }

/-- A walker that follows the rules at every root. -/
structure Walker.Titles (w : Walker Attempt) : Prop where
  type : ∀ {type ctx owner s}, ctx.parentPath = "" → ctx.owner = some owner →
    w.describe (.type type) ctx = .ok s →
    Titled w.program w.settings ctx.flattens owner type (.of s)
  declaration : ∀ {declaration ctx owner s}, ctx.parentPath = "" → ctx.owner = some owner →
    w.describe (.declaration declaration) ctx = .ok s →
    TitledBody w.program w.settings ctx.flattens owner declaration (.of s)

namespace Walker.Titles

variable {w : Walker Attempt} {ctx : Context} {location : Location} {s : Shape}

/-- At a root an enum of literals is called as the root is. -/
theorem literalEnum_title {literals : List String} (hroot : ctx.parentPath = "")
    (howner : ctx.owner = some owner)
    (h : (literalEnum literals location ctx : Attempt Shape) = .ok s) :
    Title.of s = { typeName := some owner, isComposite := true } := by
  obtain ⟨name, hname, -, rfl⟩ := literalEnum_eq_ok.mp h
  obtain rfl := Context.anonymousName?_of_root hroot howner hname
  rfl

/-- A union follows the rule for one alternative or that for several. -/
theorem describeUnion (hw : w.Titles) {types : List TypeNode} {place : Location}
    (hroot : ctx.parentPath = "") (howner : ctx.owner = some owner)
    (h : w.describeUnion types location ctx = .ok s) :
    Titled w.program w.settings ctx.flattens owner ⟨.union types, place⟩ (.of s) := by
  rcases describeUnion_eq_ok.mp h with ⟨single, t, hsingle, ht, rfl⟩ | ⟨htwo, t, ht, rfl⟩
  · have htitled := hw.type hroot howner ht
    exact .single hsingle htitled
  · -- An enum and a mixed union are called alike at a root.
    have htitle : Title.of t = { typeName := some owner, isComposite := true } := by
      rcases describeAlternatives_eq_ok.mp ht with ⟨literals, -, ht⟩ | ⟨-, ht⟩
      · exact literalEnum_title hroot howner ht
      · obtain ⟨name, properties, hname, -, rfl⟩ := mixedUnion_eq_ok.mp ht
        obtain rfl := Context.anonymousName?_of_root hroot howner hname
        rfl
    exact htitle ▸ Titled.alternatives htwo

/-- A model is titled as its blueprint is, under the name of the model. -/
theorem describeWrapper (hw : w.Titles) {typeArgs : List TypeNode} {named : Option Declaration}
    {force : Bool} (hroot : ctx.parentPath = "") (howner : ctx.owner = some owner)
    (h : w.describeWrapper typeArgs named location ctx force = .ok s) :
    ∃ blueprint args title, wrapperParts? typeArgs = some (blueprint, args) ∧
      Titled w.program w.settings (ctx.flattens || force) owner blueprint title ∧
      Title.of s = { title with modelName := wrapperModelName? w.program named blueprint } := by
  have hexpands := Context.expands_of_root hroot
  obtain ⟨blueprint, args, hparts, ⟨-, h⟩ | ⟨hlinked, -⟩⟩ := describeWrapper_eq_ok.mp h
  · obtain ⟨t, ht, hs⟩ := expandWrapper_eq_ok.mp h
    have htitled := @hw.type _ { ctx with flattens := ctx.flattens || force } _ _ hroot howner ht
    -- The arguments change properties only.
    refine ⟨blueprint, args, Title.of t, hparts, htitled, ?_⟩
    rcases hs with ⟨-, rfl⟩ | ⟨given, -, hs⟩
    · rfl
    · obtain ⟨shape, properties, -, -, -, rfl⟩ := spliceArgs_eq_ok.mp hs
      rfl
  · simp [hexpands] at hlinked

/-- A use of a declaration follows the rule for what it declares: a body, a
model, or a type under another name. -/
theorem describeUse (hw : w.Titles) {declaration : Declaration} {type : TypeNode}
    (hdenoted : denoted? w.program w.settings type.form = some (.declaration declaration))
    (hroot : ctx.parentPath = "") (howner : ctx.owner = some owner)
    (h : w.describeUse declaration location ctx = .ok s) :
    Titled w.program w.settings ctx.flattens owner type (.of s) := by
  have hexpands := Context.expands_of_root hroot
  rcases describeUse_eq_ok.mp h with
    ⟨target, typeArgs, hform, hwrapper, h⟩ | ⟨target, -, -, hlinked, -⟩ | ⟨hplain, h⟩
  · obtain ⟨blueprint, args, title, hparts, htitled, htitle⟩ :=
      hw.describeWrapper hroot howner h
    rw [Bool.or_false] at htitled
    exact htitle ▸ Titled.model hdenoted hform hwrapper hparts htitled
  · simp [hexpands] at hlinked
  · rcases describeNamed_eq_ok.mp h with ⟨hlinked, -⟩ | ⟨-, h⟩
    · simp [hexpands] at hlinked
    · obtain ⟨t, ht, rfl⟩ := expandDeclaration_eq_ok.mp h
      have hinner : (ctx.within declaration.name).owner =
          some (if ctx.flattens then owner else declaration.name) := by
        cases hflat : ctx.flattens <;> simp [Context.within, hflat, howner]
      have hbody := @hw.declaration _ (ctx.within declaration.name) _ _ hroot hinner ht
      rw [Title.of_ofDeclaration]
      unfold TitledBody at hbody
      split at hbody
      · next target hform =>
        have hnone := (hplain target hform).1
        exact .aliased hdenoted hform hnone (hbody hnone)
      · next hform =>
        -- The name is there already, so it is not given again.
        rw [hbody]
        exact .declared hdenoted fun target halias => hform target halias

/-- A type follows the rule for its form. -/
theorem describeType (hw : w.Titles) {type : TypeNode} (hroot : ctx.parentPath = "")
    (howner : ctx.owner = some owner) (h : w.describeType type ctx = .ok s) :
    Titled w.program w.settings ctx.flattens owner type (.of s) := by
  obtain ⟨form, place⟩ := type
  -- A form that is written out has its own rule. For a name the rule is found by what
  -- it denotes, which is the same question that the description asks.
  cases form with
  | keyword keyword =>
    cases keyword with
    | number | string | boolean | bigint =>
      cases Attempt.pure_eq_ok.mp h
      exact .keyword
    | null | undefined | other => exact (Attempt.throw_eq_ok.mp h).elim
  | stringLiteral value =>
    have htitle := literalEnum_title hroot howner h
    exact htitle ▸ Titled.literal
  | literal | unsupported => exact (Attempt.throw_eq_ok.mp h).elim
  | array element =>
    obtain ⟨t, ht, hs⟩ := Attempt.bind_eq_ok.mp h
    cases Attempt.pure_eq_ok.mp hs
    have htitled := hw.type hroot howner ht
    exact .array htitled
  | union types => exact hw.describeUnion hroot howner h
  | intersection parts =>
    obtain ⟨properties, -, hs⟩ := Attempt.bind_eq_ok.mp h
    cases Attempt.pure_eq_ok.mp hs
    exact .intersection
  | object members =>
    obtain ⟨properties, -, hs⟩ := Attempt.bind_eq_ok.mp h
    cases Attempt.pure_eq_ok.mp hs
    exact .object
  | function signature =>
    obtain ⟨-, args, returns, t, -, -, -, rfl⟩ := describeFunction_eq_ok.mp h
    exact .function
  | reference reference =>
    rcases describeReference_eq_ok.mp h with ⟨hwrapper, h⟩ | ⟨hplain, declaration, hresolve, -, -, h⟩
    · obtain ⟨blueprint, args, title, hparts, htitled, htitle⟩ :=
        hw.describeWrapper hroot howner h
      exact htitle ▸ Titled.wrapper (by simp [denoted?, hwrapper]) hparts htitled
    · exact hw.describeUse (by simp [denoted?, hplain, hresolve, denotedBy?]) hroot howner h
  | imported link =>
    obtain ⟨name, hname, ⟨hwrapper, h⟩ | ⟨hplain, declaration, hresolve, -, -, h⟩⟩ :=
      describeImport_eq_ok.mp h
    · obtain ⟨blueprint, args, title, hparts, htitled, htitle⟩ :=
        hw.describeWrapper hroot howner h
      exact htitle ▸ Titled.wrapper (by simp [denoted?, hwrapper]) hparts htitled
    · exact hw.describeUse (by simp [denoted?, hplain, hname, hresolve, denotedBy?]) hroot howner h

/-- A declaration that is described in full has the title of its body. -/
theorem describeDeclaration (hw : w.Titles) {declaration : Declaration}
    (hroot : ctx.parentPath = "") (howner : ctx.owner = some owner)
    (h : w.describeDeclaration declaration ctx = .ok s) :
    TitledBody w.program w.settings ctx.flattens owner declaration (.of s) := by
  have hexpands := Context.expands_of_root hroot
  have hbody {heritage : List TypeNode} {members : List Member}
      (h : w.describeBody declaration heritage members ctx = .ok s) :
      Title.of s = { typeName := some declaration.name, isComposite := true } := by
    rcases describeBody_eq_ok.mp h with ⟨-, rfl⟩ | ⟨-, -, properties, -, rfl⟩
    · rfl
    · rfl
  unfold Walker.describeDeclaration at h
  -- An alias has the title of its target, for which the walker below is asked.
  unfold TitledBody
  split at h
  · next target hform =>
    rw [hform]
    intro hnone
    rw [hnone] at h
    have hinner : (ctx.ownedBy declaration.name).owner = some owner := by
      simp [Context.ownedBy, howner]
    exact @hw.type _ (ctx.ownedBy declaration.name) _ _ hroot hinner h
  · next heritage members hform =>
    rw [hform]
    exact hbody h
  · next heritage members hform =>
    rw [hform]
    exact hbody h
  · next members hform =>
    rw [hform]
    rcases describeEnum_eq_ok.mp h with ⟨hlinked, -⟩ | ⟨-, properties, -, rfl⟩
    · simp [hexpands] at hlinked
    · rfl

end Walker.Titles

/-- The rules are followed with every number of levels. -/
theorem walkerWithin_titles (program : Program) (settings : Settings) (levels : Nat) :
    (walkerWithin program settings levels).Titles := by
  induction levels with
  | zero => exact ⟨fun _ _ h => (nomatch h), fun _ _ h => (nomatch h)⟩
  | succ levels ih =>
    refine ⟨fun hroot howner h => ?_, fun hroot howner h => ?_⟩
    · obtain ⟨t, ht, rfl⟩ := describeWithin_succ_eq_ok.mp h
      rw [Title.of_placed]
      exact ih.describeType hroot howner ht
    · obtain ⟨t, ht, rfl⟩ := describeWithin_succ_eq_ok.mp h
      rw [Title.of_placed]
      exact ih.describeDeclaration hroot howner ht

/-- A type at a root has the title that the rules give. -/
theorem describe_titled {ctx : Context} {s : Shape} (hroot : ctx.parentPath = "")
    (howner : ctx.owner = some owner)
    (h : (describe program settings (.type type) ctx : Attempt Shape) = .ok s) :
    Titled program settings ctx.flattens owner type (.of s) := by
  rw [describe_eq_describeWithin] at h
  exact (walkerWithin_titles program settings settings.maxDepth).type hroot howner h

end Expansion

end AppMetadata
