import AppMetadata.Expansion
import AppMetadata.Proofs.Program.Twins
import AppMetadata.Proofs.Tree.Likeness

/-!
# `AppMetadata.Proofs.Expansion.Simulation`: one walk in two kinds of computation

The functions of `Walker` are generic in the computation that they run in.
They build their answers from nothing but answers that are there already,
failures, notes, and one step after the other. So a relation between two
kinds of computation that all four respect (`Simulation`) relates the same
function of two walkers, as soon as it relates what they say about the nodes
below. The nodes need not be the same: it is enough that they are alike
(`Walker.Agree`), and that names which are alike are used alike.

* `Simulation.describeType_of_form`, `Simulation.describeReference`,
  `Simulation.describeImport`, `Simulation.describeUse`,
  `Simulation.describeDeclaration`, `Simulation.describeMemberType`: walkers
  that agree about the nodes below two nodes that are alike agree about these.
* `Simulation.describeNode`: two walks of one program.
-/

set_option autoImplicit false

namespace AppMetadata

/-- A relation between computations of two kinds. It holds of equal answers,
of equal failures and of equal notes, and sequencing keeps it. -/
structure Simulation (m n : Type → Type)
    [Monad m] [MonadExceptOf ExtractionError m] [Journal m]
    [Monad n] [MonadExceptOf ExtractionError n] [Journal n] where
  Related : {α : Type} → m α → n α → Prop
  pure {α : Type} (a : α) : Related (pure a : m α) (pure a : n α)
  throw {α : Type} (e : ExtractionError) : Related (throw e : m α) (throw e : n α)
  note (event : Event) : Related (note event : m Unit) (note event : n Unit)
  bind {α β : Type} {x : m α} {y : n α} {f : α → m β} {g : α → n β} :
    Related x y → (∀ a, Related (f a) (g a)) → Related (x >>= f) (y >>= g)

namespace Simulation

variable {m n : Type → Type}
  [Monad m] [MonadExceptOf ExtractionError m] [Journal m]
  [Monad n] [MonadExceptOf ExtractionError n] [Journal n]
  (S : Simulation m n)

/-- An answer that is known already is brought into both computations alike. -/
theorem ofExcept {α : Type} (answer : Except ExtractionError α) :
    S.Related (MonadExcept.ofExcept answer : m α) (MonadExcept.ofExcept answer : n α) := by
  cases answer with
  | ok a => exact S.pure a
  | error e => exact S.throw e

/-- Two lists are gone through in step: related steps make related runs. -/
theorem mapM₂ {α α' β : Type} {f : α → m β} {g : α' → n β} {list : List α} {list' : List α'}
    (h : List.Forall₂ (fun a a' => S.Related (f a) (g a')) list list') :
    S.Related (list.mapM f) (list'.mapM g) := by
  -- `mapM` is a loop, so the induction carries the answers collected so far.
  suffices loop : ∀ collected : List β,
      S.Related (List.mapM.loop f list collected) (List.mapM.loop g list' collected) from
    loop []
  induction h with
  | nil => intro collected; exact S.pure collected.reverse
  | cons ha _ ih =>
    intro collected
    exact S.bind ha fun b => ih (b :: collected)

/-- The same for one list that both computations go through. -/
theorem mapM {α β : Type} {f : α → m β} {g : α → n β} (list : List α)
    (h : ∀ a ∈ list, S.Related (f a) (g a)) : S.Related (list.mapM f) (list.mapM g) :=
  S.mapM₂ (List.forall₂_same.mpr h)

/-- Two computations that go through one list with a state keep together, as
long as each step does so from every state. -/
theorem foldlM {α β : Type} {f : β → α → m β} {g : β → α → n β} (list : List α) (b : β)
    (h : ∀ b, ∀ a ∈ list, S.Related (f b a) (g b a)) :
    S.Related (list.foldlM f b) (list.foldlM g b) := by
  induction list generalizing b with
  | nil => exact S.pure b
  | cons a rest ih =>
    exact S.bind (h b a (by simp)) fun b' => ih b' fun b'' a' ha' => h b'' a' (by simp [ha'])

end Simulation

namespace Expansion

variable {m n : Type → Type}
  [Monad m] [MonadExceptOf ExtractionError m] [Journal m]
  [Monad n] [MonadExceptOf ExtractionError n] [Journal n]

/-! ### What walkers have to agree about -/

/-- Walkers under one name for the model wrapper that say related things about
types that are alike by `R`, and about members that are alike by `M`. -/
structure Walker.Agree (S : Simulation m n) (R : TypeNode → TypeNode → Prop)
    (M : Member → Member → Prop) (w : Walker m) (v : Walker n) : Prop where
  likeness : Likeness R M
  wrapper : v.settings.modelWrapper = w.settings.modelWrapper
  type {type type' : TypeNode} (htype : R type type') (ctx : Context) :
    S.Related (w.describe (.type type) ctx) (v.describe (.type type') ctx)
  member {member member' : Member} (hmember : M member member') (ctx : Context) :
    S.Related (w.describe (.member member) ctx) (v.describe (.member member') ctx)

/-- Alike arguments of two model wrappers, whose blueprints have one name. -/
structure ArgsAgree (R : TypeNode → TypeNode → Prop) (program program' : Program)
    (args args' : List TypeNode) : Prop where
  types : List.Forall₂ R args args'
  blueprint : args.head?.bind (blueprintName? program) = args'.head?.bind (blueprintName? program')

/-- Targets of two aliases that are model wrappers alike, and transparent
alike. -/
structure Walker.TargetsAgree (R : TypeNode → TypeNode → Prop) (w : Walker m) (v : Walker n)
    (target target' : TypeNode) : Prop where
  alike : R target target'
  wrapper : Option.Rel (ArgsAgree R w.program v.program)
    (wrapperArgs? w.program w.settings target) (wrapperArgs? v.program v.settings target')
  transparent : isTransparent w.program maxAliasHops target =
    isTransparent v.program maxAliasHops target'

/-- Declarations that are related by `D` are used alike under one name. -/
structure Walker.UsesAgree (S : Simulation m n) (D : Declaration → Declaration → Prop)
    (w : Walker m) (v : Walker n) : Prop where
  name {declaration declaration' : Declaration} : D declaration declaration' →
    declaration.name = declaration'.name
  isGeneric {declaration declaration' : Declaration} : D declaration declaration' →
    declaration.isGeneric = declaration'.isGeneric
  use {declaration declaration' : Declaration} (h : D declaration declaration')
    (location : Location) (ctx : Context) :
    S.Related (w.describeUse declaration location ctx) (v.describeUse declaration' location ctx)

/-- Walkers that also say related things about declarations that are related by
`D`. -/
structure Walker.AgreeThroughout (S : Simulation m n) (R : TypeNode → TypeNode → Prop)
    (M : Member → Member → Prop) (D : Declaration → Declaration → Prop) (w : Walker m)
    (v : Walker n) : Prop extends w.Agree S R M v where
  declaration {declaration declaration' : Declaration} (h : D declaration declaration')
    (ctx : Context) :
    S.Related (w.describe (.declaration declaration) ctx)
      (v.describe (.declaration declaration') ctx)

/-- Walkers through one program, under one name for the model wrapper, that
say related things about every node. -/
structure Walker.Similar (S : Simulation m n) (w : Walker m) (v : Walker n) : Prop where
  program : v.program = w.program
  wrapper : v.settings.modelWrapper = w.settings.modelWrapper
  describe (node : Node) (ctx : Context) : S.Related (w.describe node ctx) (v.describe node ctx)

/-- Walkers of one program that describe the nodes below alike agree about
everything: each type and member is compared with itself. -/
theorem Walker.Similar.agree {S : Simulation m n} {w : Walker m} {v : Walker n}
    (h : w.Similar S v) : Walker.Agree S Eq Eq w v where
  likeness := likeness_eq (fun _ => rfl) fun hmember => hmember ▸ .refl _
  wrapper := h.wrapper
  type htype ctx := htype ▸ h.describe _ ctx
  member hmember ctx := hmember ▸ h.describe _ ctx

/-- Settings say about references only which name is that of the wrapper. -/
theorem isWrapper_congr {program : Program} {s t : Settings}
    (h : t.modelWrapper = s.modelWrapper) (reference : Reference) :
    isWrapper program t reference = isWrapper program s reference := by
  simp only [isWrapper, h]

/-- Whether an import type is a model wrapper depends on the settings only
through the name of the wrapper. -/
theorem isImportedWrapper_congr {s t : Settings} (h : t.modelWrapper = s.modelWrapper)
    (link : ImportType) : isImportedWrapper t link = isImportedWrapper s link := by
  simp only [isImportedWrapper, h]

/-- So do the type arguments of a wrapper. -/
theorem wrapperArgs?_congr {program : Program} {s t : Settings}
    (h : t.modelWrapper = s.modelWrapper) (type : TypeNode) :
    wrapperArgs? program t type = wrapperArgs? program s type := by
  simp only [wrapperArgs?, isWrapper_congr h, isImportedWrapper_congr h]

end Expansion

namespace Simulation

open Expansion

variable {m n : Type → Type}
  [Monad m] [MonadExceptOf ExtractionError m] [Journal m]
  [Monad n] [MonadExceptOf ExtractionError n] [Journal n]
  (S : Simulation m n) {R : TypeNode → TypeNode → Prop} {M : Member → Member → Prop}
  {w : Walker m} {v : Walker n}

/-! ### Parts of types and members -/

/-- An enum of literals has no nodes below it, so it is the same for all
walkers. -/
theorem literalEnum (literals : List String) (location : Location) (ctx : Context) :
    S.Related (Expansion.literalEnum literals location ctx)
      (Expansion.literalEnum literals location ctx) := by
  unfold Expansion.literalEnum
  split
  · refine S.bind (S.mapM literals fun literal _ => ?_) fun _ => S.pure _
    unfold literalValue
    split
    · exact S.pure _
    · exact S.throw _
  · exact S.throw _

/-- A member of an enum is described from its name alone, which like members
share. -/
theorem describeEnumMember {member member' : Member} (hmember : Member.Alike R member member')
    (value : Option EnumValue) (ctx : Context) :
    S.Related (Expansion.describeEnumMember member value ctx)
      (Expansion.describeEnumMember member' value ctx) := by
  cases hmember
  unfold Expansion.describeEnumMember
  split
  · dsimp only
    split
    · exact S.pure _
    · exact S.throw _
  · exact S.throw _
  · exact S.throw _

/-- Giving an argument to a property depends on shapes alone, not on a walker. -/
theorem spliceArg (label : String) (properties : List Shape) (argument : Shape) :
    S.Related (Expansion.spliceArg label properties argument)
      (Expansion.spliceArg label properties argument) := by
  unfold Expansion.spliceArg
  split
  · exact S.pure _
  · exact S.throw _

/-- What a member adds to the shape of its type is the same for two that are
alike. -/
theorem ofMember_eq (h : Likeness R M) {member member' : Member} (hmember : M member member')
    (path : String) (shape : Shape) : ofMember member path shape = ofMember member' path shape := by
  have hundefined := h.admitsUndefined_eq hmember
  obtain ⟨hform⟩ := h.member hmember
  simp only [ofMember, hundefined]

/-- A member is described at a path of its own, and what is added afterwards is
read off its name and its comment. -/
theorem describeMember (h : w.Agree S R M v) (base : String) (owner : Option String)
    {member member' : Member} (hmember : M member member') :
    S.Related (w.describeMember base owner member) (v.describeMember base owner member') := by
  have hname : member.name = member'.name := by
    cases h.likeness.member hmember
    rfl
  unfold Walker.describeMember
  rw [hname]
  refine S.bind (h.member hmember _) fun shape => ?_
  rw [ofMember_eq h.likeness hmember]
  exact S.pure _

/-- Like members, one after the other. -/
theorem describeMembers (h : w.Agree S R M v) {members members' : List Member}
    (hmembers : List.Forall₂ M members members') (ctx : Context) :
    S.Related (w.describeMembers members ctx) (v.describeMembers members' ctx) :=
  S.mapM₂ (hmembers.imp fun _ _ hmember => S.describeMember h ctx.basePath ctx.owner hmember)

/-- Types whose properties become those of another one. -/
theorem flattened (h : w.Agree S R M v) {types types' : List TypeNode}
    (htypes : List.Forall₂ R types types') (ctx : Context) :
    S.Related (w.flattened types ctx) (v.flattened types' ctx) :=
  S.bind (S.mapM₂ (htypes.imp fun _ _ htype => h.type htype _)) fun _ => S.pure _

/-- The inherited properties and the own ones are described alike, and then put
together in the same way. -/
theorem bodyProperties (h : w.Agree S R M v) {heritage heritage' : List TypeNode}
    {members members' : List Member} (hheritage : List.Forall₂ R heritage heritage')
    (hmembers : List.Forall₂ M members members') (ctx : Context) :
    S.Related (w.bodyProperties heritage members ctx) (v.bodyProperties heritage' members' ctx) :=
  S.bind (S.flattened h hheritage ctx) fun _ =>
    S.bind (S.describeMembers h hmembers ctx) fun _ => S.pure _

/-- Numbering two lists from the same start keeps their entries related, and
gives both the same numbers. -/
theorem forall₂_zipIdx {α β : Type} {P : α → β → Prop} {as : List α} {bs : List β}
    (h : List.Forall₂ P as bs) (start : Nat) :
    List.Forall₂ (fun a b => P a.1 b.1 ∧ a.2 = b.2) (as.zipIdx start) (bs.zipIdx start) := by
  induction h generalizing start with
  | nil => exact .nil
  | cons hab _ ih => exact .cons ⟨hab, rfl⟩ (ih (start + 1))

/-- The alternatives of a union stand at the paths of their positions, which do
not depend on the walker. -/
theorem mixedUnion (h : w.Agree S R M v) {alternatives alternatives' : List TypeNode}
    (halternatives : List.Forall₂ R alternatives alternatives') (location : Location)
    (ctx : Context) :
    S.Related (w.mixedUnion alternatives location ctx)
      (v.mixedUnion alternatives' location ctx) := by
  unfold Walker.mixedUnion
  split
  · refine S.bind (S.mapM₂ ((forall₂_zipIdx halternatives 0).imp ?_)) fun _ => S.pure _
    rintro ⟨type, index⟩ ⟨type', _⟩ ⟨htype, rfl⟩
    exact h.type htype _
  · exact S.throw _

/-- Like alternatives are literals together or not at all, so both walkers take
the same branch. -/
theorem describeAlternatives (h : w.Agree S R M v) {alternatives alternatives' : List TypeNode}
    (halternatives : List.Forall₂ R alternatives alternatives') (location : Location)
    (ctx : Context) :
    S.Related (w.describeAlternatives alternatives location ctx)
      (v.describeAlternatives alternatives' location ctx) := by
  unfold Walker.describeAlternatives
  rw [h.likeness.mapM_stringLiteral?_eq halternatives]
  split
  · exact S.literalEnum _ _ _
  · exact S.mixedUnion h halternatives _ _

/-- Nothing is left of one union exactly if nothing is left of the other, and
one alternative exactly if one is. -/
theorem describeUnion (h : w.Agree S R M v) {types types' : List TypeNode}
    (htypes : List.Forall₂ R types types') (location : Location) (ctx : Context) :
    S.Related (w.describeUnion types location ctx) (v.describeUnion types' location ctx) := by
  unfold Walker.describeUnion
  rw [h.likeness.admitNull_eq htypes]
  -- The alternatives of the two are as many as each other.
  match presentOf types, presentOf types', h.likeness.rel_presentOf htypes with
  | [], [], _ => exact S.throw _
  | [_], [_], .cons htype _ => exact S.bind (h.type htype _) fun _ => S.pure _
  | _ :: _ :: _, _ :: _ :: _, halternatives =>
    exact S.bind (S.describeAlternatives h halternatives _ _) fun _ => S.pure _

/-- A parameter without a type fails in both walkers; one with a type is
described below its path. -/
theorem describeParameter (h : w.Agree S R M v) {param param' : Parameter}
    (hparam : Parameter.Alike R param param') (location : Location) (ctx : Context) :
    S.Related (w.describeParameter param location ctx)
      (v.describeParameter param' location ctx) := by
  obtain ⟨htype⟩ := hparam
  cases htype with
  | none => exact S.throw _
  | some htype => exact S.bind (h.type htype _) fun _ => S.pure _

/-- A signature has its parameters, which are described first, and then its
return type. -/
theorem describeFunction (h : w.Agree S R M v) {signature signature' : Signature}
    (hsignature : Signature.Alike R signature signature') (location : Location) (ctx : Context) :
    S.Related (w.describeFunction signature location ctx)
      (v.describeFunction signature' location ctx) := by
  obtain ⟨hparams, hreturns⟩ := hsignature
  simp only [Walker.describeFunction, Walker.describeOperation, hparams.length_eq]
  split
  · exact S.throw _
  · refine S.bind (S.mapM₂ (hparams.imp fun _ _ hparam => S.describeParameter h hparam _ _)) ?_
    intro args
    cases hreturns with
    | none => exact S.throw _
    | some hreturns => exact S.bind (h.type hreturns _) fun _ => S.pure _

/-- Types that are alike and no names. -/
theorem describeType_of_form (h : w.Agree S R M v) {type type' : TypeNode}
    (hlocation : type.location = type'.location) (hform : TypeForm.Alike R M type.form type'.form)
    (ctx : Context) : S.Related (w.describeType type ctx) (v.describeType type' ctx) := by
  obtain ⟨form, location⟩ := type
  obtain ⟨form', location'⟩ := type'
  dsimp only at hlocation hform
  subst hlocation
  cases hform with
  | keyword keyword => cases keyword <;> first | exact S.pure _ | exact S.throw _
  | stringLiteral value => exact S.literalEnum _ _ _
  | literal source => exact S.throw _
  | unsupported source => exact S.throw _
  | array helement => exact S.bind (h.type helement _) fun _ => S.pure _
  | union htypes => exact S.describeUnion h htypes _ _
  | intersection htypes => exact S.bind (S.flattened h htypes _) fun _ => S.pure _
  | object hmembers => exact S.bind (S.describeMembers h hmembers _) fun _ => S.pure _
  | function hsignature => exact S.describeFunction h hsignature _ _

/-- The three kinds of members: with a type, with a signature, and with the
value of an enum. -/
theorem describeMemberType (h : w.Agree S R M v) {member member' : Member}
    (hmember : Member.Alike R member member') (ctx : Context) :
    S.Related (w.describeMemberType member ctx) (v.describeMemberType member' ctx) := by
  obtain ⟨hform⟩ := hmember
  cases hform with
  | property hform hform' htype =>
    cases htype with
    | none => cases hform <;> cases hform' <;> exact S.throw _
    | some htype => cases hform <;> cases hform' <;> exact h.type htype _
  | method hsignature => exact S.describeFunction h hsignature _ _
  | enumMember value => exact S.describeEnumMember (.mk (.enumMember value) : Member.Alike R _ _) _ _
  | unsupported description mentions mentions' => exact S.throw _

/-! ### Model wrappers -/

/-- The arguments are described apart from the model, and given to its
properties one by one. -/
theorem spliceArgs (h : w.Agree S R M v) (model : Shape) {args args' : TypeNode}
    (hargs : R args args') (location : Location) (ctx : Context) :
    S.Related (w.spliceArgs model args location ctx) (v.spliceArgs model args' location ctx) := by
  refine S.bind (h.type hargs _) fun shape => ?_
  split
  · exact S.throw _
  · exact S.bind (S.foldlM _ _ fun _ _ _ => S.spliceArg _ _ _) fun _ => S.pure _

/-- A model in full: the blueprint first, and then the arguments if there are
any. -/
theorem expandWrapper (h : w.Agree S R M v) {blueprint blueprint' : TypeNode}
    (hblueprint : R blueprint blueprint') {args args' : Option TypeNode}
    (hargs : Option.Rel R args args') (modelName : Option String) (location : Location)
    (ctx : Context) (force : Bool) :
    S.Related (w.expandWrapper blueprint args modelName location ctx force)
      (v.expandWrapper blueprint' args' modelName location ctx force) := by
  refine S.bind (h.type hblueprint _) fun shape => ?_
  cases hargs with
  | some hargs => exact S.spliceArgs h _ hargs location ctx
  | none => exact S.pure _

/-- A use of a wrapper is described in full or linked, and the two walkers
decide alike: they agree about the name of the blueprint and of the alias. -/
theorem describeWrapper (h : w.Agree S R M v) {typeArgs typeArgs' : List TypeNode}
    (hargs : ArgsAgree R w.program v.program typeArgs typeArgs')
    {named named' : Option Declaration} (hnamed : named.map (·.name) = named'.map (·.name))
    (location : Location) (ctx : Context) (force : Bool) :
    S.Related (w.describeWrapper typeArgs named location ctx force)
      (v.describeWrapper typeArgs' named' location ctx force) := by
  obtain ⟨htypes, hname⟩ := hargs
  -- The number of arguments occurs in the error for a wrong one.
  have hlength := htypes.length_eq
  have hexpand {blueprint blueprint' : TypeNode} {args args' : Option TypeNode}
      (hblueprint : R blueprint blueprint') (hsplice : Option.Rel R args args')
      (hname : blueprintName? w.program blueprint = blueprintName? v.program blueprint')
      (hparts : wrapperParts? typeArgs = some (blueprint, args))
      (hparts' : wrapperParts? typeArgs' = some (blueprint', args')) :
      S.Related (w.describeWrapper typeArgs named location ctx force)
        (v.describeWrapper typeArgs' named' location ctx force) := by
    simp only [Walker.describeWrapper, hparts, hparts', hname, hnamed]
    split
    · exact S.expandWrapper h hblueprint hsplice _ _ _ _
    · split
      · exact S.pure _
      · exact S.throw _
  have hrefuse (hparts : wrapperParts? typeArgs = none) (hparts' : wrapperParts? typeArgs' = none) :
      S.Related (w.describeWrapper typeArgs named location ctx force)
        (v.describeWrapper typeArgs' named' location ctx force) := by
    simp only [Walker.describeWrapper, hparts, hparts', h.wrapper, hlength]
    exact S.throw _
  match typeArgs, typeArgs', htypes with
  | [], [], _ => exact hrefuse rfl rfl
  | [_], [_], .cons hblueprint _ => exact hexpand hblueprint .none hname rfl rfl
  | [_, _], [_, _], .cons hblueprint (.cons hsplice _) =>
    exact hexpand hblueprint (.some hsplice) hname rfl rfl
  | _ :: _ :: _ :: _, _ :: _ :: _ :: _, _ => exact hrefuse rfl rfl

/-! ### Declarations -/

/-- An interface or a class: nothing is described of one that is generic, and
elsewhere its properties are. -/
theorem describeBody (h : w.Agree S R M v) {declaration declaration' : Declaration}
    (hdeclaration : declaration.Alike R M declaration') {heritage heritage' : List TypeNode}
    {members members' : List Member} (hheritage : List.Forall₂ R heritage heritage')
    (hmembers : List.Forall₂ M members members') (ctx : Context) :
    S.Related (w.describeBody declaration heritage members ctx)
      (v.describeBody declaration' heritage' members' ctx) := by
  unfold Walker.describeBody
  rw [hdeclaration.name, hdeclaration.isGeneric, hdeclaration.location, hdeclaration.category_eq]
  split
  · exact S.pure _
  · split
    · exact S.throw _
    · exact S.bind (S.bodyProperties h hheritage hmembers _) fun _ => S.pure _

/-- An enum is linked, or its members are described below its own name. -/
theorem describeEnum (h : w.Agree S R M v) {declaration declaration' : Declaration}
    (hname : declaration.name = declaration'.name) {members members' : List Member}
    (hmembers : List.Forall₂ M members members') (ctx : Context) :
    S.Related (w.describeEnum declaration members ctx)
      (v.describeEnum declaration' members' ctx) := by
  unfold Walker.describeEnum
  rw [hname]
  split
  · exact S.pure _
  · exact S.bind (S.mapM₂ (hmembers.imp fun _ _ hmember => S.describeMember h _ _ hmember))
      fun _ => S.pure _

/-- The kinds of declarations. An alias needs the two targets to agree beyond
their likeness, since what it becomes depends on whether they are wrappers. -/
theorem describeDeclaration (h : w.Agree S R M v) {declaration declaration' : Declaration}
    (hdeclaration : declaration.Alike R M declaration')
    (htarget : ∀ {target target'}, declaration.form = .typeAlias target →
      declaration'.form = .typeAlias target' → w.TargetsAgree R v target target')
    (ctx : Context) :
    S.Related (w.describeDeclaration declaration ctx) (v.describeDeclaration declaration' ctx) := by
  have halike := hdeclaration.form
  have hnamed : (some declaration).map (·.name) = (some declaration').map (·.name) :=
    congrArg some hdeclaration.name
  unfold Walker.describeDeclaration
  rw [← hdeclaration.name, ← hdeclaration.location]
  -- Declarations of different kinds are not alike, so four pairs are left.
  cases hform : declaration.form <;> cases hform' : declaration'.form <;>
    rw [hform, hform'] at halike <;> cases halike
  case typeAlias.typeAlias.typeAlias target target' _ =>
    obtain ⟨hbelow, hwrapper, -⟩ := htarget hform hform'
    dsimp only
    match wrapperArgs? w.program w.settings target, wrapperArgs? v.program v.settings target',
      hwrapper with
    | some _, some _, .some hargs =>
      exact S.describeWrapper h hargs hnamed _ _ _
    | none, none, _ => exact h.type hbelow _
  case interface.interface.interface hheritage hmembers =>
    exact S.describeBody h hdeclaration hheritage hmembers ctx
  case classType.classType.classType hheritage hmembers =>
    refine S.describeBody h hdeclaration ?_ hmembers ctx
    cases hheritage with
    | none => exact .nil
    | some hheritage => exact .cons hheritage .nil
  case enum.enum.enum hmembers => exact S.describeEnum h hdeclaration.name hmembers ctx

/-- A declaration that is expanded is described under its name and gets its
comment, and both are shared. -/
theorem expandDeclaration {declaration declaration' : Declaration}
    (hname : declaration.name = declaration'.name) (hdoc : declaration.doc = declaration'.doc)
    (hdescribe : ∀ ctx, S.Related (w.describe (.declaration declaration) ctx)
      (v.describe (.declaration declaration') ctx)) (ctx : Context) :
    S.Related (w.expandDeclaration declaration ctx) (v.expandDeclaration declaration' ctx) := by
  simp only [Walker.expandDeclaration, ofDeclaration, hname, hdoc]
  exact S.bind (S.note _) fun _ => S.bind (hdescribe _) fun _ => S.pure _

/-- A declaration is expanded or linked by its name. Only where it is expanded
do the walkers have to agree about its expansion. -/
theorem describeNamed {declaration declaration' : Declaration}
    (hname : declaration.name = declaration'.name) {ctx : Context}
    (hexpand : ctx.expands = true → S.Related (w.expandDeclaration declaration ctx)
      (v.expandDeclaration declaration' ctx)) :
    S.Related (w.describeNamed declaration ctx) (v.describeNamed declaration' ctx) := by
  unfold Walker.describeNamed
  rw [hname]
  cases hexpands : ctx.expands with
  | false => exact S.bind (S.note _) fun _ => S.pure _
  | true => exact hexpand hexpands

/-- The use of a declaration by name. An alias is inlined, described as a model,
or treated like any other declaration, and the two targets decide this alike. -/
theorem describeUse (h : w.Agree S R M v) {declaration declaration' : Declaration}
    (hdeclaration : declaration.Alike R M declaration')
    (hdescribe : ∀ ctx, S.Related (w.describe (.declaration declaration) ctx)
      (v.describe (.declaration declaration') ctx))
    (htarget : ∀ {target target'}, declaration.form = .typeAlias target →
      declaration'.form = .typeAlias target' → w.TargetsAgree R v target target')
    (location : Location) (ctx : Context) :
    S.Related (w.describeUse declaration location ctx)
      (v.describeUse declaration' location ctx) := by
  have halike := hdeclaration.form
  have hnamed : (some declaration).map (·.name) = (some declaration').map (·.name) :=
    congrArg some hdeclaration.name
  have hlinked := S.describeNamed hdeclaration.name fun _ =>
    S.expandDeclaration hdeclaration.name hdeclaration.doc hdescribe ctx
  unfold Walker.describeUse
  -- All but aliases are expanded or linked by their name.
  cases hform : declaration.form <;> cases hform' : declaration'.form <;>
    rw [hform, hform'] at halike <;> cases halike <;> try exact hlinked
  case typeAlias.typeAlias.typeAlias target target' _ =>
    obtain ⟨hbelow, hwrapper, htransparent⟩ := htarget hform hform'
    dsimp only
    rw [htransparent]
    match wrapperArgs? w.program w.settings target, wrapperArgs? v.program v.settings target',
      hwrapper with
    | some _, some _, .some hargs =>
      exact S.describeWrapper h hargs hnamed _ _ _
    | none, none, _ =>
      dsimp only
      split
      · exact h.type hbelow _
      · exact hlinked

/-! ### Names -/

/-- Nothing but the name of the wrapper and what the reference denotes decides
whether it is a wrapper. -/
theorem isWrapper_eq {D : Declaration → Declaration → Prop} {program program' : Program}
    {settings settings' : Settings} (hwrapper : settings'.modelWrapper = settings.modelWrapper)
    (hgeneric : ∀ {declaration declaration' : Declaration}, D declaration declaration' →
      declaration.isGeneric = declaration'.isGeneric)
    {name : EntityName} {scope : ModuleId} (args args' : List TypeNode)
    (hresolve : (program.resolve scope name).Alike D (program'.resolve scope name)) :
    isWrapper program settings ⟨name, args, scope⟩ =
      isWrapper program' settings' ⟨name, args', scope⟩ := by
  simp only [isWrapper, hwrapper]
  match program.resolve scope name, program'.resolve scope name, hresolve with
  | _, _, .declaration hdeclaration => simp only [hgeneric hdeclaration]
  | _, _, .external _ _ => rfl
  | _, _, .missing => rfl

/-- The name of a blueprint is that of the declaration that it denotes. -/
theorem blueprintName?_reference {D : Declaration → Declaration → Prop} {program program' : Program}
    (hname : ∀ {declaration declaration' : Declaration}, D declaration declaration' →
      declaration.name = declaration'.name)
    {name : EntityName} {scope : ModuleId} (args args' : List TypeNode) (location : Location)
    (hresolve : (program.resolve scope name).Alike D (program'.resolve scope name)) :
    blueprintName? program ⟨.reference ⟨name, args, scope⟩, location⟩ =
      blueprintName? program' ⟨.reference ⟨name, args', scope⟩, location⟩ := by
  dsimp only [blueprintName?]
  generalize program.resolve scope name = answer, program'.resolve scope name = answer' at hresolve
  cases hresolve with
  | declaration hdeclaration => exact congrArg some (hname hdeclaration)
  | external | missing => rfl

/-- The name of a blueprint that an import type names is the name of the
declaration that it leads to. -/
theorem blueprintName?_imported {D : Declaration → Declaration → Prop} {program program' : Program}
    (hname : ∀ {declaration declaration' : Declaration}, D declaration declaration' →
      declaration.name = declaration'.name)
    {specifier : String} {name : Option EntityName} {scope : ModuleId} (args args' : List TypeNode)
    (location : Location)
    (hresolve : ∀ item, name = some item →
      (program.resolveImport scope specifier item).Alike D
        (program'.resolveImport scope specifier item)) :
    blueprintName? program ⟨.imported ⟨specifier, name, args, scope⟩, location⟩ =
      blueprintName? program' ⟨.imported ⟨specifier, name, args', scope⟩, location⟩ := by
  cases name with
  | none => simp only [blueprintName?, Option.map_none]
  | some item =>
    have hresolve := hresolve item rfl
    dsimp only [blueprintName?, Option.map_some]
    generalize program.resolveImport scope specifier item = answer,
      program'.resolveImport scope specifier item = answer' at hresolve
    cases hresolve with
    | declaration hdeclaration => exact congrArg some (hname hdeclaration)
    | external | missing => rfl

/-- A reference is a wrapper in both programs or in neither, and what it
resolves to is used alike. -/
theorem describeReference (h : w.Agree S R M v) {D : Declaration → Declaration → Prop}
    (huse : w.UsesAgree S D v) {name : EntityName} {args args' : List TypeNode} {scope : ModuleId}
    (hargs : ArgsAgree R w.program v.program args args')
    (hresolve : (w.program.resolve scope name).Alike D (v.program.resolve scope name))
    (location : Location) (ctx : Context) :
    S.Related (w.describeReference ⟨name, args, scope⟩ location ctx)
      (v.describeReference ⟨name, args', scope⟩ location ctx) := by
  have hempty : args.isEmpty = args'.isEmpty := by
    cases hargs.types <;> rfl
  unfold Walker.describeReference
  rw [isWrapper_eq h.wrapper huse.isGeneric args args' hresolve]
  split
  · exact S.describeWrapper h hargs rfl _ _ _
  · dsimp only
    match w.program.resolve scope name, v.program.resolve scope name, hresolve with
    | _, _, .declaration hdeclaration =>
      dsimp only
      rw [hempty, huse.isGeneric hdeclaration]
      split
      · exact S.throw _
      · exact huse.use hdeclaration location ctx
    | _, _, .external _ _ => exact S.throw _
    | _, _, .missing => exact S.throw _

/-- So is an import type. One without a name fails in both. -/
theorem describeImport (h : w.Agree S R M v) {D : Declaration → Declaration → Prop}
    (huse : w.UsesAgree S D v) {specifier : String} {name : Option EntityName}
    {args args' : List TypeNode} {scope : ModuleId}
    (hargs : ArgsAgree R w.program v.program args args')
    (hresolve : ∀ item, name = some item →
      (w.program.resolveImport scope specifier item).Alike D
        (v.program.resolveImport scope specifier item))
    (location : Location) (ctx : Context) :
    S.Related (w.describeImport ⟨specifier, name, args, scope⟩ location ctx)
      (v.describeImport ⟨specifier, name, args', scope⟩ location ctx) := by
  have hempty : args.isEmpty = args'.isEmpty := by
    cases hargs.types <;> rfl
  cases name with
  | none => exact S.throw _
  | some item =>
    have hwrapper : isImportedWrapper v.settings ⟨specifier, some item, args', scope⟩ =
        isImportedWrapper w.settings ⟨specifier, some item, args, scope⟩ := by
      simp only [isImportedWrapper, h.wrapper]
    unfold Walker.describeImport
    dsimp only
    rw [hwrapper]
    split
    · exact S.describeWrapper h hargs rfl _ _ _
    · -- What the two resolve to is alike, so the checks of the type arguments come out
      -- the same.
      match w.program.resolveImport scope specifier item,
        v.program.resolveImport scope specifier item, hresolve item rfl with
      | _, _, .declaration hdeclaration =>
        dsimp only
        rw [hempty, huse.isGeneric hdeclaration, huse.name hdeclaration]
        split
        · exact S.throw _
        · exact huse.use hdeclaration location ctx
      | _, _, .external _ _ => exact S.throw _
      | _, _, .missing => exact S.throw _

end Simulation

namespace Expansion

variable {m n : Type → Type}
  [Monad m] [MonadExceptOf ExtractionError m] [Journal m]
  [Monad n] [MonadExceptOf ExtractionError n] [Journal n]
  {S : Simulation m n} {w : Walker m} {v : Walker n}

/-- Declarations that are described alike are used alike. -/
theorem Walker.AgreeThroughout.uses {R : TypeNode → TypeNode → Prop} {M : Member → Member → Prop}
    {D : Declaration → Declaration → Prop} (h : w.AgreeThroughout S R M D v)
    (halike : ∀ {declaration declaration' : Declaration}, D declaration declaration' →
      declaration.Alike R M declaration')
    (htarget : ∀ {declaration declaration' : Declaration}, D declaration declaration' →
      ∀ {target target' : TypeNode}, declaration.form = .typeAlias target →
        declaration'.form = .typeAlias target' → w.TargetsAgree R v target target') :
    w.UsesAgree S D v where
  name hdeclaration := (halike hdeclaration).name
  isGeneric hdeclaration := (halike hdeclaration).isGeneric
  use hdeclaration location ctx :=
    S.describeUse h.toAgree (halike hdeclaration) (h.declaration hdeclaration)
      (htarget hdeclaration) location ctx

/-! ### One program -/

/-- Type arguments agree with themselves in one program. -/
theorem ArgsAgree.refl {program program' : Program} (h : program' = program)
    (args : List TypeNode) : ArgsAgree Eq program program' args args :=
  ⟨List.forall₂_same.mpr fun _ _ => rfl, by rw [h]⟩

/-- The target of an alias agrees with itself, since the walkers have one
program and one set of settings. -/
theorem Walker.Similar.targets (h : w.Similar S v) (target : TypeNode) :
    w.TargetsAgree Eq v target target := by
  refine ⟨rfl, ?_, by rw [h.program]⟩
  rw [h.program, wrapperArgs?_congr h.wrapper]
  cases wrapperArgs? w.program w.settings target with
  | none => exact .none
  | some args => exact .some (.refl rfl args)

/-- The two targets of one alias are the same type. -/
theorem Walker.Similar.targets_of_form (h : w.Similar S v) {declaration : Declaration}
    {target target' : TypeNode} (hform : declaration.form = .typeAlias target)
    (hform' : declaration.form = .typeAlias target') : w.TargetsAgree Eq v target target' := by
  cases hform.symm.trans hform'
  exact h.targets target

/-- With one program and related walkers below, each declaration is used alike. -/
theorem Walker.Similar.uses (h : w.Similar S v) : w.UsesAgree S Eq v :=
  Walker.AgreeThroughout.uses (M := Eq) ⟨h.agree, fun heq ctx => heq ▸ h.describe _ ctx⟩
    (fun heq => heq ▸ .refl (fun _ => rfl) _)
    fun heq _ _ hform hform' => h.targets_of_form hform (heq ▸ hform')

end Expansion

namespace Simulation

open Expansion

variable {m n : Type → Type}
  [Monad m] [MonadExceptOf ExtractionError m] [Journal m]
  [Monad n] [MonadExceptOf ExtractionError n] [Journal n]
  (S : Simulation m n) {w : Walker m} {v : Walker n}

/-- Related walkers of one program describe each type alike. -/
theorem describeType (h : w.Similar S v) (type : TypeNode) (ctx : Context) :
    S.Related (w.describeType type ctx) (v.describeType type ctx) := by
  have hprogram := h.program
  rcases h.agree.likeness.form (rfl : type = type) with hform | ⟨hname, -⟩
  · exact S.describeType_of_form h.agree rfl hform ctx
  · obtain ⟨form, location⟩ := type
    cases hname with
    | reference reference =>
      exact S.describeReference h.agree h.uses (.refl hprogram _)
        (by rw [hprogram]; exact .refl _) _ _
    | imported link =>
      exact S.describeImport h.agree h.uses (.refl hprogram _)
        (fun _ _ => by rw [hprogram]; exact .refl _) _ _

/-- Walkers that agree about the nodes below a node agree about the node. -/
theorem describeNode (h : w.Similar S v) (node : Node) (ctx : Context) :
    S.Related (w.describeNode node ctx) (v.describeNode node ctx) := by
  cases node with
  | type type => exact S.describeType h type ctx
  | declaration declaration =>
    exact S.describeDeclaration h.agree (.refl (fun _ => rfl) declaration) h.targets_of_form ctx
  | member member => exact S.describeMemberType h.agree (.refl member) ctx

end Simulation

end AppMetadata
