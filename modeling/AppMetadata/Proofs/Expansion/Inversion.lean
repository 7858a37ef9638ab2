import AppMetadata.Proofs.Expansion.Counting
import Mathlib.Data.List.Forall2

/-!
# `AppMetadata.Proofs.Expansion.Inversion`: when a description succeeds

For each function of a walker, exactly when it gives a shape, and which one,
in terms of what the walker says about the nodes below. Proofs about shapes
use these equivalences and do not unfold the functions.

The lemmas are named `<function>_eq_ok`. `describeWithin_succ_eq_ok` puts
them together: they speak about a walker with one level less.
-/

set_option autoImplicit false

namespace AppMetadata

namespace Attempt

variable {α β : Type}

/-- A sequence of two steps answers exactly if both of them do. -/
theorem bind_eq_ok {x : Attempt α} {f : α → Attempt β} {b : β} :
    (x >>= f) = .ok b ↔ ∃ a, x = .ok a ∧ f a = .ok b := by
  cases x with
  | ok a => exact ⟨fun h => ⟨a, rfl, h⟩, fun ⟨_, rfl, h⟩ => h⟩
  | error e => exact ⟨fun h => (nomatch h), fun ⟨_, h, _⟩ => (nomatch h)⟩

/-- It fails with the error of the first step, or with that of the second one
after the first has answered. -/
theorem bind_eq_error {x : Attempt α} {f : α → Attempt β} {e : ExtractionError} :
    (x >>= f) = .error e ↔ x = .error e ∨ ∃ a, x = .ok a ∧ f a = .error e := by
  cases x with
  | ok a =>
    constructor
    · exact fun h => .inr ⟨a, rfl, h⟩
    · rintro (h | ⟨_, ⟨⟩, h⟩)
      · cases h
      · exact h
  | error other =>
    constructor
    · intro h
      cases h
      exact .inl rfl
    · rintro (h | ⟨_, h, -⟩)
      · cases h
        rfl
      · cases h

/-- From what is read off the answer of an attempt to the answer. -/
theorem exists_of_toOption_map {x : Attempt α} {f : α → β} {b : β}
    (h : x.toOption.map f = some b) : ∃ a, x = .ok a ∧ f a = b := by
  cases x with
  | ok a => exact ⟨a, rfl, Option.some.inj h⟩
  | error e => cases h

/-- Changing an answer adds no failure. -/
@[simp] theorem map_eq_ok {x : Attempt α} {f : α → β} {b : β} :
    (f <$> x) = .ok b ↔ ∃ a, x = .ok a ∧ b = f a := by
  cases x with
  | ok a => exact ⟨fun h => ⟨a, rfl, (Except.ok.inj h).symm⟩, fun ⟨_, rfl, h⟩ => h ▸ rfl⟩
  | error e => exact ⟨fun h => (nomatch h), fun ⟨_, h, _⟩ => (nomatch h)⟩

/-- What is returned is the answer. -/
@[simp] theorem pure_eq_ok {a b : α} : (pure a : Attempt α) = .ok b ↔ b = a :=
  ⟨fun h => (Except.ok.inj h).symm, fun h => congrArg Except.ok h.symm⟩

/-- A failure is never an answer. -/
@[simp] theorem throw_eq_ok {e : ExtractionError} {a : α} :
    (throw e : Attempt α) = .ok a ↔ False :=
  ⟨nofun, nofun⟩

/-- Going through a list answers exactly if each of its entries does, in order. -/
theorem mapM_eq_ok {f : α → Attempt β} {as : List α} {bs : List β} :
    as.mapM f = .ok bs ↔ List.Forall₂ (fun a b => f a = .ok b) as bs := by
  induction as generalizing bs with
  | nil => simp
  | cons a as ih =>
    simp only [List.mapM_cons, bind_eq_ok, pure_eq_ok, ih, List.forall₂_cons_left_iff]
    constructor
    · rintro ⟨b, hb, bs, hbs, rfl⟩
      exact ⟨b, bs, hb, hbs, rfl⟩
    · rintro ⟨b, bs, hb, hbs, rfl⟩
      exact ⟨b, hb, bs, hbs, rfl⟩

/-- Two lists in a row are gone through one after the other. -/
theorem mapM_append_eq_ok {f : α → Attempt β} {as as' : List α} {bs : List β} :
    (as ++ as').mapM f = .ok bs ↔
      ∃ cs ds, as.mapM f = .ok cs ∧ as'.mapM f = .ok ds ∧ bs = cs ++ ds := by
  simp only [List.mapM_append, bind_eq_ok, pure_eq_ok, exists_and_left]

/-- Entries that are the images of others make up the image of the list. -/
theorem forall₂_eq_map {f : α → β} {as : List α} {bs : List β} :
    List.Forall₂ (fun a b => b = f a) as bs ↔ bs = as.map f := by
  induction as generalizing bs with
  | nil => simp
  | cons a as ih => simp [List.forall₂_cons_left_iff, ih]

/-- Each entry on the right belongs to one on the left. -/
theorem exists_of_mem_right {R : α → β → Prop} {as : List α} {bs : List β} {b : β}
    (h : List.Forall₂ R as bs) (hb : b ∈ bs) : ∃ a ∈ as, R a b := by
  induction h with
  | nil => cases hb
  | cons hhead _ ih =>
    cases hb with
    | head => exact ⟨_, List.mem_cons_self .., hhead⟩
    | tail _ hb =>
      obtain ⟨a, ha, hab⟩ := ih hb
      exact ⟨a, List.mem_cons_of_mem _ ha, hab⟩

end Attempt

namespace Expansion

open Attempt

/-! ### Steps without nodes below -/

/-- A literal is the value of an enum exactly if it is an identifier. -/
theorem literalValue_eq_ok {path literal : String} {s : Shape} :
    (literalValue path literal : Attempt Shape) = .ok s ↔
      isEnumValue literal = true ∧ s = literalProperty path literal := by
  unfold literalValue
  split <;> simp [*]

/-- Literals make an enum exactly if there is a name for it and all of them can
be values. -/
theorem literalEnum_eq_ok {literals : List String} {location : Location} {ctx : Context}
    {s : Shape} :
    (literalEnum literals location ctx : Attempt Shape) = .ok s ↔
      ∃ name, ctx.anonymousName? enumName? = some name ∧
        (∀ literal ∈ literals, isEnumValue literal = true) ∧
        s = { kind := .enum, typeName := some name,
              properties := literals.map (literalProperty ctx.basePath) } := by
  -- The values are checked one by one, and are the literals themselves.
  have hvalues (values : List Shape) :
      literals.mapM (literalValue ctx.basePath : String → Attempt Shape) = .ok values ↔
        (∀ literal ∈ literals, isEnumValue literal = true) ∧
          values = literals.map (literalProperty ctx.basePath) := by
    simp only [mapM_eq_ok, literalValue_eq_ok, List.forall₂_and_left, forall₂_eq_map]
  unfold literalEnum
  cases ctx.anonymousName? enumName? with
  | none => simp
  | some name =>
    simp only [bind_eq_ok, pure_eq_ok, hvalues, Option.some.injEq, exists_eq_left']
    constructor
    · rintro ⟨_, ⟨hliterals, rfl⟩, rfl⟩
      exact ⟨hliterals, rfl⟩
    · rintro ⟨hliterals, rfl⟩
      exact ⟨_, ⟨hliterals, rfl⟩, rfl⟩

/-- A member of an enum is described exactly if its value is the text of its own
name. -/
theorem describeEnumMember_eq_ok {member : Member} {value : Option EnumValue} {ctx : Context}
    {s : Shape} :
    (describeEnumMember member value ctx : Attempt Shape) = .ok s ↔
      value = some (.string member.name) ∧ s = { kind := .object } := by
  unfold describeEnumMember
  split
  · split
    · simp [*]
    · simp [*]
  · simp
  · simp

/-! ### Steps that ask about the nodes below -/

namespace Walker

variable {w : Walker Attempt}

/-- A member is its type, described at the path of the member, with the name,
the path and the comment of the member. -/
theorem describeMember_eq_ok {base : String} {owner : Option String} {member : Member}
    {s : Shape} :
    w.describeMember base owner member = .ok s ↔
      ∃ t, w.describe (.member member) { parentPath := joinPath base member.name, owner } = .ok t ∧
        s = ofMember member (joinPath base member.name) t := by
  simp only [describeMember, bind_eq_ok, pure_eq_ok]

/-- Members are described one by one, below the base path of the context. -/
theorem describeMembers_eq_ok {members : List Member} {ctx : Context} {shapes : List Shape} :
    w.describeMembers members ctx = .ok shapes ↔
      List.Forall₂ (fun member s => w.describeMember ctx.basePath ctx.owner member = .ok s)
        members shapes := by
  simp only [describeMembers, mapM_eq_ok]

/-- A union needs a name, and has its alternatives at the paths of their
positions. -/
theorem mixedUnion_eq_ok {alternatives : List TypeNode} {location : Location} {ctx : Context}
    {s : Shape} :
    w.mixedUnion alternatives location ctx = .ok s ↔
      ∃ name properties, ctx.anonymousName? unionName? = some name ∧
        List.Forall₂
          (fun (entry : TypeNode × Nat) s => w.describe (.type entry.1)
            (ctx.below (joinPath ctx.basePath (toString entry.2))) = .ok s)
          alternatives.zipIdx properties ∧
        s = { kind := .union, typeName := some name, properties } := by
  unfold mixedUnion
  cases ctx.anonymousName? unionName? with
  | none => simp
  | some name => simp only [bind_eq_ok, pure_eq_ok, mapM_eq_ok, Option.some.injEq,
      exists_and_left, exists_eq_left']

/-- Several alternatives are an enum if all are literals, and a union otherwise. -/
theorem describeAlternatives_eq_ok {alternatives : List TypeNode} {location : Location}
    {ctx : Context} {s : Shape} :
    w.describeAlternatives alternatives location ctx = .ok s ↔
      (∃ literals, alternatives.mapM (·.form.stringLiteral?) = some literals ∧
        (literalEnum literals location ctx : Attempt Shape) = .ok s) ∨
      (alternatives.mapM (·.form.stringLiteral?) = none ∧
        w.mixedUnion alternatives location ctx = .ok s) := by
  unfold describeAlternatives
  split <;> simp [*]

/-- A union is its only alternative, or what several alternatives make, and null
among its types makes it nullable. Without any alternative it is no shape. -/
theorem describeUnion_eq_ok {types : List TypeNode} {location : Location} {ctx : Context}
    {s : Shape} :
    w.describeUnion types location ctx = .ok s ↔
      (∃ single t, presentOf types = [single] ∧ w.describe (.type single) ctx = .ok t ∧
        s = { t with nullable := t.nullable || admitNull types }) ∨
      (2 ≤ (presentOf types).length ∧
        ∃ t, w.describeAlternatives (presentOf types) location ctx = .ok t ∧
          s = { t with nullable := admitNull types }) := by
  unfold describeUnion
  split
  · simp [*]
  · next single hpresent => simp [hpresent]
  · next hnone hsingle =>
    -- Neither none nor a single one, so there are at least two.
    have hlength : 2 ≤ (presentOf types).length := by
      match hpresent : presentOf types with
      | [] => exact absurd hpresent hnone
      | [single] => exact absurd hpresent (hsingle single)
      | _ :: _ :: _ => simp
    have hnot (single : TypeNode) : presentOf types ≠ [single] := hsingle single
    simp only [bind_eq_ok, pure_eq_ok, hnot, hlength, false_and, exists_false, false_or, true_and]

/-- The properties of several types, which are described as parts of another
one, in a row. -/
theorem flattened_eq_ok {types : List TypeNode} {ctx : Context} {properties : List Shape} :
    w.flattened types ctx = .ok properties ↔
      ∃ parts, List.Forall₂ (fun type s => w.describe (.type type) ctx.flattening = .ok s)
          types parts ∧
        properties = parts.flatMap (·.properties) := by
  simp only [flattened, bind_eq_ok, pure_eq_ok, mapM_eq_ok]

/-- The properties of a body: its own ones replace those of their names among
the inherited ones. -/
theorem bodyProperties_eq_ok {heritage : List TypeNode} {members : List Member} {ctx : Context}
    {properties : List Shape} :
    w.bodyProperties heritage members ctx = .ok properties ↔
      ∃ inherited own, w.flattened heritage ctx = .ok inherited ∧
        w.describeMembers members ctx = .ok own ∧ properties = own.foldl override inherited := by
  simp only [bodyProperties, bind_eq_ok, pure_eq_ok, exists_and_left]

/-- A body is a name where it is not expanded. Where it is, it must not be
generic, and has its properties. -/
theorem describeBody_eq_ok {declaration : Declaration} {heritage : List TypeNode}
    {members : List Member} {ctx : Context} {s : Shape} :
    w.describeBody declaration heritage members ctx = .ok s ↔
      (ctx.expands = false ∧ s = { kind := .object, typeName := some declaration.name }) ∨
      (ctx.expands = true ∧ declaration.isGeneric = false ∧
        ∃ properties, w.bodyProperties heritage members ctx = .ok properties ∧
          s = { kind := .object, typeName := some declaration.name, properties }) := by
  unfold describeBody
  cases ctx.expands <;> cases declaration.isGeneric <;> simp

/-- The label under which the arguments of a model are described. -/
def argsLabel (model : Shape) (ctx : Context) : String :=
  (model.modelName <|> model.typeName).getD ctx.basePath

/-- The arguments are described below the label of the model, and each of their
properties is given to the property of its name. -/
theorem spliceArgs_eq_ok {model : Shape} {args : TypeNode} {location : Location} {ctx : Context}
    {s : Shape} :
    w.spliceArgs model args location ctx = .ok s ↔
      ∃ shape properties,
        w.describe (.type args)
          { flattens := true, owner := some (joinPath (argsLabel model ctx) "args") } = .ok shape ∧
        shape.kind = .object ∧
        (shape.properties.foldlM (spliceArg (argsLabel model ctx)) model.properties :
          Attempt (List Shape)) = .ok properties ∧
        s = { model with properties } := by
  simp only [spliceArgs, argsLabel, bind_eq_ok]
  refine exists_congr fun shape => ?_
  rw [exists_and_left]
  refine and_congr_right fun _ => ?_
  -- Arguments of another kind are refused, so they have to be an object.
  by_cases hobject : shape.kind = .object
  · simp [hobject]
  · simp [hobject]

/-- A wrapper that is expanded is its blueprint under the name of the model,
with the arguments if there are any. -/
theorem expandWrapper_eq_ok {blueprint : TypeNode} {args : Option TypeNode}
    {modelName : Option String} {location : Location} {ctx : Context} {force : Bool} {s : Shape} :
    w.expandWrapper blueprint args modelName location ctx force = .ok s ↔
      ∃ t, w.describe (.type blueprint) { ctx with flattens := ctx.flattens || force } = .ok t ∧
        ((args = none ∧ s = { t with modelName }) ∨
          ∃ given, args = some given ∧
            w.spliceArgs { t with modelName } given location ctx = .ok s) := by
  simp only [expandWrapper, bind_eq_ok]
  refine exists_congr fun t => and_congr_right fun _ => ?_
  cases args <;> simp

/-- The name of the model that a wrapper makes: that of the alias, or of the
blueprint. -/
def wrapperModelName? (program : Program) (named : Option Declaration) (blueprint : TypeNode) :
    Option String :=
  named.map (·.name) <|> blueprintName? program blueprint

/-- A wrapper has one or two type arguments. It is expanded if the context or
the kind of its use asks for it, and is linked by the name of its blueprint
otherwise. -/
theorem describeWrapper_eq_ok {typeArgs : List TypeNode} {named : Option Declaration}
    {location : Location} {ctx : Context} {force : Bool} {s : Shape} :
    w.describeWrapper typeArgs named location ctx force = .ok s ↔
      ∃ blueprint args, wrapperParts? typeArgs = some (blueprint, args) ∧
        (((force || ctx.expands) = true ∧
            w.expandWrapper blueprint args (wrapperModelName? w.program named blueprint) location
              ctx force = .ok s) ∨
          ((force || ctx.expands) = false ∧
            ∃ typeName,
              (blueprintName? w.program blueprint <|>
                wrapperModelName? w.program named blueprint) = some typeName ∧
              s = .link typeName (wrapperModelName? w.program named blueprint))) := by
  unfold describeWrapper wrapperModelName?
  cases wrapperParts? typeArgs with
  | none => simp
  | some parts =>
    obtain ⟨blueprint, args⟩ := parts
    simp only [Option.some.injEq, Prod.mk.injEq, exists_and_left, exists_eq_left', and_assoc]
    -- Expanded or linked, which the condition on the context decides.
    cases force || ctx.expands with
    | true => simp
    | false =>
      simp only [Bool.false_eq_true, if_false, false_and, false_or, true_and]
      split
      · next typeName htypeName =>
        rw [htypeName]
        simp only [pure_eq_ok, Option.some.injEq, exists_eq_left']
      · next hnone =>
        rw [hnone]
        simp

/-- A declaration that is expanded is what it declares, under its name and with
its comment. -/
theorem expandDeclaration_eq_ok {declaration : Declaration} {ctx : Context} {s : Shape} :
    w.expandDeclaration declaration ctx = .ok s ↔
      ∃ t, w.describe (.declaration declaration) (ctx.within declaration.name) = .ok t ∧
        s = ofDeclaration declaration t := by
  unfold expandDeclaration
  simp only [bind_eq_ok, pure_eq_ok]
  -- The note that comes first never fails.
  exact ⟨fun ⟨_, _, h⟩ => h, fun h => ⟨(), rfl, h⟩⟩

/-- A declaration is linked or expanded, as the context asks. -/
theorem describeNamed_eq_ok {declaration : Declaration} {ctx : Context} {s : Shape} :
    w.describeNamed declaration ctx = .ok s ↔
      (ctx.expands = false ∧ s = .link declaration.name) ∨
      (ctx.expands = true ∧ w.expandDeclaration declaration ctx = .ok s) := by
  unfold describeNamed
  cases ctx.expands with
  | true => simp
  | false =>
    simp only [Bool.not_false, if_true, bind_eq_ok, pure_eq_ok, true_and, Bool.false_eq_true,
      false_and, or_false]
    exact ⟨fun ⟨_, _, h⟩ => h, fun h => ⟨(), rfl, h⟩⟩

/-- The three ways to use a declared name: as a model, as the type that a
transparent alias stands for, and by its name. -/
theorem describeUse_eq_ok {declaration : Declaration} {location : Location} {ctx : Context}
    {s : Shape} :
    w.describeUse declaration location ctx = .ok s ↔
      (∃ target args, declaration.form = .typeAlias target ∧
        wrapperArgs? w.program w.settings target = some args ∧
        w.describeWrapper args (some declaration) location ctx false = .ok s) ∨
      (∃ target, declaration.form = .typeAlias target ∧
        wrapperArgs? w.program w.settings target = none ∧ ctx.expands = false ∧
        isTransparent w.program maxAliasHops target = true ∧
        w.describe (.type target) ctx = .ok s) ∨
      ((∀ target, declaration.form = .typeAlias target →
          wrapperArgs? w.program w.settings target = none ∧
            (ctx.expands = false → isTransparent w.program maxAliasHops target = false)) ∧
        w.describeNamed declaration ctx = .ok s) := by
  unfold describeUse
  cases declaration.form with
  | typeAlias target =>
    -- The target decides which of the three ways it is.
    simp only [DeclarationForm.typeAlias.injEq, exists_and_left, exists_eq_left', forall_eq']
    cases wrapperArgs? w.program w.settings target with
    | some args => simp
    | none =>
      cases ctx.expands with
      | true => simp
      | false =>
        cases isTransparent w.program maxAliasHops target <;> simp
  | interface heritage members => simp
  | classType heritage members => simp
  | enum members => simp

/-- A reference is a wrapper, or it resolves to a declaration that is then used. -/
theorem describeReference_eq_ok {reference : Reference} {location : Location} {ctx : Context}
    {s : Shape} :
    w.describeReference reference location ctx = .ok s ↔
      (isWrapper w.program w.settings reference = true ∧
        w.describeWrapper reference.args none location ctx false = .ok s) ∨
      (isWrapper w.program w.settings reference = false ∧
        ∃ declaration, w.program.resolve reference.scope reference.name = .declaration declaration ∧
          reference.args = [] ∧ declaration.isGeneric = false ∧
          w.describeUse declaration location ctx = .ok s) := by
  unfold describeReference
  cases isWrapper w.program w.settings reference with
  | true => simp
  | false =>
    cases w.program.resolve reference.scope reference.name with
    | declaration declaration =>
      cases reference.args with
      | nil => cases hgeneric : declaration.isGeneric <;> simp [hgeneric]
      | cons arg args => simp
    | external specifier imported => simp
    | missing => simp

/-- An import type has a name, and is a wrapper or resolves to a declaration. A
wrapper is expanded wherever it stands. -/
theorem describeImport_eq_ok {link : ImportType} {location : Location} {ctx : Context}
    {s : Shape} :
    w.describeImport link location ctx = .ok s ↔
      ∃ name, link.name = some name ∧
        ((isImportedWrapper w.settings link = true ∧
            w.describeWrapper link.args none location ctx true = .ok s) ∨
          (isImportedWrapper w.settings link = false ∧
            ∃ declaration,
              w.program.resolveImport link.scope link.specifier name = .declaration declaration ∧
              link.args = [] ∧ declaration.isGeneric = false ∧
              w.describeUse declaration location ctx = .ok s)) := by
  unfold describeImport
  cases link.name with
  | none => simp
  | some name =>
    simp only [Option.some.injEq, exists_eq_left']
    -- No name is a wrapper and resolved at once: the wrapper is told first.
    cases isImportedWrapper w.settings link with
    | true => simp
    | false =>
      cases w.program.resolveImport link.scope link.specifier name with
      | declaration declaration =>
        cases link.args with
        | nil => cases hgeneric : declaration.isGeneric <;> simp [hgeneric]
        | cons arg args => simp
      | external specifier imported => simp
      | missing => simp

/-- A parameter has a type, which is described at the path of the parameter. -/
theorem describeParameter_eq_ok {param : Parameter} {location : Location} {ctx : Context}
    {s : Shape} :
    w.describeParameter param location ctx = .ok s ↔
      ∃ type t, param.type = some type ∧
        w.describe (.type type) (ctx.below (joinPath ctx.basePath param.name)) = .ok t ∧
        s = ofParameter param (joinPath ctx.basePath param.name) t := by
  unfold describeParameter
  cases param.type <;> simp

/-- An operation has one parameter at most and a return type, which stands at
the path of the operation itself. -/
theorem describeFunction_eq_ok {signature : Signature} {location : Location} {ctx : Context}
    {s : Shape} :
    w.describeFunction signature location ctx = .ok s ↔
      signature.params.length ≤ 1 ∧
        ∃ args returns t,
          List.Forall₂ (fun param s => w.describeParameter param location ctx = .ok s)
            signature.params args ∧
          signature.returns = some returns ∧
          w.describe (.type returns) (ctx.below ctx.basePath) = .ok t ∧
          s = { kind := .function, args, returnType := some t } := by
  unfold describeFunction describeOperation
  by_cases hparams : signature.params.length ≤ 1
  · simp only [gt_iff_lt, Nat.not_lt.mpr hparams, if_false, bind_eq_ok, mapM_eq_ok, hparams,
      true_and]
    cases signature.returns with
    | none => simp
    | some returns => simp
  · simp [hparams, Nat.lt_of_not_le hparams]

/-- An enum is linked, or has its members below its own name. -/
theorem describeEnum_eq_ok {declaration : Declaration} {members : List Member} {ctx : Context}
    {s : Shape} :
    w.describeEnum declaration members ctx = .ok s ↔
      (ctx.expands = false ∧ s = .link declaration.name) ∨
      (ctx.expands = true ∧
        ∃ properties,
          List.Forall₂
            (fun member s =>
              w.describeMember ctx.basePath (some declaration.name) member = .ok s)
            members properties ∧
          s = { kind := .enum, typeName := some declaration.name, properties }) := by
  unfold describeEnum
  cases ctx.expands <;> simp [mapM_eq_ok]

/-- What a member is described as depends on its form: its type, its signature,
or the value of an enum. -/
theorem describeMemberType_eq_ok {member : Member} {ctx : Context} {s : Shape} :
    w.describeMemberType member ctx = .ok s ↔
      (∃ type, member.type? = some type ∧ w.describe (.type type) ctx = .ok s) ∨
      (∃ signature, member.form = .method signature ∧
        w.describeFunction signature member.location ctx = .ok s) ∨
      (member.form = .enumMember (some (.string member.name)) ∧ s = { kind := .object }) := by
  unfold describeMemberType Member.type?
  cases member.form with
  | signature type => cases type <;> simp
  | field type => cases type <;> simp
  | method signature => simp
  | enumMember value => simp [describeEnumMember_eq_ok]
  | unsupported description mentions => simp

end Walker

/-! ### One level -/

/-- A node is described by what the walker with one level less says about it,
put at the path of its context. -/
theorem describeWithin_succ_eq_ok {program : Program} {settings : Settings} {levels : Nat}
    {node : Node} {ctx : Context} {s : Shape} :
    describeWithin program settings (levels + 1) node ctx = .ok s ↔
      ∃ t, (walkerWithin program settings levels).describeNode node ctx = .ok t ∧
        s = placed ctx t := by
  simp only [describeWithin_succ, bind_eq_ok, pure_eq_ok]

/-- What is described within a limit takes a level. -/
theorem describe_eq_ok {program : Program} {settings : Settings} {node : Node} {ctx : Context}
    {s : Shape} :
    (describe program settings node ctx : Attempt Shape) = .ok s ↔
      ∃ levels, settings.maxDepth = levels + 1 ∧
        describeWithin program settings (levels + 1) node ctx = .ok s := by
  rw [describe_eq_describeWithin]
  cases settings.maxDepth with
  | zero => simp [describeWithin]
  | succ levels => simp

/-- A shape that stands somewhere stays there. -/
theorem placed_placed (ctx : Context) (shape : Shape) :
    placed ctx (placed ctx shape) = placed ctx shape := by
  unfold placed
  split
  · split <;> rfl
  · rfl

/-- What is described has been placed already, and placing it again does
nothing. -/
theorem placed_of_describeWithin {program : Program} {settings : Settings} {levels : Nat}
    {node : Node} {ctx : Context} {s : Shape}
    (h : describeWithin program settings levels node ctx = .ok s) : placed ctx s = s := by
  cases levels with
  | zero => cases h
  | succ levels =>
    obtain ⟨t, -, rfl⟩ := describeWithin_succ_eq_ok.mp h
    exact placed_placed ctx t

end Expansion

end AppMetadata
