import AppMetadata.Proofs.Expansion.Denotation
import AppMetadata.Proofs.Expansion.Inlining
import AppMetadata.Proofs.Expansion.PropertyLists
import AppMetadata.Proofs.Expansion.Visits

/-!
# `AppMetadata.Proofs.Expansion.Splicing`: the arguments of a model

A model wrapper is written in place, named by an alias, or is what an alias
declares (`Wraps`). Where it is described in full, the blueprint and the
arguments are described apart from each other, and the arguments, which are an
object, are put to the properties of the blueprint that have their names.

* `describeNode_of_wraps`: the three uses come to one function.
* `describeWrapper_of_full`: that function, in terms of the two descriptions.
* `describe_wrapper_splices`: when a model has a shape, and which one.
-/

set_option autoImplicit false

namespace AppMetadata.Expansion

section

variable {w : Walker Attempt} {type : TypeNode} {typeArgs : List TypeNode} {force : Bool}
  {node : Node} {named : Option Declaration} {ctx : Context}

/-! ### The uses of a wrapper -/

/-- A wrapper that is written in place is described as one without a name. -/
theorem describeType_of_wrapper
    (hdenoted : denoted? w.program w.settings type.form = some (.wrapper typeArgs force)) :
    w.describeType type ctx = w.describeWrapper typeArgs none type.location ctx force := by
  obtain ⟨form, location⟩ := type
  cases form with
  | reference reference =>
    show w.describeReference reference location ctx = _
    change (if isWrapper w.program w.settings reference then _ else _) = _ at hdenoted
    unfold Walker.describeReference
    split at hdenoted
    · next hwrapper =>
      cases hdenoted
      rw [if_pos hwrapper]
    · exact absurd hdenoted denotedBy?_ne_wrapper
  | imported link =>
    show w.describeImport link location ctx = _
    change (if isImportedWrapper w.settings link then _ else _) = _ at hdenoted
    unfold Walker.describeImport
    split at hdenoted
    · next hwrapper =>
      cases hdenoted
      -- The wrapper's name is what the link names, so there is one.
      cases hname : link.name with
      | none => simp [isImportedWrapper, hname] at hwrapper
      | some name =>
        dsimp only
        rw [if_pos hwrapper]
    · obtain ⟨name, -, hname⟩ := Option.bind_eq_some_iff.mp hdenoted
      exact absurd hname denotedBy?_ne_wrapper
  | _ => cases hdenoted

/-- The name of a declaration is described as a use of it. -/
theorem describeType_of_names {declaration : Declaration}
    (hnames : Names w.program w.settings type.form declaration) :
    w.describeType type ctx = w.describeUse declaration type.location ctx := by
  obtain ⟨hdenoted, hargs, hplain⟩ := hnames
  obtain ⟨form, location⟩ := type
  cases form with
  | reference reference =>
    obtain ⟨hwrapper, hresolve⟩ := denoted?_reference.mp hdenoted
    show w.describeReference reference location ctx = _
    have hargs : reference.args = [] := hargs
    simp [Walker.describeReference, hwrapper, hresolve, hargs, hplain]
  | imported link =>
    obtain ⟨hwrapper, name, hname, hresolve⟩ := denoted?_imported.mp hdenoted
    show w.describeImport link location ctx = _
    have hargs : link.args = [] := hargs
    simp [Walker.describeImport, hname, hwrapper, hresolve, hargs, hplain]
  | _ => cases hdenoted

/-- All uses of a wrapper are described by one function. -/
theorem describeNode_of_wraps (h : Wraps w.program w.settings typeArgs node named force) :
    w.describeNode node ctx = w.describeWrapper typeArgs named node.location ctx force := by
  cases h with
  | written hdenoted => exact describeType_of_wrapper hdenoted
  | @named type target declaration hnames hform htarget =>
    have huse : w.describeUse declaration type.location ctx =
        w.describeWrapper typeArgs (some declaration) type.location ctx false := by
      simp only [Walker.describeUse, hform, htarget]
    exact (describeType_of_names hnames).trans huse
  | @declared target declaration hform htarget =>
    show w.describeDeclaration declaration ctx = _
    simp only [Walker.describeDeclaration, hform, htarget]
    rfl

/-! ### The blueprint and the arguments -/

/-- The first of `arguments` that has no property to be put to. -/
def unknown? (arguments properties : List Shape) : Option Shape :=
  arguments.find? (·.propertyName ∉ properties.map (·.propertyName))

/-- No argument is unknown exactly if each has a property of its name. -/
theorem unknown?_eq_none {arguments properties : List Shape} :
    unknown? arguments properties = none ↔
      ∀ argument ∈ arguments, argument.propertyName ∈ properties.map (·.propertyName) := by
  simp [unknown?]

/-- What is described as a blueprint, under the name of the model. -/
def modelOf (program : Program) (named : Option Declaration) (blueprint : TypeNode) (b : Shape) :
    Shape :=
  { b with modelName := Walker.wrapperModelName? program named blueprint }

/-- What a model amounts to once its arguments `a` are known. -/
def withArguments (model a : Shape) (label : String) (location : Location) : Attempt Shape :=
  if a.kind = .object then
    match unknown? a.properties model.properties with
    | none => .ok { model with properties := giveEach a.properties model.properties }
    | some argument => .error (.unknownArgument label argument.propertyName)
  else
    .error (.unsupported location
      s!"arguments of model `{label}` must be an object type, found {a.kind.name}")

/-- Arguments are given to a model exactly if they are those of an object and
all of them are known. -/
theorem withArguments_eq_ok {model a s : Shape} {label : String} {location : Location} :
    withArguments model a label location = .ok s ↔
      a.kind = .object ∧
        (∀ argument ∈ a.properties,
          argument.propertyName ∈ model.properties.map (·.propertyName)) ∧
        s = { model with properties := giveEach a.properties model.properties } := by
  unfold withArguments
  rw [← unknown?_eq_none]
  split
  · next hobject =>
    cases unknown? a.properties model.properties <;> simp [hobject, eq_comm]
  · next hother => simp [hother]

/-- Otherwise the first unknown argument is the one that is reported. -/
theorem withArguments_of_unknown {model a argument : Shape} {label : String} {location : Location}
    (hobject : a.kind = .object)
    (hunknown : unknown? a.properties model.properties = some argument) :
    withArguments model a label location =
      .error (.unknownArgument label argument.propertyName) := by
  rw [withArguments, if_pos hobject, hunknown]

/-- The arguments are described below the label of the model, and then given to
its properties. -/
theorem spliceArgs_eq {model : Shape} {args : TypeNode} {location : Location} :
    w.spliceArgs model args location ctx = (do
      let a ← w.describe (.type args) (argsContext (Walker.argsLabel model ctx))
      withArguments model a (Walker.argsLabel model ctx) location) := by
  unfold Walker.spliceArgs
  refine bind_congr fun a => ?_
  -- Only the loop over the arguments is left, and it has a form without steps.
  unfold withArguments
  by_cases hobject : a.kind = .object
  · rw [hobject, if_neg (by decide), if_pos rfl, foldlM_spliceArg_eq, ← unknown?]
    cases unknown? a.properties model.properties <;> rfl
  · rw [if_pos (by simpa using hobject), if_neg hobject]
    rfl

/-- A wrapper that is described in full: the blueprint comes first, and the
name of the model is in the context of the arguments. -/
theorem describeWrapper_of_full {blueprint args : TypeNode} {location : Location}
    (hfull : (force || ctx.expands) = true) :
    w.describeWrapper [blueprint, args] named location ctx force = (do
      let b ← w.describe (.type blueprint) (blueprintContext ctx force)
      let model := modelOf w.program named blueprint b
      let a ← w.describe (.type args) (argsContext (Walker.argsLabel model ctx))
      withArguments model a (Walker.argsLabel model ctx) location) := by
  have hexpand : w.describeWrapper [blueprint, args] named location ctx force = (do
      let b ← w.describe (.type blueprint) (blueprintContext ctx force)
      w.spliceArgs (modelOf w.program named blueprint b) args location ctx) := by
    simp only [Walker.describeWrapper, wrapperParts?, if_pos hfull]
    rfl
  rw [hexpand]
  exact bind_congr fun b => spliceArgs_eq

end

/-! ### The shape of a model -/

section

variable {program : Program} {settings : Settings} {blueprint args : TypeNode} {node : Node}
  {named : Option Declaration} {ctx : Context} {force : Bool}

/-- The path is that of the blueprint, which stands where the model does. -/
theorem placed_modelOf {levels : Nat} {b : Shape}
    (h : describeWithin program settings levels (.type blueprint) (blueprintContext ctx force) =
      .ok b) (properties : List Shape) :
    placed ctx { modelOf program named blueprint b with properties } =
      { modelOf program named blueprint b with properties } := by
  -- A blueprint without a path has been placed at an empty one.
  have hpath : b.propertyPath.isEmpty = true → ctx.basePath = b.propertyPath := by
    intro hempty
    have hplaced := placed_of_describeWithin h
    rw [placed, if_pos hempty] at hplaced
    exact congrArg Shape.propertyPath hplaced
  unfold placed
  split
  · next hempty =>
    rw [hpath hempty]
    rfl
  · rfl

/-- A shape at its place is not moved. -/
theorem bind_placed {found : Attempt Shape} (h : ∀ s, found = .ok s → placed ctx s = s) :
    (do
      let s ← found
      return placed ctx s) = found := by
  cases found with
  | ok s => exact congrArg Except.ok (h s rfl)
  | error e => rfl

/-- A model that is not cut off, in terms of the blueprint and the arguments
alone. -/
theorem describe_wrapper_eq (hwraps : Wraps program settings [blueprint, args] node named force)
    (hfull : (force || ctx.expands) = true)
    (huncut : (describe program settings node ctx : Attempt Shape).Uncut) :
    (describe program settings node ctx : Attempt Shape) = (do
      let b ← describe program settings (.type blueprint) (blueprintContext ctx force)
      let model := modelOf program named blueprint b
      let a ← describe program settings (.type args) (argsContext (Walker.argsLabel model ctx))
      withArguments model a (Walker.argsLabel model ctx) node.location) := by
  let w := walkerWithin program settings settings.maxDepth
  have hnode : w.describeNode node ctx = _ :=
    (describeNode_of_wraps hwraps).trans (describeWrapper_of_full hfull)
  rw [describe_eq_of_uncut huncut, hnode, bind_placed fun s hs => ?_]
  · simp only [describe_eq_describeWithin]
    rfl
  · obtain ⟨b, hb, hs⟩ := Attempt.bind_eq_ok.mp hs
    obtain ⟨a, -, hs⟩ := Attempt.bind_eq_ok.mp hs
    obtain ⟨-, -, rfl⟩ := withArguments_eq_ok.mp hs
    exact placed_modelOf hb _

end

/-- A model wrapper with arguments that is described in full, because of its
context or because it is an import type, and is not cut off. It has a shape
exactly if the blueprint has a shape `b`, the arguments have a shape `a` in a
root of their own, `a` is an object, and each of its properties has the name of
a property of `b`. The shape is then `b` under the name of the alias or else of
the blueprint, in which the first property of a name gets the last argument of
the name as its only one (`giveEach`); nothing else is changed. If there are
such `b` and `a`, but `a` has a property that `b` has not, then the first of
these is reported. -/
theorem describe_wrapper_splices (program : Program) (settings : Settings)
    {blueprint args : TypeNode} {node : Node} {named : Option Declaration} {force : Bool}
    (hwraps : Wraps program settings [blueprint, args] node named force) {ctx : Context}
    (hfull : (force || ctx.expands) = true)
    (huncut : (describe program settings node ctx : Attempt Shape).Uncut) :
    let label (b : Shape) := Walker.argsLabel (modelOf program named blueprint b) ctx
    let Blueprint (b : Shape) :=
      (describe program settings (.type blueprint) (blueprintContext ctx force) : Attempt Shape) =
        .ok b
    let Arguments (b a : Shape) :=
      (describe program settings (.type args) (argsContext (label b)) : Attempt Shape) = .ok a ∧
        a.kind = .object
    (∀ s, (describe program settings node ctx : Attempt Shape) = .ok s ↔
      ∃ b a, Blueprint b ∧ Arguments b a ∧
        (∀ argument ∈ a.properties, argument.propertyName ∈ b.properties.map (·.propertyName)) ∧
        s = { b with
          modelName := Walker.wrapperModelName? program named blueprint
          properties := giveEach a.properties b.properties }) ∧
    (∀ b a argument, Blueprint b → Arguments b a →
      unknown? a.properties b.properties = some argument →
      (describe program settings node ctx : Attempt Shape) =
        .error (.unknownArgument (label b) argument.propertyName)) := by
  intro label Blueprint Arguments
  -- The description is three steps: the blueprint, the arguments under its label, and
  -- the join of the two.
  rw [describe_wrapper_eq hwraps hfull huncut]
  constructor
  · intro s
    simp only [Attempt.bind_eq_ok, withArguments_eq_ok]
    constructor
    · rintro ⟨b, hb, a, ha, hobject, hnamed, rfl⟩
      exact ⟨b, a, hb, ⟨ha, hobject⟩, hnamed, rfl⟩
    · rintro ⟨b, a, hb, ⟨ha, hobject⟩, hnamed, rfl⟩
      exact ⟨b, hb, a, ha, hobject, hnamed, rfl⟩
  · intro b a argument hb ⟨ha, hobject⟩ hunknown
    calc
      _ = (do
          let a ← (describe program settings (.type args) (argsContext (label b)) : Attempt Shape)
          withArguments (modelOf program named blueprint b) a (label b) node.location) := by
        rw [hb]
        rfl
      _ = withArguments (modelOf program named blueprint b) a (label b) node.location := by
        rw [ha]
        rfl
      _ = _ := withArguments_of_unknown hobject hunknown

/-- `{ title: string; id: string } & { title: string }`. -/
def titledTwice : TypeNode :=
  ⟨.intersection [⟨.object [textMember "title", textMember "id"], {}⟩,
    ⟨.object [textMember "title"], {}⟩], {}⟩

/-- `{ title: string; title: number }`. -/
def titleArgs : TypeNode :=
  ⟨.object [textMember "title", ⟨"title", .signature (some ⟨.keyword .number, {}⟩), false, {}, {}⟩],
    {}⟩

/-- `import("models").Model<…>` with these as its arguments. -/
def importedModel : TypeNode :=
  ⟨.imported ⟨"models", some (.identifier "Model"), [titledTwice, titleArgs], 0⟩, {}⟩

/-- A property of type `string` of a post. -/
def postProperty (name : String) : Shape where
  kind := .string
  propertyName := name
  propertyPath := joinPath "User.post" name

/-- The first of the two properties gets the second of the two arguments, in a
place where types are linked. -/
theorem describe_wrapper_splices_imported :
    let ctx : Context := { parentPath := "User.post" }
    let length : Shape :=
      { kind := .number, propertyName := "title", propertyPath := "User.post.args.title" }
    let shape : Shape :=
      { kind := .object, propertyPath := "User.post"
        properties := [{ postProperty "title" with args := [length] }, postProperty "id",
          postProperty "title"] }
    Wraps ⟨#[]⟩ {} [titledTwice, titleArgs] (.type importedModel) none true ∧
      (true || ctx.expands) = true ∧
      (describe ⟨#[]⟩ {} (.type importedModel) ctx : Attempt Shape).Uncut ∧
      (describe ⟨#[]⟩ {} (.type importedModel) ctx : Attempt Shape) = .ok shape ∧
      ∃ b a : Shape,
        (describe ⟨#[]⟩ {} (.type titledTwice) (blueprintContext ctx true) : Attempt Shape) =
          .ok b ∧
        shape.properties = giveEach a.properties b.properties := by
  intro ctx length shape
  have hwraps : Wraps ⟨#[]⟩ {} [titledTwice, titleArgs] (.type importedModel) none true :=
    .written rfl
  -- The import type is described in full although its context asks for a link.
  have hshape : (describe ⟨#[]⟩ {} (.type importedModel) ctx : Attempt Shape) = .ok shape := by
    rw [describe_eq_describeWithin]
    rfl
  have huncut : (describe ⟨#[]⟩ {} (.type importedModel) ctx : Attempt Shape).Uncut :=
    hshape ▸ .pure shape
  obtain ⟨hmodel, -⟩ := @describe_wrapper_splices ⟨#[]⟩ {} _ _ _ _ _ hwraps ctx rfl huncut
  obtain ⟨b, a, hb, -, -, hsplit⟩ := (hmodel shape).mp hshape
  exact ⟨hwraps, rfl, huncut, hshape, b, a, hb, congrArg Shape.properties hsplit⟩

end AppMetadata.Expansion
