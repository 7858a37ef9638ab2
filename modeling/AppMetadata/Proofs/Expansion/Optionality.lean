import AppMetadata.Proofs.Expansion.Inlining
import AppMetadata.Proofs.Expansion.Rules
import AppMetadata.Proofs.Expansion.Unions

/-!
# `AppMetadata.Proofs.Expansion.Optionality`: what can be undefined

`undefined` is left out of a union when the union is described, so it is looked
for a second time: in the declared type of a property, through nested unions
but not through the names of aliases. A parameter is only asked whether it is
optional.

* `admits_iff`: what the second look finds.
* `walkerWithin_settled`: a description alone never says that a value can be
  undefined.
* `canBeUndefined_iff`: so what properties and parameters say.
* `undefined_lost`: an alternative that neither of them reports.
-/

set_option autoImplicit false

namespace AppMetadata

/-! ### Alternatives -/

mutual

/-- The second look finds a keyword exactly if it is one of the alternatives
that a type opens to. -/
theorem TypeNode.admits_iff (keyword : Keyword) :
    (type : TypeNode) → (type.admits keyword = true ↔
      ∃ alternative ∈ type.alternatives, alternative.form = .keyword keyword)
  | ⟨form, location⟩ => TypeForm.admits_iff keyword location form

/-- The same for the form of a type: a union is searched, and any other form is
an alternative itself. -/
theorem TypeForm.admits_iff (keyword : Keyword) (location : Location) :
    (form : TypeForm) → (form.admits keyword = true ↔
      ∃ alternative ∈ form.alternatives ⟨form, location⟩, alternative.form = .keyword keyword)
  | .union types => anyAdmits_iff keyword types
  | .keyword found => by simp [TypeForm.admits, TypeForm.alternatives]
  | .stringLiteral _ | .literal _ | .array _ | .intersection _ | .object _ | .reference _
  | .imported _ | .function _ | .unsupported _ => by
    simp [TypeForm.admits, TypeForm.alternatives]

/-- A list is searched for the alternatives of all of its types. -/
theorem anyAdmits_iff (keyword : Keyword) :
    (types : List TypeNode) → (anyAdmits keyword types = true ↔
      ∃ alternative ∈ alternativesOf types, alternative.form = .keyword keyword)
  | [] => by simp [anyAdmits, alternativesOf]
  | type :: types => by
    simp only [anyAdmits, alternativesOf, Bool.or_eq_true, TypeNode.admits_iff keyword type,
      anyAdmits_iff keyword types, List.mem_append, or_and_right, exists_or]

end

namespace Expansion

/-- A type of this form stands for `target` where names are linked: it is the
name of an alias that is followed there. -/
def Inlines (program : Program) (settings : Settings) (form : TypeForm) (target : TypeNode) :
    Prop :=
  ∃ declaration, Names program settings form declaration ∧
    declaration.form = .typeAlias target ∧ wrapperArgs? program settings target = none ∧
    isTransparent program maxAliasHops target = true

/-- `undefined` is an alternative of a type where names are linked, in what is
written there or in the target of an alias that is followed. -/
inductive OffersUndefined (program : Program) (settings : Settings) : TypeNode → Prop
  | written {type alternative : TypeNode} (halternative : alternative ∈ type.alternatives)
    (hform : alternative.form = .keyword .undefined) : OffersUndefined program settings type
  | inlined {type alternative target : TypeNode} (halternative : alternative ∈ type.alternatives)
    (hinlines : Inlines program settings alternative.form target)
    (htarget : OffersUndefined program settings target) : OffersUndefined program settings type

/-- `undefined` is an alternative of a type as it is written. -/
def WritesUndefined (type : TypeNode) : Prop :=
  ∃ alternative ∈ type.alternatives, alternative.form = .keyword .undefined

/-- What is written is offered. -/
theorem WritesUndefined.offers {program : Program} {settings : Settings} {type : TypeNode}
    (h : WritesUndefined type) : OffersUndefined program settings type := by
  obtain ⟨alternative, halternative, hform⟩ := h
  exact .written halternative hform

/-! ### Descriptions alone -/

/-- A declaration does not say of its values that they can be undefined. -/
theorem canBeUndefined_ofDeclaration (declaration : Declaration) (shape : Shape) :
    (ofDeclaration declaration shape).canBeUndefined = shape.canBeUndefined := by
  unfold ofDeclaration Shape.document
  split <;> rfl

/-- Nor does the place of a shape. -/
theorem canBeUndefined_placed (ctx : Context) (shape : Shape) :
    (placed ctx shape).canBeUndefined = shape.canBeUndefined := by
  unfold placed
  split <;> rfl

/-- A walker that says of no value that it can be undefined. -/
def Walker.Settled (w : Walker Attempt) : Prop :=
  ∀ node ctx s, w.describe node ctx = .ok s → s.canBeUndefined = false

/-- Only members and parameters can be undefined, and these stand below the
shape that is made. -/
theorem Walker.Settled.of_made {w : Walker Attempt} (hw : w.Settled) {node : Node} {ctx : Context}
    {s : Shape} (h : w.Made node ctx s) : s.canBeUndefined = false := by
  cases h with
  | primitive | value | link | nameOnly | literals | union | object | merged | body | enum
  | function => rfl
  | same array nullable ht =>
    have hsettled := hw _ _ _ ht
    exact hsettled
  | target name ht => exact hw _ _ _ ht
  | named hdeclared ht => exact (canBeUndefined_ofDeclaration _ _).trans (hw _ _ _ ht)
  | model force modelName ht =>
    have hsettled := hw _ _ _ ht
    exact hsettled
  | modelWith force named location hwraps ht hs =>
    -- Arguments change the properties and nothing else.
    obtain ⟨shape, properties, -, -, -, rfl⟩ := Walker.spliceArgs_eq_ok.mp hs
    have hsettled := hw _ _ _ ht
    exact hsettled

/-- With every number of levels the description of a node leaves the question
open, for members and parameters to decide. -/
theorem walkerWithin_settled (program : Program) (settings : Settings) (levels : Nat) :
    (walkerWithin program settings levels).Settled := by
  induction levels with
  | zero => exact fun _ _ _ h => nomatch h
  | succ levels ih =>
    intro node ctx s h
    obtain ⟨t, ht, rfl⟩ := made_of_describeWithin h
    rw [canBeUndefined_placed]
    exact Walker.Settled.of_made ih ht

/-! ### Properties and parameters -/

section

variable {w : Walker Attempt} {ctx : Context} {s : Shape}

/-- A property asks whether it is optional and looks at its declared type. -/
theorem canBeUndefined_of_describeMember (hw : w.Settled) {member : Member} {base : String}
    {owner : Option String} (h : w.describeMember base owner member = .ok s) :
    s.canBeUndefined = (member.isOptional || member.admitsUndefined) := by
  obtain ⟨t, ht, rfl⟩ := Walker.describeMember_eq_ok.mp h
  have hsettled := hw _ _ _ ht
  show (t.canBeUndefined || member.isOptional || member.admitsUndefined) = _
  rw [hsettled, Bool.false_or]

/-- A parameter only asks whether it is optional. -/
theorem canBeUndefined_of_describeParameter (hw : w.Settled) {param : Parameter}
    {location : Location} (h : w.describeParameter param location ctx = .ok s) :
    s.canBeUndefined = param.isOptional := by
  obtain ⟨type, t, -, ht, rfl⟩ := Walker.describeParameter_eq_ok.mp h
  have hsettled := hw _ _ _ ht
  show (t.canBeUndefined || param.isOptional) = _
  rw [hsettled, Bool.false_or]

/-- A node with a signature is described by it, at a location of its own. -/
theorem describeFunction_of_operates {node : Node} {signature : Signature}
    (hnode : Operates node signature) (h : w.describeNode node ctx = .ok s) :
    ∃ location, w.describeFunction signature location ctx = .ok s := by
  cases hnode with
  | function signature location => exact ⟨location, h⟩
  | @method member _ hform =>
    have h : w.describeMemberType member ctx = .ok s := h
    rw [Walker.describeMemberType, hform] at h
    exact ⟨member.location, h⟩

end

/-- A property says that it can be undefined exactly if it is optional or
`undefined` is written among the alternatives of its type, at any depth of
unions. A parameter says so exactly if it is optional. So neither says so
without a reason. A property is silent about an `undefined` that it offers if
this is only in the targets of aliases that are followed, and a parameter that
is not optional is silent about all of them. -/
theorem canBeUndefined_iff (program : Program) (settings : Settings) :
    (∀ (member : Member) (type : TypeNode) (base : String) (owner : Option String) (s : Shape),
      member.type? = some type →
      (describeMember program settings member base owner : Attempt Shape) = .ok s →
      (s.canBeUndefined = true ↔ member.isOptional = true ∨ WritesUndefined type) ∧
      ((s.canBeUndefined = true ↔
          member.isOptional = true ∨ OffersUndefined program settings type) ↔
        member.isOptional = true ∨ WritesUndefined type ∨
          ¬OffersUndefined program settings type)) ∧
    (∀ (node : Node) (signature : Signature) (ctx : Context) (s : Shape),
      Operates node signature → (describe program settings node ctx : Attempt Shape) = .ok s →
      List.Forall₂
        (fun param arg => ∃ type, param.type = some type ∧
          (arg.canBeUndefined = true ↔ param.isOptional = true) ∧
          ((arg.canBeUndefined = true ↔
              param.isOptional = true ∨ OffersUndefined program settings type) ↔
            param.isOptional = true ∨ ¬OffersUndefined program settings type))
        signature.params s.args) := by
  constructor
  · intro member type base owner s htype h
    rw [describeMember_eq_walkerWithin] at h
    have hundefined := canBeUndefined_of_describeMember (walkerWithin_settled _ _ _) h
    have hwrites : member.admitsUndefined = true ↔ WritesUndefined type := by
      rw [Member.admitsUndefined, htype]
      exact type.admits_iff .undefined
    have hoffers := @WritesUndefined.offers program settings type
    rw [hundefined, Bool.or_eq_true, hwrites]
    refine ⟨Iff.rfl, ?_⟩
    tauto
  · intro node signature ctx s hnode h
    obtain ⟨levels, -, h⟩ := describe_eq_ok.mp h
    obtain ⟨t, ht, rfl⟩ := describeWithin_succ_eq_ok.mp h
    -- The arguments of the shape are those of the operation, wherever it is placed.
    obtain ⟨location, ht⟩ := describeFunction_of_operates hnode ht
    obtain ⟨-, args, returns, u, hargs, -, -, rfl⟩ := Walker.describeFunction_eq_ok.mp ht
    have hplaced : (placed ctx { kind := .function, args, returnType := some u }).args = args := by
      unfold placed
      split <;> rfl
    rw [hplaced]
    refine hargs.imp fun param arg harg => ?_
    obtain ⟨type, -, htype, -, -⟩ := Walker.describeParameter_eq_ok.mp harg
    have hundefined := canBeUndefined_of_describeParameter (walkerWithin_settled _ _ _) harg
    rw [hundefined]
    refine ⟨type, htype, Iff.rfl, ?_⟩
    tauto

/-- `string | undefined`. -/
def textOrUndefined : TypeNode :=
  ⟨.union [⟨.keyword .string, {}⟩, ⟨.keyword .undefined, {}⟩], {}⟩

/-- A module with `type Text = string | undefined`. -/
def optionalTexts : Program :=
  ⟨#[{ path := ⟨true, ["app.ts"]⟩
       declarations := [
         ("Text", { name := "Text", form := .typeAlias textOrUndefined, doc := {}, scope := 0,
                    location := {}, isGeneric := false })] }]⟩

/-- A property of this type. -/
def labelMember (type : TypeNode) : Member :=
  ⟨"label", .signature (some type), false, {}, {}⟩

/-- `rename(to: string | undefined): string`. -/
def renameMember : Member :=
  ⟨"rename", .method ⟨[⟨"to", false, some textOrUndefined⟩], some ⟨.keyword .string, {}⟩⟩, false,
    {}, {}⟩

/-- The shape of `label` as a string. -/
def labelShape (canBeUndefined : Bool) : Shape where
  kind := .string
  propertyName := "label"
  propertyPath := "User.label"
  canBeUndefined := canBeUndefined

/-- The shape of `rename`, whose argument cannot be undefined. -/
def renameShape : Shape where
  kind := .function
  propertyPath := "User.rename"
  args := [{ kind := .string, propertyName := "to", propertyPath := "User.rename.to" }]
  returnType := some { kind := .string, propertyPath := "User.rename" }

/-- `label: string | undefined` can be undefined, and the argument of `rename`,
which has the same type, cannot. -/
theorem canBeUndefined_iff_label :
    let signature : Signature :=
      ⟨[⟨"to", false, some textOrUndefined⟩], some ⟨.keyword .string, {}⟩⟩
    (labelMember textOrUndefined).type? = some textOrUndefined ∧
      (describeMember optionalTexts {} (labelMember textOrUndefined) "User" none : Attempt Shape) =
        .ok (labelShape true) ∧
      WritesUndefined textOrUndefined ∧ (labelShape true).canBeUndefined = true ∧
      Operates (.member renameMember) signature ∧
      (describe optionalTexts {} (.member renameMember) { parentPath := "User.rename" } :
        Attempt Shape) = .ok renameShape ∧
      List.Forall₂ (fun param arg => arg.canBeUndefined = true ↔ param.isOptional = true)
        signature.params renameShape.args := by
  intro signature
  have hlabel : (describeMember optionalTexts {} (labelMember textOrUndefined) "User" none :
      Attempt Shape) = .ok (labelShape true) := by
    rw [describeMember_eq_walkerWithin]
    rfl
  have hrename : (describe optionalTexts {} (.member renameMember)
      { parentPath := "User.rename" } : Attempt Shape) = .ok renameShape := by
    rw [describe_eq_describeWithin]
    rfl
  have hwrites : WritesUndefined textOrUndefined :=
    ⟨_, List.mem_cons_of_mem _ (List.mem_cons_self ..), rfl⟩
  have hoperates : Operates (.member renameMember) signature := .method rfl
  -- The same type is asked for `undefined` below the property, and not below the
  -- parameter.
  obtain ⟨hmember, hparams⟩ := canBeUndefined_iff optionalTexts {}
  obtain ⟨hproperty, -⟩ := hmember _ _ "User" none _ rfl hlabel
  have hargs := hparams _ _ _ _ hoperates hrename
  exact ⟨rfl, hlabel, hwrites, hproperty.mpr (.inr hwrites), hoperates, hrename,
    hargs.imp fun _ _ ⟨_, _, harg, _⟩ => harg⟩

/-- `label: Text`, where `Text` is followed and its target has `undefined` as
an alternative, and the argument `to: string | undefined` of `rename`. Both are
described as strings that cannot be undefined. -/
theorem undefined_lost :
    let text : TypeNode := ⟨.reference ⟨.identifier "Text", [], 0⟩, {}⟩
    ((labelMember text).type? = some text ∧ (labelMember text).isOptional = false ∧
      OffersUndefined optionalTexts {} text ∧
      (describeMember optionalTexts {} (labelMember text) "User" none : Attempt Shape) =
        .ok (labelShape false) ∧
      (labelShape false).canBeUndefined = false) ∧
    (OffersUndefined optionalTexts {} textOrUndefined ∧
      (describe optionalTexts {} (.member renameMember) { parentPath := "User.rename" } :
        Attempt Shape) = .ok renameShape ∧
      ∀ arg ∈ renameShape.args, arg.canBeUndefined = false) := by
  intro text
  have hwrites : WritesUndefined textOrUndefined :=
    ⟨_, List.mem_cons_of_mem _ (List.mem_cons_self ..), rfl⟩
  have hoffers : OffersUndefined optionalTexts {} textOrUndefined := hwrites.offers
  have hinlines : Inlines optionalTexts {} text.form textOrUndefined :=
    ⟨_, ⟨rfl, rfl, rfl⟩, rfl, rfl, by decide⟩
  have htext : OffersUndefined optionalTexts {} text :=
    .inlined (List.mem_cons_self ..) hinlines hoffers
  refine ⟨⟨rfl, rfl, htext, ?_, rfl⟩, hoffers, ?_, ?_⟩
  · rw [describeMember_eq_walkerWithin]
    rfl
  · rw [describe_eq_describeWithin]
    rfl
  · exact List.forall_mem_singleton.mpr rfl

end Expansion

end AppMetadata
