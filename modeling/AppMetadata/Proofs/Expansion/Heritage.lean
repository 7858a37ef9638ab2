import AppMetadata.Proofs.Expansion.Inlining
import AppMetadata.Proofs.Expansion.PropertyLists

/-!
# `AppMetadata.Proofs.Expansion.Heritage`: own properties and inherited ones

An interface or class has the properties of its bases and those of its own
members. All names may be repeated: two bases can have a common one, and a
member can be overloaded. The expansion puts the own properties one at a time
behind what is there, and takes out all that has the same name, which can be
an own one too.

* `filter_overridden_own`, `without_overridden`: what stays of the members, and
  what of the bases.
* `describeBody_of_bodyAt`: the declaration itself and its name alike.
* `describe_body_overrides`: the properties of an interface or class.
-/

set_option autoImplicit false

namespace AppMetadata

/-- The bases and the members of an interface or class. -/
def Declaration.body? (declaration : Declaration) : Option (List TypeNode × List Member) :=
  match declaration.form with
  | .interface heritage members => some (heritage, members)
  | .classType base members => some (base.toList, members)
  | _ => none

namespace Expansion

/-- Where `node` stands for a declaration in `ctx`, the context of the parts of
the declaration. -/
inductive BodyAt (program : Program) (settings : Settings) (declaration : Declaration)
    (ctx : Context) : Node → Context → Prop
  | declared : BodyAt program settings declaration ctx (.declaration declaration) ctx
  | named {type : TypeNode} (hnames : Names program settings type.form declaration) :
    BodyAt program settings declaration ctx (.type type) (ctx.within declaration.name)

section

variable {program : Program} {settings : Settings} {levels : Nat} {declaration : Declaration}
  {heritage : List TypeNode} {members : List Member} {node : Node} {ctx inner : Context}
  {s : Shape}

/-! ### Bases and members -/

/-- The last of the own members of a name is the only property of the name. -/
theorem filter_overridden_own {own inherited : List Shape} {name : String}
    (hname : name ∈ own.map (·.propertyName)) :
    ∃ last, lastNamed? name own = some last ∧
      (without own inherited ++ lastOfEach own).filter (·.propertyName == name) = [last] := by
  obtain ⟨last, hlast⟩ := Option.ne_none_iff_exists'.mp (lastNamed?_ne_none.mpr hname)
  refine ⟨last, hlast, ?_⟩
  have hinherited : (without own inherited).filter (·.propertyName == name) = [] := by
    refine List.filter_eq_nil_iff.mpr fun property hproperty heq => ?_
    have hother := of_decide_eq_true (List.mem_filter.mp hproperty).2
    exact hother (eq_of_beq heq ▸ hname)
  rw [List.filter_append, hinherited, filter_lastOfEach, hlast]
  rfl

/-- Apart from the own names, everything is as it was inherited. -/
theorem without_overridden (own inherited : List Shape) :
    without own (without own inherited ++ lastOfEach own) = without own inherited := by
  have hown : without own (lastOfEach own) = [] := by
    refine List.filter_eq_nil_iff.mpr fun property hproperty hother => ?_
    exact of_decide_eq_true hother
      (List.mem_map_of_mem ((lastOfEach_sublist own).subset hproperty))
  have hinherited : without own (without own inherited) = without own inherited := by
    unfold without
    rw [List.filter_filter]
    simp
  have happend : without own (without own inherited ++ lastOfEach own) =
      without own (without own inherited) ++ without own (lastOfEach own) :=
    List.filter_append ..
  rw [happend, hinherited, hown, List.append_nil]

/-! ### The declaration and its name -/

/-- Interfaces and classes are both described by their body. -/
theorem describeDeclaration_of_body? {w : Walker Attempt}
    (hbody : declaration.body? = some (heritage, members)) :
    w.describeDeclaration declaration ctx = w.describeBody declaration heritage members ctx := by
  unfold Declaration.body? at hbody
  unfold Walker.describeDeclaration
  split at hbody
  · next hform => rw [hform]; cases hbody; rfl
  · next hform => rw [hform]; cases hbody; rfl
  · cases hbody

/-- Wherever an interface or class is described in full, its body is. -/
theorem describeBody_of_bodyAt (hbody : declaration.body? = some (heritage, members))
    (hnode : BodyAt program settings declaration ctx node inner) (hexpands : ctx.expands = true)
    (h : describeWithin program settings levels node ctx = .ok s) :
    inner.expands = true ∧ ∃ fewer t, fewer ≤ levels ∧
      (walkerWithin program settings fewer).describeBody declaration heritage members inner =
        .ok t ∧
      s.properties = t.properties := by
  -- The name takes one level more, and leads to the declaration in another context.
  have hdeclared {levels : Nat} {ctx : Context} {s : Shape}
      (h : describeWithin program settings levels (.declaration declaration) ctx = .ok s) :
      ∃ fewer t, fewer < levels ∧
        (walkerWithin program settings fewer).describeBody declaration heritage members ctx =
          .ok t ∧
        s.properties = t.properties := by
    cases levels with
    | zero => cases h
    | succ levels =>
      obtain ⟨t, ht, rfl⟩ := describeWithin_succ_eq_ok.mp h
      exact ⟨levels, t, Nat.lt_succ_self levels, describeDeclaration_of_body? hbody ▸ ht,
        properties_placed ctx t⟩
  cases hnode with
  | declared =>
    obtain ⟨fewer, t, hfewer, ht, hproperties⟩ := hdeclared h
    exact ⟨hexpands, fewer, t, hfewer.le, ht, hproperties⟩
  | @named type hnames =>
    cases levels with
    | zero => cases h
    | succ levels =>
      obtain ⟨u, hu, rfl⟩ := describeWithin_succ_eq_ok.mp h
      -- No model is an interface or class.
      have hplain (target : TypeNode) (halias : declaration.form = .typeAlias target) :
          wrapperArgs? program settings target = none := by
        rw [Declaration.body?, halias] at hbody
        cases hbody
      obtain ⟨-, huse⟩ := (describeType_eq_ok_of_denoted hnames.denoted).mp hu
      obtain ⟨v, hv, rfl⟩ := Walker.expandDeclaration_eq_ok.mp
        ((describeUse_of_expands hplain hexpands).mp huse)
      obtain ⟨fewer, t, hfewer, ht, hproperties⟩ := hdeclared hv
      refine ⟨hexpands, fewer, t, by omega, ht, ?_⟩
      rw [properties_placed, properties_ofDeclaration, hproperties]

/-- What is found below the limit about a member, is found about it alone. -/
theorem describeMember_of_walkerWithin (hlevels : levels ≤ settings.maxDepth) {member : Member}
    {base : String} {owner : Option String}
    (h : (walkerWithin program settings levels).describeMember base owner member = .ok s) :
    (describeMember program settings member base owner : Attempt Shape) = .ok s := by
  rw [describeMember_eq_walkerWithin]
  obtain ⟨t, ht, rfl⟩ := Walker.describeMember_eq_ok.mp h
  exact Walker.describeMember_eq_ok.mpr ⟨t, describeWithin_mono rfl hlevels ht, rfl⟩

end

/-- An interface or class that is described in full has the properties of its
bases, from left to right and each as it is, without those that have the name
of an own member; and then the last own property of each name, in the order of
these last ones. So there is one property of each own name, which is the last
own one, and of the other names there is all that was inherited, in order. It
makes no difference whether the declaration is met itself or by its name, and
names may be repeated among the bases, among the members and within one
base. -/
theorem describe_body_overrides (program : Program) (settings : Settings)
    {declaration : Declaration} {heritage : List TypeNode} {members : List Member}
    (hbody : declaration.body? = some (heritage, members)) {node : Node} {ctx inner : Context}
    (hnode : BodyAt program settings declaration ctx node inner) (hexpands : ctx.expands = true)
    {s : Shape} (h : (describe program settings node ctx : Attempt Shape) = .ok s) :
    ∃ wholes own,
      List.Forall₂
        (fun base whole => (describe program settings (.type base) inner.flattening :
          Attempt Shape) = .ok whole)
        heritage wholes ∧
      List.Forall₂
        (fun member property => (describeMember program settings member inner.basePath inner.owner :
          Attempt Shape) = .ok property)
        members own ∧
      own.map (·.propertyName) = members.map (·.name) ∧
      let inherited := wholes.flatMap (·.properties)
      s.properties = without own inherited ++ lastOfEach own ∧
      (∀ name ∈ members.map (·.name), ∃ last, lastNamed? name own = some last ∧
        s.properties.filter (·.propertyName == name) = [last]) ∧
      without own s.properties = without own inherited := by
  rw [describe_eq_describeWithin] at h
  obtain ⟨hinner, fewer, t, hfewer, ht, hproperties⟩ :=
    describeBody_of_bodyAt hbody hnode hexpands h
  -- The body is described in full, so it is not the name alone.
  obtain ⟨hlinks, -⟩ | ⟨-, -, properties, hparts, rfl⟩ := Walker.describeBody_eq_ok.mp ht
  · cases hinner.symm.trans hlinks
  obtain ⟨inherited, own, hinherited, hown, rfl⟩ := Walker.bodyProperties_eq_ok.mp hparts
  obtain ⟨wholes, hwholes, rfl⟩ := Walker.flattened_eq_ok.mp hinherited
  have hnames := names_of_describeMembers hown
  have hsplit : s.properties = without own (wholes.flatMap (·.properties)) ++ lastOfEach own :=
    hproperties.trans (foldl_override_eq ..)
  refine ⟨wholes, own, hwholes.imp fun _ _ hbase => describe_of_describeWithin hfewer hbase,
    (Walker.describeMembers_eq_ok.mp hown).imp fun _ _ hmember =>
      describeMember_of_walkerWithin hfewer hmember, hnames, hsplit, fun name hname => ?_, ?_⟩
  · rw [hsplit]
    exact filter_overridden_own (hnames ▸ hname)
  · rw [hsplit, without_overridden]

/-- `tag: boolean`. -/
def tagFlag : Member :=
  ⟨"tag", .signature (some ⟨.keyword .boolean, {}⟩), false, {}, {}⟩

/-- A declaration of an interface. -/
def interfaceNamed (name : String) (heritage : List TypeNode) (members : List Member) :
    Declaration where
  name := name
  form := .interface heritage members
  doc := {}
  scope := 0
  location := {}
  isGeneric := false

/-- `interface User extends Named, Tagged { tag: boolean; id: string; tag: string }`. -/
def taggedUser : Declaration :=
  interfaceNamed "User"
    [⟨.reference ⟨.identifier "Named", [], 0⟩, {}⟩, ⟨.reference ⟨.identifier "Tagged", [], 0⟩, {}⟩]
    [tagFlag, textMember "id", textMember "tag"]

/-- A module with `User`, `interface Named { id: string; name: string }` and
`interface Tagged { name: string; tag: boolean }`. -/
def taggedUsers : Program :=
  ⟨#[{ path := ⟨true, ["app.ts"]⟩
       declarations := [
         ("User", taggedUser),
         ("Named", interfaceNamed "Named" [] [textMember "id", textMember "name"]),
         ("Tagged", interfaceNamed "Tagged" [] [textMember "name", tagFlag])] }]⟩

/-- A property of type `string`. -/
def textProperty (path name : String) : Shape where
  kind := .string
  propertyName := name
  propertyPath := joinPath path name

/-- Two bases with a common name, and an own name that is repeated. The bases
keep both properties `name`, and of the own ones the last `tag` stays. -/
theorem describe_body_overrides_tagged :
    let node : Node := .type ⟨.reference ⟨.identifier "User", [], 0⟩, {}⟩
    let members := [tagFlag, textMember "id", textMember "tag"]
    let shape : Shape :=
      { kind := .object, typeName := some "User", propertyPath := "User"
        properties := ["name", "name", "id", "tag"].map (textProperty "User") }
    (∃ heritage, taggedUser.body? = some (heritage, members)) ∧
      BodyAt taggedUsers {} taggedUser (.root "User") node ((Context.root "User").within "User") ∧
      (Context.root "User").expands = true ∧
      (describe taggedUsers {} node (.root "User") : Attempt Shape) = .ok shape ∧
      ∀ name ∈ members.map (·.name), ∃ last,
        shape.properties.filter (·.propertyName == name) = [last] := by
  intro node members shape
  have hnode : BodyAt taggedUsers {} taggedUser (.root "User") node
      ((Context.root "User").within "User") := .named ⟨rfl, rfl, rfl⟩
  -- Both inherited names stay in front; the own ones follow, without the first `tag`.
  have hshape : (describe taggedUsers {} node (.root "User") : Attempt Shape) = .ok shape := by
    rw [describe_eq_describeWithin]
    rfl
  have hbody : taggedUser.body? = some (_, members) := rfl
  obtain ⟨_, _, -, -, -, -, hown, -⟩ :=
    describe_body_overrides taggedUsers {} hbody hnode rfl hshape
  refine ⟨⟨_, hbody⟩, hnode, rfl, hshape, fun name hname => ?_⟩
  obtain ⟨last, -, hlast⟩ := hown name hname
  exact ⟨last, hlast⟩

end Expansion

end AppMetadata
