import AppMetadata.Proofs.Expansion.Paths

/-!
# `AppMetadata.Proofs.Expansion.Owners`: the owner says nothing below a property

A context has an owner so that paths can start somewhere. Where there is a
path already the owner is not looked at, except by messages: a node that has
a shape below a property has the same one under any other owner.

* `describe_withOwner`: the shape of a node below a property.
-/

set_option autoImplicit false

namespace AppMetadata

namespace Context

/-- The context with another owner, or none. -/
def withOwner (ctx : Context) (owner : Option String) : Context :=
  { ctx with owner }

variable {ctx : Context} (hpath : ctx.parentPath ≠ "") (owner : Option String)
include hpath

/-- Below a property the parts stand at the path, whatever the owner is. -/
theorem withOwner_basePath : (ctx.withOwner owner).basePath = ctx.basePath := by
  rw [basePath_of_parentPath hpath]
  exact basePath_of_parentPath hpath

/-- And a type without a declaration is called by this path. -/
theorem withOwner_anonymousName? (ofPath : String → Option String) :
    (ctx.withOwner owner).anonymousName? ofPath = ctx.anonymousName? ofPath := by
  rw [anonymousName?_of_parentPath hpath]
  exact @anonymousName?_of_parentPath (ctx.withOwner owner) hpath ofPath

end Context

namespace Expansion

/-- A walker for which the owner makes no difference below a property. -/
def Walker.OwnerFree (w : Walker Attempt) : Prop :=
  ∀ {node : Node} {ctx : Context} {s : Shape}, ctx.parentPath ≠ "" →
    w.describe node ctx = .ok s → ∀ owner, w.describe node (ctx.withOwner owner) = .ok s

namespace Walker.OwnerFree

open Context

variable {w : Walker Attempt} (hw : w.OwnerFree) {ctx : Context} (hpath : ctx.parentPath ≠ "")
  (owner : Option String) {location : Location} {s : Shape}

include hw in
/-- A member is described below its path, where the owner is handed on but not
looked at. -/
theorem describeMember {base : String} (hbase : base ≠ "") {old : Option String} {member : Member}
    (h : w.describeMember base old member = .ok s) :
    w.describeMember base owner member = .ok s := by
  obtain ⟨t, ht, rfl⟩ := describeMember_eq_ok.mp h
  exact describeMember_eq_ok.mpr ⟨t, hw (joinPath_ne_empty hbase _) ht owner, rfl⟩

include hpath

/-- An enum of literals has its name from the path. -/
theorem literalEnum {literals : List String}
    (h : (literalEnum literals location ctx : Attempt Shape) = .ok s) :
    (Expansion.literalEnum literals location (ctx.withOwner owner) : Attempt Shape) = .ok s := by
  rw [literalEnum_eq_ok] at h ⊢
  rwa [withOwner_basePath hpath, withOwner_anonymousName? hpath]

include hw

/-- The members of one type. -/
theorem describeMembers {members : List Member} {shapes : List Shape}
    (h : w.describeMembers members ctx = .ok shapes) :
    w.describeMembers members (ctx.withOwner owner) = .ok shapes := by
  rw [describeMembers_eq_ok] at h ⊢
  rw [withOwner_basePath hpath]
  exact h.imp fun _ _ hmember =>
    hw.describeMember owner (by rwa [basePath_of_parentPath hpath]) hmember

/-- A union has its name from the path too, and its alternatives have paths of
their own. -/
theorem mixedUnion {alternatives : List TypeNode}
    (h : w.mixedUnion alternatives location ctx = .ok s) :
    w.mixedUnion alternatives location (ctx.withOwner owner) = .ok s := by
  obtain ⟨name, properties, hname, hproperties, rfl⟩ := mixedUnion_eq_ok.mp h
  refine mixedUnion_eq_ok.mpr ⟨name, properties, ?_, hproperties.imp fun entry t ht => ?_, rfl⟩
  · rwa [withOwner_anonymousName? hpath]
  · have halternative : joinPath ctx.basePath (toString entry.2) ≠ "" :=
      joinPath_ne_empty (by rwa [basePath_of_parentPath hpath]) _
    rw [withOwner_basePath hpath]
    exact @hw _ (ctx.below _) _ halternative ht owner

/-- A union, in each of its cases. -/
theorem describeUnion {types : List TypeNode}
    (h : w.describeUnion types location ctx = .ok s) :
    w.describeUnion types location (ctx.withOwner owner) = .ok s := by
  rw [describeUnion_eq_ok] at h ⊢
  refine h.imp ?_ ?_
  · rintro ⟨single, t, hsingle, ht, hs⟩
    exact ⟨single, t, hsingle, hw hpath ht owner, hs⟩
  · rintro ⟨hmany, t, ht, hs⟩
    refine ⟨hmany, t, ?_, hs⟩
    rw [describeAlternatives_eq_ok] at ht ⊢
    refine ht.imp ?_ ?_
    · rintro ⟨literals, hliterals, ht⟩
      exact ⟨literals, hliterals, literalEnum hpath owner ht⟩
    · exact fun ⟨hmixed, ht⟩ => ⟨hmixed, hw.mixedUnion hpath owner ht⟩

/-- Types that are taken over stand at the same path. -/
theorem flattened {types : List TypeNode} {properties : List Shape}
    (h : w.flattened types ctx = .ok properties) :
    w.flattened types (ctx.withOwner owner) = .ok properties := by
  obtain ⟨parts, hparts, rfl⟩ := flattened_eq_ok.mp h
  exact flattened_eq_ok.mpr
    ⟨parts, hparts.imp fun _ _ ht => @hw _ ctx.flattening _ hpath ht owner, rfl⟩

/-- An interface or class has its name from its declaration. -/
theorem describeBody {declaration : Declaration} {heritage : List TypeNode}
    {members : List Member} (h : w.describeBody declaration heritage members ctx = .ok s) :
    w.describeBody declaration heritage members (ctx.withOwner owner) = .ok s := by
  rw [describeBody_eq_ok] at h ⊢
  refine h.imp_right ?_
  rintro ⟨hctx, hgeneric, properties, hproperties, hs⟩
  obtain ⟨inherited, own, hinherited, hown, rfl⟩ := bodyProperties_eq_ok.mp hproperties
  exact ⟨hctx, hgeneric, _, bodyProperties_eq_ok.mpr
    ⟨inherited, own, hw.flattened hpath owner hinherited, hw.describeMembers hpath owner hown, rfl⟩,
    hs⟩

/-! ### Names and declarations -/

omit hw in
/-- The arguments of a model stand under a label of their own. -/
theorem spliceArgs {model : Shape} {args : TypeNode}
    (h : w.spliceArgs model args location ctx = .ok s) :
    w.spliceArgs model args location (ctx.withOwner owner) = .ok s := by
  rw [spliceArgs_eq_ok] at h ⊢
  rwa [argsLabel, withOwner_basePath hpath]

/-- The label of a model is its name, and the path if it has none. The owner
comes in nowhere. -/
theorem describeWrapper {typeArgs : List TypeNode} {named : Option Declaration} {force : Bool}
    (h : w.describeWrapper typeArgs named location ctx force = .ok s) :
    w.describeWrapper typeArgs named location (ctx.withOwner owner) force = .ok s := by
  obtain ⟨blueprint, args, hparts, hcases⟩ := describeWrapper_eq_ok.mp h
  refine describeWrapper_eq_ok.mpr ⟨blueprint, args, hparts, hcases.imp_left fun ⟨hctx, h⟩ =>
    ⟨hctx, ?_⟩⟩
  obtain ⟨t, ht, hs⟩ := expandWrapper_eq_ok.mp h
  refine expandWrapper_eq_ok.mpr ⟨t, ?_, hs.imp_right ?_⟩
  · exact @hw _ { ctx with flattens := ctx.flattens || force } _ hpath ht owner
  · exact fun ⟨given, hgiven, hs⟩ => ⟨given, hgiven, spliceArgs hpath owner hs⟩

/-- The use of a declaration: what it is described in keeps the path and gets
the owner that goes with the declaration. -/
theorem describeUse {declaration : Declaration}
    (h : w.describeUse declaration location ctx = .ok s) :
    w.describeUse declaration location (ctx.withOwner owner) = .ok s := by
  rw [describeUse_eq_ok] at h ⊢
  rcases h with ⟨target, args, hform, hargs, h⟩ | ⟨target, hform, hargs, hctx, htransparent, h⟩ |
    ⟨htarget, h⟩
  · exact .inl ⟨target, args, hform, hargs, hw.describeWrapper hpath owner h⟩
  · exact .inr (.inl ⟨target, hform, hargs, hctx, htransparent, hw hpath h owner⟩)
  · refine .inr (.inr ⟨htarget, ?_⟩)
    rw [describeNamed_eq_ok] at h ⊢
    refine h.imp_right fun ⟨hctx, h⟩ => ⟨hctx, ?_⟩
    obtain ⟨t, ht, rfl⟩ := expandDeclaration_eq_ok.mp h
    exact expandDeclaration_eq_ok.mpr
      ⟨t, @hw _ (ctx.within declaration.name) _ hpath ht _, rfl⟩

/-- A reference, which is looked up in its own module. -/
theorem describeReference {reference : Reference}
    (h : w.describeReference reference location ctx = .ok s) :
    w.describeReference reference location (ctx.withOwner owner) = .ok s := by
  rw [describeReference_eq_ok] at h ⊢
  refine h.imp ?_ ?_
  · exact fun ⟨hwrapper, h⟩ => ⟨hwrapper, hw.describeWrapper hpath owner h⟩
  · rintro ⟨hwrapper, declaration, hresolve, hargs, hgeneric, h⟩
    exact ⟨hwrapper, declaration, hresolve, hargs, hgeneric, hw.describeUse hpath owner h⟩

/-- An import type. -/
theorem describeImport {link : ImportType} (h : w.describeImport link location ctx = .ok s) :
    w.describeImport link location (ctx.withOwner owner) = .ok s := by
  obtain ⟨name, hname, hcases⟩ := describeImport_eq_ok.mp h
  refine describeImport_eq_ok.mpr ⟨name, hname, hcases.imp ?_ ?_⟩
  · exact fun ⟨hwrapper, h⟩ => ⟨hwrapper, hw.describeWrapper hpath owner h⟩
  · rintro ⟨hwrapper, declaration, hresolve, hargs, hgeneric, h⟩
    exact ⟨hwrapper, declaration, hresolve, hargs, hgeneric, hw.describeUse hpath owner h⟩

/-- The parts of an operation stand below its path. -/
theorem describeFunction {signature : Signature}
    (h : w.describeFunction signature location ctx = .ok s) :
    w.describeFunction signature location (ctx.withOwner owner) = .ok s := by
  have hbase : ctx.basePath ≠ "" := by rwa [basePath_of_parentPath hpath]
  obtain ⟨hcount, args, returns, t, hargs, hreturns, ht, rfl⟩ := describeFunction_eq_ok.mp h
  refine describeFunction_eq_ok.mpr
    ⟨hcount, args, returns, t, hargs.imp fun param part hpart => ?_, hreturns, ?_, rfl⟩
  · obtain ⟨type, t, htype, ht, rfl⟩ := describeParameter_eq_ok.mp hpart
    rw [describeParameter_eq_ok, withOwner_basePath hpath]
    exact ⟨type, t, htype, @hw _ (ctx.below _) _ (joinPath_ne_empty hbase _) ht owner, rfl⟩
  · rw [withOwner_basePath hpath]
    exact @hw _ (ctx.below _) _ hbase ht owner

/-! ### Nodes -/

/-- All forms of types. -/
theorem describeType {type : TypeNode} (h : w.describeType type ctx = .ok s) :
    w.describeType type (ctx.withOwner owner) = .ok s := by
  unfold Walker.describeType at h ⊢
  split at h
  case h_1 | h_2 | h_3 | h_4 => exact h
  case h_5 element =>
    obtain ⟨t, ht, hs⟩ := Attempt.bind_eq_ok.mp h
    exact Attempt.bind_eq_ok.mpr ⟨t, hw hpath ht owner, hs⟩
  case h_6 types => exact hw.describeUnion hpath owner h
  case h_7 value => exact literalEnum hpath owner h
  case h_8 members =>
    obtain ⟨properties, hproperties, hs⟩ := Attempt.bind_eq_ok.mp h
    exact Attempt.bind_eq_ok.mpr ⟨properties, hw.describeMembers hpath owner hproperties, hs⟩
  case h_9 reference => exact hw.describeReference hpath owner h
  case h_10 parts =>
    obtain ⟨properties, hproperties, hs⟩ := Attempt.bind_eq_ok.mp h
    exact Attempt.bind_eq_ok.mpr ⟨properties, hw.flattened hpath owner hproperties, hs⟩
  case h_11 link => exact hw.describeImport hpath owner h
  case h_12 signature => exact hw.describeFunction hpath owner h
  all_goals simp at h

/-- All forms of declarations. -/
theorem describeDeclaration {declaration : Declaration}
    (h : w.describeDeclaration declaration ctx = .ok s) :
    w.describeDeclaration declaration (ctx.withOwner owner) = .ok s := by
  unfold Walker.describeDeclaration at h ⊢
  split at h
  · split at h
    · exact hw.describeWrapper hpath owner h
    · exact @hw _ (ctx.ownedBy declaration.name) _ hpath h _
  · exact hw.describeBody hpath owner h
  · exact hw.describeBody hpath owner h
  · rw [describeEnum_eq_ok] at h ⊢
    rwa [withOwner_basePath hpath]

/-- All forms of members. -/
theorem describeMemberType {member : Member} (h : w.describeMemberType member ctx = .ok s) :
    w.describeMemberType member (ctx.withOwner owner) = .ok s := by
  rw [describeMemberType_eq_ok] at h ⊢
  refine h.imp ?_ (Or.imp_left ?_)
  · exact fun ⟨type, htype, h⟩ => ⟨type, htype, hw hpath h owner⟩
  · exact fun ⟨signature, hform, h⟩ => ⟨signature, hform, hw.describeFunction hpath owner h⟩

/-- So it holds of a node, once it holds of the nodes below. -/
theorem describeNode {node : Node} (h : w.describeNode node ctx = .ok s) :
    w.describeNode node (ctx.withOwner owner) = .ok s := by
  cases node with
  | type type => exact hw.describeType hpath owner h
  | declaration declaration => exact hw.describeDeclaration hpath owner h
  | member member => exact hw.describeMemberType hpath owner h

end Walker.OwnerFree

/-- By induction on the levels, of every walker. -/
theorem walkerWithin_ownerFree (program : Program) (settings : Settings) (levels : Nat) :
    (walkerWithin program settings levels).OwnerFree := by
  induction levels with
  | zero => exact fun _ h => nomatch h
  | succ levels ih =>
    intro node ctx s hpath h owner
    obtain ⟨t, ht, rfl⟩ := describeWithin_succ_eq_ok.mp h
    refine describeWithin_succ_eq_ok.mpr ⟨t, Walker.OwnerFree.describeNode ih hpath owner ht, ?_⟩
    rw [placed, placed, Context.withOwner_basePath hpath]

/-- A node that has a shape below a property has it under every owner. -/
theorem describe_withOwner {program : Program} {settings : Settings} {node : Node} {ctx : Context}
    {s : Shape} (hpath : ctx.parentPath ≠ "")
    (h : (describe program settings node ctx : Attempt Shape) = .ok s) (owner : Option String) :
    (describe program settings node (ctx.withOwner owner) : Attempt Shape) = .ok s := by
  rw [describe_eq_describeWithin] at h ⊢
  exact walkerWithin_ownerFree program settings settings.maxDepth hpath h owner

end Expansion

end AppMetadata
