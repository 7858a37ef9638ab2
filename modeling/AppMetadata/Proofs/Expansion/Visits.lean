import AppMetadata.Proofs.DepthLimit
import AppMetadata.Proofs.Expansion.Paths
import AppMetadata.Proofs.Program.Declared

/-!
# `AppMetadata.Proofs.Expansion.Visits`: which nodes a description visits

Whether a walk ends does not depend on the paths and owners in its contexts,
only on where types are described in full. So a visit is a node together with
the answer to that (`Visit`), and `Visit.next` lists the visits that follow
on one. A visit settles if some number of levels is enough for it, in every
context.

* `Visit.settles_of_next`: a visit settles if those that follow on it do.
* `describe_eq_of_uncut`: a description that was not cut off does not depend on
  the levels that are left for the nodes below.
-/

set_option autoImplicit false

namespace AppMetadata

/-! ### Attempts that are not cut off -/

namespace Attempt

variable {α β : Type}

/-- An attempt that did not end at a limit on nested nodes. -/
def Uncut (x : Attempt α) : Prop :=
  ∀ limit location, x ≠ .error (.depthExceeded limit location)

/-- An answer is not cut off. -/
theorem Uncut.pure (a : α) : Uncut (Pure.pure a : Attempt α) :=
  fun _ _ => nofun

/-- Neither is a failure for another reason. -/
theorem Uncut.throw {e : ExtractionError}
    (h : ∀ limit location, e ≠ .depthExceeded limit location) :
    Uncut (throw e : Attempt α) :=
  fun limit location hcut => h limit location (by cases hcut; rfl)

/-- Steps that are not cut off make a run that is not. -/
theorem Uncut.bind {x : Attempt α} {f : α → Attempt β} (hx : x.Uncut)
    (hf : ∀ a, (f a).Uncut) : (x >>= f).Uncut := by
  cases x with
  | ok a => exact hf a
  | error e =>
    intro limit location h
    exact hx limit location (by cases h; rfl)

/-- What is cut off in its first step is cut off. -/
theorem Uncut.of_bind {x : Attempt α} {f : α → Attempt β} (h : (x >>= f).Uncut) : x.Uncut := by
  cases x with
  | ok a => exact .pure a
  | error e =>
    intro limit location hcut
    exact h limit location (by cases hcut; rfl)

/-- So do steps for the entries of a list. -/
theorem Uncut.mapM {f : α → Attempt β} {list : List α} (h : ∀ a ∈ list, (f a).Uncut) :
    (list.mapM f).Uncut := by
  induction list with
  | nil => exact .pure []
  | cons a rest ih =>
    rw [List.mapM_cons]
    exact (h a (by simp)).bind fun _ =>
      (ih fun a' ha' => h a' (by simp [ha'])).bind fun _ => .pure _

/-- And steps that hand on a state. -/
theorem Uncut.foldlM {f : β → α → Attempt β} {list : List α} (b : β)
    (h : ∀ b a, (f b a).Uncut) : (list.foldlM f b).Uncut := by
  induction list generalizing b with
  | nil => exact .pure b
  | cons a rest ih => exact (h b a).bind ih

end Attempt

namespace Expansion

open Attempt

/-! ### Visits -/

/-- A node, and whether types are described in full where it is visited. -/
structure Visit where
  node : Node
  expands : Bool

/-- Visits of types. -/
def visitTypes (types : List TypeNode) (expands : Bool) : List Visit :=
  types.map fun type => ⟨.type type, expands⟩

/-- Visits of the members of a body. -/
def visitMembers (members : List Member) : List Visit :=
  members.map fun member => ⟨.member member, false⟩

/-- The visits that follow on a wrapper with type arguments `typeArgs`. -/
def visitWrapper (typeArgs : List TypeNode) (expands : Bool) : List Visit :=
  if expands then visitTypes typeArgs true else []

/-- The visits that follow on the use of a declaration. -/
def visitUse (program : Program) (settings : Settings) (declaration : Declaration)
    (expands : Bool) : List Visit :=
  match declaration.form with
  | .typeAlias target =>
    match wrapperArgs? program settings target with
    | some args => visitWrapper args expands
    | none =>
      if expands then [⟨.declaration declaration, true⟩]
      else if isTransparent program maxAliasHops target then [⟨.type target, false⟩]
      else []
  | _ => if expands then [⟨.declaration declaration, true⟩] else []

/-- The visits that follow on what a name denotes. -/
def visitResolved (program : Program) (settings : Settings) (expands : Bool) :
    Resolved → List Visit
  | .declaration declaration => visitUse program settings declaration expands
  | _ => []

/-- The visits that follow on a reference by name. -/
def visitReference (program : Program) (settings : Settings) (reference : Reference)
    (expands : Bool) : List Visit :=
  if isWrapper program settings reference then visitWrapper reference.args expands
  else visitResolved program settings expands (program.resolve reference.scope reference.name)

/-- The visits that follow on an import type. -/
def visitImport (program : Program) (settings : Settings) (link : ImportType)
    (expands : Bool) : List Visit :=
  if isImportedWrapper settings link then visitTypes link.args true
  else
    match link.name with
    | some name =>
      visitResolved program settings expands
        (program.resolveImport link.scope link.specifier name)
    | none => []

/-- The visits that follow on a signature. -/
def visitSignature (signature : Signature) : List Visit :=
  visitTypes (signature.params.filterMap (·.type)) false ++
    visitTypes signature.returns.toList false

/-- The visits that follow on a type. -/
def visitType (program : Program) (settings : Settings) (expands : Bool) : TypeForm → List Visit
  | .array element => visitTypes [element] expands
  | .union types => visitTypes (presentOf types) expands ++ visitTypes (presentOf types) false
  | .object members => visitMembers members
  | .intersection parts => visitTypes parts true
  | .reference reference => visitReference program settings reference expands
  | .imported link => visitImport program settings link expands
  | .function signature => visitSignature signature
  | _ => []

/-- The visits that follow on a declaration. -/
def visitDeclaration (program : Program) (settings : Settings) (expands : Bool) :
    DeclarationForm → List Visit
  | .typeAlias target =>
    match wrapperArgs? program settings target with
    | some args => visitWrapper args expands
    | none => visitTypes [target] expands
  | .interface heritage members => visitTypes heritage true ++ visitMembers members
  | .classType heritage members => visitTypes heritage.toList true ++ visitMembers members
  | .enum members => visitMembers members

/-- The visits that follow on a member. -/
def visitMember (member : Member) (expands : Bool) : List Visit :=
  match member.form with
  | .method signature => visitSignature signature
  | _ => visitTypes member.type?.toList expands

/-- The visits that follow on a visit. -/
def Visit.next (program : Program) (settings : Settings) : Visit → List Visit
  | ⟨.type type, expands⟩ => visitType program settings expands type.form
  | ⟨.declaration declaration, expands⟩ =>
    visitDeclaration program settings expands declaration.form
  | ⟨.member member, expands⟩ => visitMember member expands

/-- The blueprint and the arguments are visited with the type arguments. -/
theorem mem_of_wrapperParts? {typeArgs : List TypeNode} {blueprint : TypeNode}
    {args : Option TypeNode} (h : wrapperParts? typeArgs = some (blueprint, args)) :
    blueprint ∈ typeArgs ∧ ∀ given, args = some given → given ∈ typeArgs := by
  unfold wrapperParts? at h
  split at h
  · cases h
    exact ⟨by simp, nofun⟩
  · cases h
    exact ⟨by simp, by simp⟩
  · cases h

/-! ### One step

Each function of a walker is uncut if the visits that it makes are. -/

namespace Walker

/-- A walker that is not cut off at a visit, in whatever context it is. -/
def UncutAt (w : Walker Attempt) (visit : Visit) : Prop :=
  ∀ ctx : Context, ctx.basePath ≠ "" → ctx.expands = visit.expands →
    (w.describe visit.node ctx).Uncut

/-- A walker that is cut off at none of `visits`. -/
def UncutAtAll (w : Walker Attempt) (visits : List Visit) : Prop :=
  ∀ visit ∈ visits, w.UncutAt visit

variable {w : Walker Attempt} {ctx : Context} {location : Location}

/-- Where all visits of some types are not cut off, none of the types is. -/
theorem UncutAtAll.types {types : List TypeNode} {expands : Bool}
    (h : w.UncutAtAll (visitTypes types expands)) :
    ∀ type ∈ types, w.UncutAt ⟨.type type, expands⟩ :=
  fun _ htype => h _ (List.mem_map_of_mem htype)

/-- The same for the members of a body. -/
theorem UncutAtAll.members {members : List Member} (h : w.UncutAtAll (visitMembers members)) :
    ∀ member ∈ members, w.UncutAt ⟨.member member, false⟩ :=
  fun _ hmember => h _ (List.mem_map_of_mem hmember)

/-- Fewer visits: the first of two lists. -/
theorem UncutAtAll.left {first second : List Visit} (h : w.UncutAtAll (first ++ second)) :
    w.UncutAtAll first :=
  fun visit hvisit => h visit (List.mem_append_left _ hvisit)

/-- And the second one. -/
theorem UncutAtAll.right {first second : List Visit} (h : w.UncutAtAll (first ++ second)) :
    w.UncutAtAll second :=
  fun visit hvisit => h visit (List.mem_append_right _ hvisit)

/-- A visit at a path of its own, where types are linked. -/
theorem UncutAt.at_path {node : Node} (h : w.UncutAt ⟨node, false⟩) {path : String}
    (hpath : path ≠ "") (owner : Option String) :
    (w.describe node { parentPath := path, owner }).Uncut :=
  h _ (by rwa [Context.basePath_of_parentPath hpath])
    (Context.expands_eq_false.mpr ⟨hpath, rfl⟩)

/-- An enum of literals has no node below it. Where it fails, it is for another
reason. -/
theorem literalEnum_uncut (literals : List String) :
    (literalEnum literals location ctx : Attempt Shape).Uncut := by
  unfold literalEnum
  split
  · refine (Uncut.mapM fun literal _ => ?_).bind fun _ => .pure _
    unfold literalValue
    split
    · exact .pure _
    · exact .throw nofun
  · exact .throw nofun

/-- A member is one visit, at a path of its own. -/
theorem describeMember_uncut {base : String} {owner : Option String} {member : Member}
    (hbase : base ≠ "") (h : w.UncutAt ⟨.member member, false⟩) :
    (w.describeMember base owner member).Uncut :=
  (h.at_path (joinPath_ne_empty hbase _) owner).bind fun _ => .pure _

/-- The members of a body are visited one by one. -/
theorem describeMembers_uncut {members : List Member} (hpath : ctx.basePath ≠ "")
    (h : w.UncutAtAll (visitMembers members)) : (w.describeMembers members ctx).Uncut :=
  Uncut.mapM fun member hmember => describeMember_uncut hpath (h.members member hmember)

/-- The alternatives of a union stand below it, where nothing is described in
full. -/
theorem mixedUnion_uncut {alternatives : List TypeNode} (hpath : ctx.basePath ≠ "")
    (h : w.UncutAtAll (visitTypes alternatives false)) :
    (w.mixedUnion alternatives location ctx).Uncut := by
  unfold mixedUnion
  split
  · refine (Uncut.mapM fun entry hentry => ?_).bind fun _ => .pure _
    have hvisit := h.types entry.1 (List.fst_mem_of_mem_zipIdx hentry)
    exact hvisit.at_path (joinPath_ne_empty hpath _) ctx.owner
  · exact .throw nofun

/-- A union visits its only alternative as it is visited itself, and several
alternatives below it. Both count as visits, whichever case it is. -/
theorem describeUnion_uncut {types : List TypeNode} (hpath : ctx.basePath ≠ "")
    (h : w.UncutAtAll (visitTypes (presentOf types) ctx.expands ++
      visitTypes (presentOf types) false)) :
    (w.describeUnion types location ctx).Uncut := by
  unfold describeUnion describeAlternatives
  split
  · exact .throw nofun
  · next single hsingle =>
    have hvisit := h.left.types single (by simp [hsingle])
    exact (hvisit ctx hpath rfl).bind fun _ => .pure _
  · split
    · exact (literalEnum_uncut _).bind fun _ => .pure _
    · exact (mixedUnion_uncut hpath h.right).bind fun _ => .pure _

/-- Types whose properties are taken over are visited in full. -/
theorem flattened_uncut {types : List TypeNode} (hpath : ctx.basePath ≠ "")
    (h : w.UncutAtAll (visitTypes types true)) : (w.flattened types ctx).Uncut := by
  refine (Uncut.mapM fun type htype => ?_).bind fun _ => .pure _
  exact h.types type htype ctx.flattening hpath Context.flattening_expands

/-- A body visits what it inherits, in full, and its members. -/
theorem describeBody_uncut {declaration : Declaration} {heritage : List TypeNode}
    {members : List Member} (hpath : ctx.basePath ≠ "")
    (h : w.UncutAtAll (visitTypes heritage true ++ visitMembers members)) :
    (w.describeBody declaration heritage members ctx).Uncut := by
  unfold describeBody bodyProperties
  split
  · exact .pure _
  · split
    · exact .throw nofun
    · refine Uncut.bind ?_ fun _ => .pure _
      exact (flattened_uncut hpath h.left).bind fun _ =>
        (describeMembers_uncut hpath h.right).bind fun _ => .pure _

/-- The arguments of a model are described in full, under a label that is
never empty. -/
theorem spliceArgs_uncut {model : Shape} {args : TypeNode}
    (h : w.UncutAt ⟨.type args, true⟩) : (w.spliceArgs model args location ctx).Uncut := by
  unfold spliceArgs
  refine Uncut.bind (h _ (joinPath_args_ne_empty _) rfl) fun shape => ?_
  split
  · exact .throw nofun
  · refine (Uncut.foldlM _ fun properties argument => ?_).bind fun _ => .pure _
    unfold spliceArg
    split
    · exact .pure _
    · exact .throw nofun

/-- A wrapper that is described in full visits its type arguments. One that is
linked visits nothing. -/
theorem describeWrapper_uncut {typeArgs : List TypeNode} {named : Option Declaration}
    {force : Bool} (hpath : ctx.basePath ≠ "")
    (h : (force || ctx.expands) = true → w.UncutAtAll (visitTypes typeArgs true)) :
    (w.describeWrapper typeArgs named location ctx force).Uncut := by
  unfold describeWrapper
  split
  · exact .throw nofun
  · next blueprint args hparts =>
    obtain ⟨hblueprint, hargs⟩ := mem_of_wrapperParts? hparts
    split
    · next hfull =>
      have hvisits := (h hfull).types
      have hctx := @Context.forced_expands ctx force
      rw [hfull] at hctx
      have hshape := hvisits blueprint hblueprint
        { ctx with flattens := ctx.flattens || force } hpath hctx
      -- The arguments, if there are any, stand under the name of the model.
      refine hshape.bind fun shape => ?_
      split
      · exact spliceArgs_uncut (hvisits _ (hargs _ rfl))
      · exact .pure _
    · -- A link visits nothing.
      dsimp only
      split
      · exact .pure _
      · exact .throw nofun

/-- A wrapper that is described in full only where its context asks for it. -/
theorem describeWrapper_unforced_uncut {typeArgs : List TypeNode} {named : Option Declaration}
    (hpath : ctx.basePath ≠ "") (h : w.UncutAtAll (visitWrapper typeArgs ctx.expands)) :
    (w.describeWrapper typeArgs named location ctx false).Uncut := by
  refine describeWrapper_uncut hpath fun hctx => ?_
  rw [Bool.false_or] at hctx
  rwa [visitWrapper, hctx, if_pos rfl] at h

/-- The use of a declaration: a model, one that is described in full, an alias
that is inlined, or a link. `visitUse` has the same cases. -/
theorem describeUse_uncut {declaration : Declaration} (hpath : ctx.basePath ≠ "")
    (hname : declaration.name ≠ "")
    (h : w.UncutAtAll (visitUse w.program w.settings declaration ctx.expands)) :
    (w.describeUse declaration location ctx).Uncut := by
  -- By its name the declaration is visited in full or, where it is linked, not at all.
  have hnamed (hvisit : ctx.expands = true → w.UncutAt ⟨.declaration declaration, true⟩) :
      (w.describeNamed declaration ctx).Uncut := by
    unfold describeNamed expandDeclaration
    split
    · exact Uncut.bind (.pure ()) fun _ => .pure _
    · next hctx =>
      rw [Bool.not_eq_true, Bool.not_eq_false'] at hctx
      refine Uncut.bind (.pure ()) fun _ => Uncut.bind ?_ fun _ => .pure _
      exact hvisit hctx _ (Context.within_basePath_ne_empty hname hpath) hctx
  unfold describeUse
  unfold visitUse at h
  split
  · next target hform =>
    rw [hform] at h
    split
    · next args hargs =>
      simp only [hargs] at h
      exact describeWrapper_unforced_uncut hpath h
    · next hargs =>
      simp only [hargs] at h
      split
      · next htransparent =>
        simp only [Bool.and_eq_true, Bool.not_eq_true'] at htransparent
        simp only [htransparent, Bool.false_eq_true, if_false, if_true] at h
        exact h _ (List.mem_singleton_self _) ctx hpath htransparent.1
      · exact hnamed fun hctx => h _ (by simp [hctx])
  · next hform =>
    refine hnamed fun hctx => ?_
    split at h
    · next target halias => exact absurd halias (hform target)
    · exact h _ (by simp [hctx])

/-- A reference that resolves to nothing fails without a visit. -/
theorem describeReference_uncut {reference : Reference} (hpath : ctx.basePath ≠ "")
    (hnamed : w.program.Named)
    (h : w.UncutAtAll (visitReference w.program w.settings reference ctx.expands)) :
    (w.describeReference reference location ctx).Uncut := by
  unfold describeReference
  unfold visitReference at h
  split
  · next hwrapper =>
    rw [if_pos hwrapper] at h
    exact describeWrapper_unforced_uncut hpath h
  · next hwrapper =>
    rw [if_neg hwrapper] at h
    split
    · next declaration hresolve =>
      rw [hresolve] at h
      split
      · exact .throw nofun
      · exact describeUse_uncut hpath (hnamed _ (Program.resolve_declares hresolve)) h
    · exact .throw nofun

/-- So does an import type, or one without a name. -/
theorem describeImport_uncut {link : ImportType} (hpath : ctx.basePath ≠ "")
    (hnamed : w.program.Named)
    (h : w.UncutAtAll (visitImport w.program w.settings link ctx.expands)) :
    (w.describeImport link location ctx).Uncut := by
  unfold describeImport
  unfold visitImport at h
  split
  · exact .throw nofun
  · next name hname =>
    split
    · next hwrapper =>
      rw [if_pos hwrapper] at h
      exact describeWrapper_uncut hpath fun _ => h
    · next hwrapper =>
      rw [if_neg hwrapper, hname] at h
      split
      · next declaration hresolve =>
        simp only [hresolve] at h
        split
        · exact .throw nofun
        · exact describeUse_uncut hpath (hnamed _ (Program.resolveImport_declares hresolve)) h
      · exact .throw nofun

/-- An operation visits its parameters and its return type, below itself. -/
theorem describeFunction_uncut {signature : Signature} (hpath : ctx.basePath ≠ "")
    (h : w.UncutAtAll (visitSignature signature)) :
    (w.describeFunction signature location ctx).Uncut := by
  unfold describeFunction describeOperation
  dsimp only
  split
  · exact .throw nofun
  · -- The parameters first, each at the path of its name, then the return type at the
    -- path of the operation itself.
    refine (Uncut.mapM fun param hparam => ?_).bind fun args => ?_
    · unfold describeParameter
      split
      · next type htype =>
        have hvisit := h.left.types type (List.mem_filterMap.mpr ⟨param, hparam, htype⟩)
        exact (hvisit.at_path (joinPath_ne_empty hpath _) ctx.owner).bind fun _ => .pure _
      · exact .throw nofun
    · split
      · next returns hreturns =>
        have hvisit := h.right.types returns (by simp [hreturns])
        exact (hvisit.at_path hpath ctx.owner).bind fun _ => .pure _
      · exact .throw nofun

/-- All forms of types, each with the visits that `visitType` lists for it. -/
theorem describeType_uncut {type : TypeNode} (hpath : ctx.basePath ≠ "")
    (hnamed : w.program.Named)
    (h : w.UncutAtAll (visitType w.program w.settings ctx.expands type.form)) :
    (w.describeType type ctx).Uncut := by
  unfold describeType
  -- What fails here fails by an error of its own, and never because the walk is cut
  -- off.
  split
  case h_1 | h_2 | h_3 | h_4 => exact .pure _
  case h_5 element hform =>
    rw [hform] at h
    exact (h _ (List.mem_singleton_self _) ctx hpath rfl).bind fun _ => .pure _
  case h_6 types hform =>
    rw [hform] at h
    exact describeUnion_uncut hpath h
  case h_7 => exact literalEnum_uncut _
  case h_8 members hform =>
    rw [hform] at h
    exact (describeMembers_uncut hpath h).bind fun _ => .pure _
  case h_9 reference hform =>
    rw [hform] at h
    exact describeReference_uncut hpath hnamed h
  case h_10 parts hform =>
    rw [hform] at h
    exact (flattened_uncut hpath h).bind fun _ => .pure _
  case h_11 link hform =>
    rw [hform] at h
    exact describeImport_uncut hpath hnamed h
  case h_12 signature hform =>
    rw [hform] at h
    exact describeFunction_uncut hpath h
  all_goals exact .throw nofun

/-- All forms of declarations. -/
theorem describeDeclaration_uncut {declaration : Declaration} (hpath : ctx.basePath ≠ "")
    (h : w.UncutAtAll (visitDeclaration w.program w.settings ctx.expands declaration.form)) :
    (w.describeDeclaration declaration ctx).Uncut := by
  -- The cases of the description are those of `visitDeclaration`, in the same order.
  unfold describeDeclaration
  split
  · next target hform =>
    rw [hform, visitDeclaration] at h
    split
    · next args hargs =>
      simp only [hargs] at h
      exact describeWrapper_unforced_uncut hpath h
    · next hargs =>
      simp only [hargs] at h
      exact h _ (List.mem_singleton_self _) _ (Context.ownedBy_basePath_ne_empty hpath) rfl
  · next heritage members hform =>
    rw [hform] at h
    exact describeBody_uncut hpath h
  · next heritage members hform =>
    rw [hform] at h
    exact describeBody_uncut hpath h
  · next members hform =>
    rw [hform] at h
    unfold describeEnum
    split
    · exact .pure _
    · refine (Uncut.mapM fun member hmember => ?_).bind fun _ => .pure _
      exact describeMember_uncut hpath (h.members member hmember)

/-- All forms of members. -/
theorem describeMemberType_uncut {member : Member} (hpath : ctx.basePath ≠ "")
    (h : w.UncutAtAll (visitMember member ctx.expands)) :
    (w.describeMemberType member ctx).Uncut := by
  unfold describeMemberType
  unfold visitMember Member.type? at h
  split
  · next type hform =>
    rw [hform] at h
    exact h _ (List.mem_singleton_self _) ctx hpath rfl
  · next type hform =>
    rw [hform] at h
    exact h _ (List.mem_singleton_self _) ctx hpath rfl
  · exact .throw nofun
  · exact .throw nofun
  · next signature hform =>
    rw [hform] at h
    exact describeFunction_uncut hpath h
  · unfold describeEnumMember
    split
    · split
      · exact .pure _
      · exact .throw nofun
    · exact .throw nofun
    · exact .throw nofun
  · exact .throw nofun

/-- A node is uncut if the visits that follow on it are. -/
theorem describeNode_uncut {node : Node} (hpath : ctx.basePath ≠ "")
    (hnamed : w.program.Named)
    (h : w.UncutAtAll (Visit.next w.program w.settings ⟨node, ctx.expands⟩)) :
    (w.describeNode node ctx).Uncut := by
  cases node with
  | type type => exact describeType_uncut hpath hnamed h
  | declaration declaration => exact describeDeclaration_uncut hpath h
  | member member => exact describeMemberType_uncut hpath h

end Walker

/-! ### Levels that are enough -/

/-- Some number of levels is enough to describe the node of a visit, in every
context, and so is every greater number. -/
def Visit.Settles (program : Program) (settings : Settings) (visit : Visit) : Prop :=
  ∃ enough, ∀ levels ≥ enough, (walkerWithin program settings levels).UncutAt visit

variable {program : Program} {settings : Settings}

/-- The greatest of the levels that finitely many visits need. -/
theorem exists_enough {visits : List Visit}
    (h : ∀ visit ∈ visits, visit.Settles program settings) :
    ∃ enough, ∀ levels ≥ enough, (walkerWithin program settings levels).UncutAtAll visits := by
  induction visits with
  | nil => exact ⟨0, fun _ _ _ hvisit => absurd hvisit List.not_mem_nil⟩
  | cons visit visits ih =>
    obtain ⟨first, hfirst⟩ := h visit (List.mem_cons_self ..)
    obtain ⟨rest, hrest⟩ := ih fun visit hvisit => h visit (List.mem_cons_of_mem _ hvisit)
    refine ⟨max first rest, fun levels hlevels => ?_⟩
    rw [Walker.UncutAtAll, List.forall_mem_cons]
    exact ⟨hfirst levels (by omega), hrest levels (by omega)⟩

/-- A visit takes one level more than those that follow on it. -/
theorem Visit.settles_of_next {visit : Visit}
    (hnamed : program.Named)
    (h : ∀ after ∈ visit.next program settings, after.Settles program settings) :
    visit.Settles program settings := by
  obtain ⟨enough, henough⟩ := exists_enough h
  refine ⟨enough + 1, fun levels hlevels ctx hpath hctx => ?_⟩
  -- One level is for the node itself, and the others for what follows on it.
  obtain ⟨below, rfl⟩ : ∃ below, levels = below + 1 := ⟨levels - 1, by omega⟩
  have hnext := henough below (by omega)
  obtain ⟨node, expands⟩ := visit
  obtain rfl : ctx.expands = expands := hctx
  have hnode := Walker.describeNode_uncut hpath hnamed hnext
  exact hnode.bind fun _ => .pure _

/-- A visit that settles is not cut off by any limit that is large enough. -/
theorem Visit.Settles.describe_uncut {visit : Visit} (h : visit.Settles program settings) :
    ∃ enough, ∀ limit ≥ enough, ∀ ctx : Context, ctx.basePath ≠ "" →
      ctx.expands = visit.expands →
      (describe program (settings.allowing limit) visit.node ctx : Attempt Shape).Uncut := by
  obtain ⟨enough, henough⟩ := h
  refine ⟨enough, fun limit hlimit ctx hpath hctx => ?_⟩
  have huncut := henough limit hlimit ctx hpath hctx
  rw [describe_eq_describeWithin]
  -- The limit occurs in the settings too, but only to be named in the error.
  have hcut : CutOff settings.maxDepth (describeWithin program settings limit visit.node ctx)
      (describeWithin program (settings.allowing limit) limit visit.node ctx) :=
    @describeWithin_cutOff program settings (settings.allowing limit) rfl limit limit
      (Nat.le_refl _) visit.node ctx
  rcases hcut with heq | ⟨location, hlocation⟩
  · exact heq ▸ huncut
  · exact absurd hlocation (huncut _ _)

/-- What is not cut off at a node is cut off at none of the nodes below. -/
theorem describe_eq_of_uncut {node : Node} {ctx : Context}
    (h : (describe program settings node ctx : Attempt Shape).Uncut) :
    (describe program settings node ctx : Attempt Shape) =
      (do
        let shape ← (walkerWithin program settings settings.maxDepth).describeNode node ctx
        return placed ctx shape) := by
  rw [← describeWithin_succ]
  rw [describe_eq_describeWithin] at h ⊢
  have hcut := @describeWithin_cutOff program settings settings rfl settings.maxDepth _
    (Nat.le_succ settings.maxDepth) node ctx
  exact hcut.resolve_right fun ⟨location, hlocation⟩ => h _ _ hlocation

end Expansion

end AppMetadata
