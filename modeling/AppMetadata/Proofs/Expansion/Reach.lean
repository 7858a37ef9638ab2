import AppMetadata.Proofs.Expansion.Embedding
import AppMetadata.Proofs.Expansion.Trace
import AppMetadata.Proofs.Expansion.Visits

/-!
# `AppMetadata.Proofs.Expansion.Reach`: what a description can come to

`visited` lists the sites that one description comes to, and `Visit.next` the
visits that may follow on a visit. What is kept from each visit to those that
follow on it is so kept in whole descriptions.

* `enclosed_of_visited`: all sites of a description are in every set of visits
  that contains the first one and is closed under `Visit.next`, and each of
  them has a path.
* `plainLinks_of_visited`: in a program without imported wrappers no site is
  one.
-/

set_option autoImplicit false

namespace AppMetadata.Expansion

variable {program : Program} {settings : Settings}

/-! ### Sites within a closed set of visits -/

/-- A site with a path whose visit is one of `inside`. -/
structure Enclosed (inside : Visit → Prop) (site : Site) : Prop where
  visit : inside ⟨site.node, site.ctx.expands⟩
  path : site.ctx.basePath ≠ ""

/-- A second run that, unless it is cut off, answers as the first one does;
and then the first one keeps to the sites that are allowed. -/
def enclosing (allowed : Site → Prop) : Simulation Traced Attempt where
  Related x y := y.Uncut → ∀ a sites, x.run = .ok (a, sites) →
    y = .ok a ∧ ∀ site ∈ sites, allowed site
  pure a := by
    rintro - _ _ ⟨⟩
    exact ⟨rfl, by simp⟩
  throw e := nofun
  note event := by
    rintro - _ _ ⟨⟩
    exact ⟨rfl, by simp⟩
  bind {_ _ x y f g} hx hf := by
    intro huncut b sites h
    obtain ⟨a, before, after, hbefore, hafter, rfl⟩ := Traced.run_bind_eq_ok.mp h
    obtain ⟨rfl, hfirst⟩ := hx huncut.of_bind a before hbefore
    obtain ⟨hb, hrest⟩ := hf a huncut b after hafter
    exact ⟨hb, List.forall_mem_append.mpr ⟨hfirst, hrest⟩⟩

open Classical in
/-- The walker that is cut off at every site that is not allowed. Where it
fails at another one, it is not cut off. -/
noncomputable def walkerEnclosed (allowed : Site → Prop) (program : Program) (settings : Settings)
    (levels : Nat) : Walker Attempt where
  program := program
  settings := settings
  describe node ctx :=
    if allowed ⟨node, ctx⟩ then
      match describeWithin program settings levels node ctx with
      | .ok s => return s
      | .error _ => throw (ExtractionError.emptyUnion node.location)
    else throw (ExtractionError.depthExceeded settings.maxDepth node.location)

/-- The walker is cut off at the sites that are not allowed and at no other, so
to be uncut is to have kept to the allowed ones. -/
theorem walkerEnclosed_uncut {allowed : Site → Prop} {levels : Nat} {node : Node} {ctx : Context} :
    ((walkerEnclosed allowed program settings levels).describe node ctx).Uncut ↔
      allowed ⟨node, ctx⟩ := by
  unfold walkerEnclosed
  dsimp only
  split
  · next hallowed =>
    refine iff_of_true ?_ hallowed
    split
    · exact .pure _
    · exact .throw nofun
  · next hallowed => exact iff_of_false (fun h => h _ _ rfl) hallowed

/-- At an allowed site the walker gives the shape that the plain walk gives
there. -/
theorem walkerEnclosed_of_describeWithin {allowed : Site → Prop} {levels : Nat} {node : Node}
    {ctx : Context} {s : Shape} (hallowed : allowed ⟨node, ctx⟩)
    (h : describeWithin program settings levels node ctx = .ok s) :
    (walkerEnclosed allowed program settings levels).describe node ctx = .ok s := by
  unfold walkerEnclosed
  dsimp only
  rw [if_pos hallowed, h]
  rfl

/-- All sites of a run that succeeds are enclosed, if the first one is and the
visits that follow on one inside are inside too. -/
theorem enclosed_of_run {inside : Visit → Prop} (hnamed : program.Named)
    (hnext : ∀ visit, inside visit → ∀ after ∈ visit.next program settings, inside after)
    {levels : Nat} {node : Node} {ctx : Context} (hsite : Enclosed inside ⟨node, ctx⟩) {s : Shape}
    {sites : List Site}
    (h : (describeTraced program settings levels node ctx).run = .ok (s, sites)) :
    ∀ site ∈ sites, Enclosed inside site := by
  -- By induction on the levels. The visits that follow on the node are inside, so
  -- the walker that is cut off outside is not cut off, and answers alike.
  induction levels generalizing node ctx s sites with
  | zero => cases h
  | succ levels ih =>
    let enclosed := walkerEnclosed (Enclosed inside) program settings levels
    have hsimilar : Walker.Similar (enclosing (Enclosed inside))
        (walkerTraced program settings levels) enclosed := by
      refine ⟨rfl, rfl, fun node ctx huncut t below hrun => ?_⟩
      have hallowed := walkerEnclosed_uncut.mp huncut
      exact ⟨walkerEnclosed_of_describeWithin hallowed (describeWithin_of_run hrun),
        ih hallowed hrun⟩
    have huncut : (enclosed.describeNode node ctx).Uncut := by
      refine Walker.describeNode_uncut hsite.path hnamed fun after hafter inner hpath hexpands => ?_
      refine walkerEnclosed_uncut.mpr ⟨?_, hpath⟩
      rw [hexpands]
      exact hnext _ hsite.visit after hafter
    -- First the site of the node itself is written down, then those below it.
    obtain ⟨_, first, rest, hfirst, hnode, rfl⟩ := Traced.run_bind_eq_ok.mp h
    cases hfirst
    obtain ⟨t, below, last, hbelow, hlast, rfl⟩ := Traced.run_bind_eq_ok.mp hnode
    cases hlast
    have hrest := ((enclosing _).describeNode hsimilar node ctx huncut t below hbelow).2
    simpa using ⟨hsite, hrest⟩

/-- A description comes to no visit but the first one and those that follow
on it, directly or not, and to none without a path. -/
theorem enclosed_of_visited {inside : Visit → Prop} (hnamed : program.Named)
    (hnext : ∀ visit, inside visit → ∀ after ∈ visit.next program settings, inside after)
    {node : Node} {ctx : Context} (hsite : Enclosed inside ⟨node, ctx⟩) :
    ∀ site ∈ visited program settings node ctx, Enclosed inside site := by
  unfold visited
  split
  · next hrun => exact enclosed_of_run hnamed hnext hsite hrun
  · simp

/-! ### No imported wrappers -/

/-- Visits of nodes without imported wrappers. -/
def PlainVisits (settings : Settings) (visits : List Visit) : Prop :=
  ∀ visit ∈ visits, PlainLinks settings visit.node.importTypes

section

variable {expands : Bool}

/-- Visits are collected from the parts of a syntax tree one after another. -/
theorem PlainVisits.append {first second : List Visit} (hfirst : PlainVisits settings first)
    (hsecond : PlainVisits settings second) : PlainVisits settings (first ++ second) :=
  List.forall_mem_append.mpr ⟨hfirst, hsecond⟩

/-- The visits to a list of types, each of which has plain links only. -/
theorem plainVisits_types {types : List TypeNode}
    (h : ∀ type ∈ types, PlainLinks settings type.importTypes) :
    PlainVisits settings (visitTypes types expands) :=
  List.forall_mem_map.mpr h

/-- The same for a list whose import types were collected together, as those of
a declaration are. -/
theorem plainVisits_typesOf {types : List TypeNode}
    (h : PlainLinks settings (importTypesOf types)) :
    PlainVisits settings (visitTypes types expands) :=
  plainVisits_types fun _ htype => h.mono (importTypes_subset_of_mem htype)

/-- The visits to members. -/
theorem plainVisits_members {members : List Member}
    (h : PlainLinks settings (importTypesOfMembers members)) :
    PlainVisits settings (visitMembers members) :=
  List.forall_mem_map.mpr fun _ hmember => h.mono (Member.importTypes_subset_of_mem hmember)

/-- The visits to the blueprint and the arguments of a model wrapper. -/
theorem plainVisits_wrapper {typeArgs : List TypeNode}
    (h : PlainLinks settings (importTypesOf typeArgs)) :
    PlainVisits settings (visitWrapper typeArgs expands) := by
  unfold visitWrapper
  split
  · exact plainVisits_typesOf h
  · exact fun _ hvisit => absurd hvisit List.not_mem_nil

/-- The visits to the parameters and the return type of a function. -/
theorem plainVisits_signature {signature : Signature}
    (h : PlainLinks settings signature.importTypes) :
    PlainVisits settings (visitSignature signature) := by
  rw [Signature.importTypes_eq] at h
  refine .append (plainVisits_types fun type htype => ?_) (plainVisits_types fun type htype => ?_)
  · obtain ⟨param, hparam, htype⟩ := List.mem_filterMap.mp htype
    have hlinks := (h.mono (List.subset_append_left ..)).mono
      (Parameter.importTypes_subset_of_mem hparam)
    rwa [Parameter.importTypes_eq, htype] at hlinks
  · rw [Option.mem_toList.mp htype] at h
    exact h.mono (List.subset_append_right ..)

/-- The visits to the type or the signature of a member. -/
theorem plainVisits_member {member : Member} (h : PlainLinks settings member.importTypes) :
    PlainVisits settings (visitMember member expands) := by
  unfold visitMember
  split
  · next signature hform =>
    rw [Member.importTypes_eq, hform] at h
    exact plainVisits_signature h
  · exact plainVisits_types fun _ htype =>
      h.mono (Member.importTypes_type?_subset (Option.mem_toList.mp htype))

/-- The visits to what stands in a declaration that is described in full. -/
theorem plainVisits_declaration {declaration : Declaration}
    (h : PlainLinks settings declaration.importTypes) :
    PlainVisits settings (visitDeclaration program settings expands declaration.form) := by
  unfold Declaration.importTypes at h
  -- An alias of a model visits what the wrapper holds, and any other alias its target.
  unfold visitDeclaration
  split
  · next target hform =>
    rw [hform] at h
    split
    · next args hargs => exact plainVisits_wrapper (h.mono (wrapperArgs?_importTypes hargs))
    · exact List.forall_mem_singleton.mpr h
  · next heritage members hform =>
    rw [hform] at h
    exact .append (plainVisits_typesOf (h.mono (List.subset_append_left ..)))
      (plainVisits_members (h.mono (List.subset_append_right ..)))
  · next heritage members hform =>
    rw [hform] at h
    refine .append (plainVisits_types fun base hbase => ?_)
      (plainVisits_members (h.mono (List.subset_append_right ..)))
    rw [Option.mem_toList.mp hbase] at h
    exact h.mono (List.subset_append_left ..)
  · next members hform =>
    rw [hform] at h
    exact plainVisits_members h

variable (hprogram : PlainProgram program settings)
include hprogram

/-- The visits at a use of a declaration: what stands in it is reached by name,
so here the links of the whole program have to be plain. -/
theorem plainVisits_use {declaration : Declaration} (hdeclared : program.Declares declaration) :
    PlainVisits settings (visitUse program settings declaration expands) := by
  have hlinks := hprogram.links _ hdeclared
  -- Described in full or linked under its own name.
  have hnamed : PlainVisits settings
      (if expands then [⟨.declaration declaration, true⟩] else []) := by
    split
    · exact List.forall_mem_singleton.mpr hlinks
    · exact fun _ hvisit => absurd hvisit List.not_mem_nil
  unfold visitUse
  split
  · next target hform =>
    have htarget : PlainLinks settings target.importTypes := by
      rwa [Declaration.importTypes, hform] at hlinks
    split
    · next args hargs =>
      exact plainVisits_wrapper (htarget.mono (wrapperArgs?_importTypes hargs))
    · -- Linked, a transparent alias is followed to its target.
      cases expands with
      | true => exact hnamed
      | false =>
        rw [if_neg Bool.false_ne_true]
        split
        · exact List.forall_mem_singleton.mpr htarget
        · exact hnamed
  · exact hnamed

/-- A resolved name leads to a use, or to nothing if it denotes no declaration. -/
theorem plainVisits_resolved {resolved : Resolved}
    (h : ∀ declaration, resolved = .declaration declaration → program.Declares declaration) :
    PlainVisits settings (visitResolved program settings expands resolved) := by
  unfold visitResolved
  split
  · exact plainVisits_use hprogram (h _ rfl)
  · exact fun _ hvisit => absurd hvisit List.not_mem_nil

/-- The visits to the parts of a type, and to what its names denote. -/
theorem plainVisits_type {type : TypeNode} (h : PlainLinks settings type.importTypes) :
    PlainVisits settings (visitType program settings expands type.form) := by
  rw [TypeNode.importTypes_eq] at h
  -- The parts of a form are visited, and what a name denotes is visited by name; only
  -- the latter needs the program.
  unfold visitType
  split
  · next element hform =>
    rw [hform] at h
    exact List.forall_mem_singleton.mpr h
  · next types hform =>
    rw [hform] at h
    have hpresent (type : TypeNode) (htype : type ∈ presentOf types) :
        PlainLinks settings type.importTypes := h.mono (importTypes_present_subset htype)
    exact .append (plainVisits_types hpresent) (plainVisits_types hpresent)
  · next members hform =>
    rw [hform] at h
    exact plainVisits_members h
  · next parts hform =>
    rw [hform] at h
    exact plainVisits_typesOf h
  · next reference hform =>
    rw [hform] at h
    unfold visitReference
    split
    · exact plainVisits_wrapper (Reference.importTypes_eq reference ▸ h)
    · exact plainVisits_resolved hprogram fun _ hresolve => Program.resolve_declares hresolve
  · next link hform =>
    rw [hform] at h
    unfold visitImport
    split
    · have hargs : PlainLinks settings link.importTypes := h.mono (List.subset_cons_self ..)
      exact plainVisits_typesOf (ImportType.importTypes_eq link ▸ hargs)
    · split
      · exact plainVisits_resolved hprogram fun _ hresolve =>
          Program.resolveImport_declares hresolve
      · exact fun _ hvisit => absurd hvisit List.not_mem_nil
  · next signature hform =>
    rw [hform] at h
    exact plainVisits_signature h
  · exact fun _ hvisit => absurd hvisit List.not_mem_nil

/-- No visit that follows on one without imported wrappers has any. -/
theorem plainVisits_next {visit : Visit} (h : PlainLinks settings visit.node.importTypes) :
    PlainVisits settings (visit.next program settings) := by
  obtain ⟨node, expands⟩ := visit
  cases node with
  | type type => exact plainVisits_type hprogram h
  | declaration declaration => exact plainVisits_declaration h
  | member member => exact plainVisits_member h

/-- The description of a node without imported wrappers comes to no imported
wrapper. -/
theorem plainLinks_of_visited {node : Node} {ctx : Context}
    (hlinks : PlainLinks settings node.importTypes) (hpath : ctx.basePath ≠ "") :
    ∀ site ∈ visited program settings node ctx,
      PlainLinks settings site.node.importTypes ∧ site.ctx.basePath ≠ "" := by
  intro site hsite
  let plain (visit : Visit) : Prop := PlainLinks settings visit.node.importTypes
  have hstart : Enclosed plain ⟨node, ctx⟩ := ⟨hlinks, hpath⟩
  have henclosed := enclosed_of_visited hprogram.named
    (fun _ hvisit => plainVisits_next hprogram hvisit) hstart site hsite
  exact ⟨henclosed.visit, henclosed.path⟩

end

end AppMetadata.Expansion
