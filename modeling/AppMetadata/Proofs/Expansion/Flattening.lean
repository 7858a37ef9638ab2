import AppMetadata.Proofs.Expansion.Transparency
import AppMetadata.Proofs.Expansion.Visits
import Mathlib.Data.Fintype.EquivFin
import Mathlib.Data.Set.Finite.Basic
import Mathlib.Logic.Relation
import Mathlib.Order.WellFounded

/-!
# `AppMetadata.Proofs.Expansion.Flattening`: recursion is broken without the limit

Declarations may refer to one another in cycles, and no list of visited
declarations is kept. A walk ends all the same, because a name is followed
only where the properties of what it denotes become part of another type:
below heritage clauses and the targets of aliases, in intersections, and in
the arguments of imported model wrappers (`Declaration.occurrences`). If one
declaration never flattens itself that way, directly or through others, then
every description settles.

The induction is on the relation `Flattens` between declarations, and for
each declaration on the syntax of its types. Transparent aliases are followed
where types are only linked, but no more than `maxAliasHops` of them.

* `settles_of_isTransparent`: transparent aliases.
* `settles_of_free`: types and members, by induction on their syntax.
* `uncut_of_acyclic`: the statement about whole descriptions.
-/

set_option autoImplicit false

namespace AppMetadata.Expansion

/-! ### Flattening occurrences -/

/-- A name where it is used: by reference, or through an import type. -/
inductive Occurrence
  | reference (reference : Reference)
  | imported (link : ImportType)

/-- What a name that is used denotes. -/
def Occurrence.denotes (program : Program) : Occurrence → Declaration → Prop
  | reference use, declaration =>
    program.resolve use.scope use.name = .declaration declaration
  | imported link, declaration => ∃ name, link.name = some name ∧
    program.resolveImport link.scope link.specifier name = .declaration declaration

section

variable (settings : Settings)

mutual

/-- The flattening occurrences in a type; `flat` says whether the type itself
is flattened where it stands. -/
def typeOccurrences (flat : Bool) : TypeNode → List Occurrence
  | ⟨form, _⟩ => formOccurrences flat form

/-- The flattening occurrences in a form. The parts of an intersection are
flattened, and so are the arguments of an imported wrapper; members,
parameters and return types are not. -/
def formOccurrences (flat : Bool) : TypeForm → List Occurrence
  | .array element => typeOccurrences flat element
  | .union types => typesOccurrences flat types
  | .intersection parts => typesOccurrences true parts
  | .object members => membersOccurrences members
  | .reference ⟨name, args, scope⟩ =>
    (if flat then [.reference ⟨name, args, scope⟩] else []) ++ typesOccurrences flat args
  | .imported ⟨specifier, name, args, scope⟩ =>
    (if flat then [.imported ⟨specifier, name, args, scope⟩] else []) ++
      typesOccurrences (flat || isImportedWrapper settings ⟨specifier, name, args, scope⟩) args
  | .function signature => signatureOccurrences signature
  | _ => []

/-- The flattening occurrences in a signature. -/
def signatureOccurrences : Signature → List Occurrence
  | ⟨params, returns⟩ => paramsOccurrences params ++ optionOccurrences false returns

/-- The flattening occurrences in a parameter. -/
def paramOccurrences : Parameter → List Occurrence
  | ⟨_, _, type⟩ => optionOccurrences false type

/-- The flattening occurrences in a member. -/
def memberOccurrences : Member → List Occurrence
  | ⟨_, form, _, _, _⟩ => memberFormOccurrences form

/-- The flattening occurrences in a member's form. -/
def memberFormOccurrences : MemberForm → List Occurrence
  | .signature type | .field type => optionOccurrences false type
  | .method signature => signatureOccurrences signature
  | .enumMember _ | .unsupported _ _ => []

/-- The flattening occurrences in a list of types. -/
def typesOccurrences (flat : Bool) : List TypeNode → List Occurrence
  | [] => []
  | type :: types => typeOccurrences flat type ++ typesOccurrences flat types

/-- The flattening occurrences in a list of members. -/
def membersOccurrences : List Member → List Occurrence
  | [] => []
  | member :: members => memberOccurrences member ++ membersOccurrences members

/-- The flattening occurrences in a list of parameters. -/
def paramsOccurrences : List Parameter → List Occurrence
  | [] => []
  | param :: params => paramOccurrences param ++ paramsOccurrences params

/-- The flattening occurrences in a type, if there is one. -/
def optionOccurrences (flat : Bool) : Option TypeNode → List Occurrence
  | none => []
  | some type => typeOccurrences flat type

end

end

end AppMetadata.Expansion

namespace AppMetadata

open Expansion

/-- The flattening occurrences in a declaration: heritage clauses and the
target of an alias are flattened. -/
def Declaration.occurrences (settings : Settings) (declaration : Declaration) :
    List Occurrence :=
  match declaration.form with
  | .typeAlias target => typeOccurrences settings true target
  | .interface heritage members =>
    typesOccurrences settings true heritage ++ membersOccurrences settings members
  | .classType heritage members =>
    optionOccurrences settings true heritage ++ membersOccurrences settings members
  | .enum members => membersOccurrences settings members

/-- A flattening occurrence in the first declaration denotes the second
one. -/
def Program.Flattens (program : Program) (settings : Settings) (first second : Declaration) :
    Prop :=
  ∃ occurrence ∈ first.occurrences settings, occurrence.denotes program second

/-- No declaration flattens itself, directly or through others. -/
def Program.FlattensAcyclically (program : Program) (settings : Settings) : Prop :=
  ∀ declaration, program.Declares declaration →
    ¬ Relation.TransGen (program.Flattens settings) declaration declaration

end AppMetadata

namespace AppMetadata.Expansion

variable {program : Program} {settings : Settings}

/-! ### Linked types

Where types are linked, a name is followed only if it is that of a
transparent alias. The number of hops makes this end. -/

/-- Where a declaration is only linked, its use leads on to the target of a
transparent alias, and to nothing else. -/
theorem mem_visitUse_linked {declaration : Declaration} {visit : Visit}
    (h : visit ∈ visitUse program settings declaration false) :
    ∃ target, declaration.form = .typeAlias target ∧
      isTransparent program maxAliasHops target = true ∧ visit = ⟨.type target, false⟩ := by
  unfold visitUse visitWrapper at h
  split at h
  · next target hform =>
    split at h
    · exact absurd h List.not_mem_nil
    · simp only [Bool.false_eq_true, if_false] at h
      split at h
      · next htransparent => exact ⟨target, hform, htransparent, List.mem_singleton.mp h⟩
      · exact absurd h List.not_mem_nil
  · exact absurd h List.not_mem_nil

/-- A union of unions asks for what is nested in it, so this is about the
alternatives of a type too. -/
theorem settles_of_standsFor (hnamed : program.Named) {hops : Nat} {type : TypeNode}
    {keyword : Keyword} (h : StandsFor program hops type keyword) :
    Visit.Settles program settings ⟨.type type, false⟩ ∧
      ∀ alternative ∈ presentOf [type],
        Visit.Settles program settings ⟨.type alternative, false⟩ := by
  have hself {type : TypeNode} (hform : ∀ types, type.form ≠ .union types)
      (hsettles : Visit.Settles program settings ⟨.type type, false⟩) :
      Visit.Settles program settings ⟨.type type, false⟩ ∧
        ∀ alternative ∈ presentOf [type],
          Visit.Settles program settings ⟨.type alternative, false⟩ := by
    refine ⟨hsettles, fun alternative halternative => ?_⟩
    rw [presentOf_of_other hform] at halternative
    obtain rfl := List.mem_singleton.mp (List.mem_filter.mp halternative).1
    exact hsettles
  induction h with
  | keyword keyword location => exact hself (fun _ => nofun) (Visit.settles_of_next hnamed nofun)
  | array location _ ih =>
    refine hself (fun _ => nofun) (Visit.settles_of_next hnamed fun visit hvisit => ?_)
    exact List.mem_singleton.mp hvisit ▸ ih.1
  | @union _ types single _ location hvalues _ ih =>
    have hsame : presentOf types = presentOf [single] := by
      rw [presentOf_eq_flatMap, hvalues, List.flatMap_singleton]
    rw [presentOf_union, hsame]
    refine ⟨Visit.settles_of_next hnamed fun visit hvisit => ?_, ih.2⟩
    have hpresent : visit ∈ visitTypes (presentOf types) false := by
      simpa [Visit.next, visitType] using hvisit
    obtain ⟨alternative, hmem, rfl⟩ := List.mem_map.mp hpresent
    exact ih.2 alternative (hsame ▸ hmem)
  | @named _ reference target _ location halias _ ih =>
    refine hself (fun _ => nofun) (Visit.settles_of_next hnamed fun visit hvisit => ?_)
    obtain ⟨hplain, declaration, hresolve, hform, -⟩ :=
      @aliasTarget?_eq_some program settings reference target halias
    -- The reference leads to the use of the alias, and so to its target.
    have hvisit : visit ∈ visitReference program settings reference false := hvisit
    unfold visitReference at hvisit
    rw [if_neg (by simp [hplain]), hresolve] at hvisit
    obtain ⟨other, hother, -, rfl⟩ := mem_visitUse_linked hvisit
    obtain rfl : target = other := DeclarationForm.typeAlias.inj (hform.symm.trans hother)
    exact ih.1

/-- A type that aliases lead through ends at a primitive type after finitely many
of them, so it settles. -/
theorem settles_of_isTransparent (hnamed : program.Named) {hops : Nat} {type : TypeNode}
    (h : isTransparent program hops type = true) :
    Visit.Settles program settings ⟨.type type, false⟩ := by
  obtain ⟨fewer, keyword, -, hstands⟩ := isTransparent_iff.mp h
  exact (settles_of_standsFor hnamed hstands).1

/-- A declaration that is linked visits nothing, or the target of an alias that
is inlined. -/
theorem visitUse_linked_settles (hnamed : program.Named) (declaration : Declaration) :
    ∀ visit ∈ visitUse program settings declaration false, visit.Settles program settings := by
  intro visit hvisit
  obtain ⟨target, -, htransparent, rfl⟩ := mem_visitUse_linked hvisit
  exact settles_of_isTransparent hnamed htransparent

/-! ### Types and members

Where a type is described in full, so are the names in it. So it settles if
what its flattening occurrences denote settles when it is used in full. -/

/-- Whatever `occurrences` denote settles when it is described in full. -/
def Free (program : Program) (settings : Settings) (occurrences : List Occurrence) : Prop :=
  ∀ occurrence ∈ occurrences, ∀ declaration, occurrence.denotes program declaration →
    ∀ visit ∈ visitUse program settings declaration true, visit.Settles program settings

/-- Fewer occurrences: the first of two lists. -/
theorem Free.left {first second : List Occurrence}
    (h : Free program settings (first ++ second)) : Free program settings first :=
  fun occurrence hmem => h occurrence (List.mem_append_left _ hmem)

/-- And the second one. -/
theorem Free.right {first second : List Occurrence}
    (h : Free program settings (first ++ second)) : Free program settings second :=
  fun occurrence hmem => h occurrence (List.mem_append_right _ hmem)

mutual

/-- What is not flattened has no more flattening occurrences than it would
have if it were. -/
theorem typeOccurrences_subset (flat : Bool) :
    ∀ type : TypeNode, typeOccurrences settings false type ⊆ typeOccurrences settings flat type
  | ⟨.array element, _⟩ => typeOccurrences_subset flat element
  | ⟨.union types, _⟩ => typesOccurrences_subset flat types
  | ⟨.reference ⟨name, args, scope⟩, _⟩ => by
    simp only [typeOccurrences, formOccurrences, Bool.false_eq_true, if_false, List.nil_append]
    exact List.Subset.trans (typesOccurrences_subset flat args) (List.subset_append_right _ _)
  | ⟨.imported ⟨specifier, name, args, scope⟩, _⟩ => by
    simp only [typeOccurrences, formOccurrences, Bool.false_eq_true, if_false, List.nil_append,
      Bool.false_or]
    refine List.Subset.trans ?_ (List.subset_append_right _ _)
    cases isImportedWrapper settings ⟨specifier, name, args, scope⟩ with
    | true => simp
    | false =>
      rw [Bool.or_false]
      exact typesOccurrences_subset flat args
  | ⟨.keyword _, _⟩ | ⟨.stringLiteral _, _⟩ | ⟨.literal _, _⟩ | ⟨.intersection _, _⟩
  | ⟨.object _, _⟩ | ⟨.function _, _⟩ | ⟨.unsupported _, _⟩ => List.Subset.refl _

/-- The same for several types. -/
theorem typesOccurrences_subset (flat : Bool) :
    ∀ types : List TypeNode,
      typesOccurrences settings false types ⊆ typesOccurrences settings flat types
  | [] => List.Subset.refl _
  | type :: types => by
    rw [typesOccurrences, typesOccurrences]
    refine List.append_subset.mpr ⟨?_, ?_⟩
    · exact List.Subset.trans (typeOccurrences_subset flat type) (List.subset_append_left _ _)
    · exact List.Subset.trans (typesOccurrences_subset flat types) (List.subset_append_right _ _)

end

/-- So what is free where types are flattened is free where they are linked. -/
theorem Free.linked {types : List TypeNode} {flat : Bool}
    (h : Free program settings (typesOccurrences settings flat types)) :
    Free program settings (typesOccurrences settings false types) :=
  fun occurrence hmem => h occurrence (typesOccurrences_subset flat types hmem)

/-- A name that resolves to nothing visits nothing. What one that is linked
visits settles in any case. -/
theorem visitResolved_settles (hnamed : program.Named) {resolved : Resolved} {flat : Bool}
    (h : flat = true → ∀ declaration, resolved = .declaration declaration →
      ∀ visit ∈ visitUse program settings declaration true, visit.Settles program settings) :
    ∀ visit ∈ visitResolved program settings flat resolved, visit.Settles program settings := by
  cases resolved with
  | declaration declaration =>
    cases flat with
    | true => exact h rfl declaration rfl
    | false => exact visitUse_linked_settles hnamed declaration
  | external specifier imported => exact fun visit hvisit => absurd hvisit List.not_mem_nil
  | missing => exact fun visit hvisit => absurd hvisit List.not_mem_nil

/-- The visits of several types settle if those of each do. -/
theorem visitTypes_settle {types : List TypeNode} {expands : Bool}
    (h : ∀ type ∈ types, Visit.Settles program settings ⟨.type type, expands⟩) :
    ∀ visit ∈ visitTypes types expands, visit.Settles program settings := by
  intro visit hvisit
  obtain ⟨type, htype, rfl⟩ := List.mem_map.mp hvisit
  exact h type htype

/-- So do those of members. -/
theorem visitMembers_settle {members : List Member}
    (h : ∀ member ∈ members, Visit.Settles program settings ⟨.member member, false⟩) :
    ∀ visit ∈ visitMembers members, visit.Settles program settings := by
  intro visit hvisit
  obtain ⟨member, hmember, rfl⟩ := List.mem_map.mp hvisit
  exact h member hmember

/-- Most types are their own only alternative. -/
theorem settles_alone (hnamed : program.Named) {type : TypeNode} {flat : Bool}
    (halone : type.alternatives = [type])
    (h : ∀ visit ∈ visitType program settings flat type.form, visit.Settles program settings) :
    Visit.Settles program settings ⟨.type type, flat⟩ ∧
      ∀ alternative ∈ type.alternatives,
        Visit.Settles program settings ⟨.type alternative, flat⟩ := by
  have hself : Visit.Settles program settings ⟨.type type, flat⟩ :=
    Visit.settles_of_next hnamed h
  refine ⟨hself, fun alternative hmem => ?_⟩
  rw [halone] at hmem
  exact List.mem_singleton.mp hmem ▸ hself

mutual

/-- A type settles, and so does each of its alternatives in its place. -/
theorem type_settles (hnamed : program.Named) :
    ∀ (type : TypeNode) (flat : Bool), Free program settings (typeOccurrences settings flat type) →
      Visit.Settles program settings ⟨.type type, flat⟩ ∧
        ∀ alternative ∈ type.alternatives,
          Visit.Settles program settings ⟨.type alternative, flat⟩
  | ⟨.array element, _⟩, flat, h => by
    have helement := (type_settles hnamed element flat h).1
    exact settles_alone hnamed rfl fun visit hvisit => List.mem_singleton.mp hvisit ▸ helement
  | ⟨.union types, _⟩, flat, h => by
    -- A single alternative is described in the place of the union, several of
    -- them below it, where types are linked.
    have hsame := (types_settle hnamed types flat h).2
    have hlinked := (types_settle hnamed types false h.linked).2
    refine ⟨Visit.settles_of_next hnamed fun visit hvisit => ?_, hsame⟩
    rcases List.mem_append.mp hvisit with hvisit | hvisit
    · exact visitTypes_settle (fun type htype => hsame type (List.mem_filter.mp htype).1)
        visit hvisit
    · exact visitTypes_settle (fun type htype => hlinked type (List.mem_filter.mp htype).1)
        visit hvisit
  | ⟨.intersection parts, _⟩, _, h => by
    have hparts := (types_settle hnamed parts true h).1
    exact settles_alone hnamed rfl (visitTypes_settle hparts)
  | ⟨.object members, _⟩, _, h =>
    settles_alone hnamed rfl (visitMembers_settle (members_settle hnamed members h))
  | ⟨.reference ⟨name, args, scope⟩, _⟩, flat, h => by
    refine settles_alone hnamed rfl fun visit hvisit => ?_
    replace hvisit : visit ∈ visitReference program settings ⟨name, args, scope⟩ flat := hvisit
    unfold visitReference at hvisit
    split at hvisit
    · -- A wrapper is followed by its arguments where it is described in full.
      cases flat with
      | true => exact visitTypes_settle (types_settle hnamed args true h.right).1 visit hvisit
      | false => exact absurd hvisit List.not_mem_nil
    · refine visitResolved_settles hnamed (fun hflat declaration hresolve => ?_) visit hvisit
      exact h (.reference ⟨name, args, scope⟩)
        (by simp [typeOccurrences, formOccurrences, hflat]) declaration hresolve
  | ⟨.imported ⟨specifier, name, args, scope⟩, _⟩, flat, h => by
    refine settles_alone hnamed rfl fun visit hvisit => ?_
    replace hvisit :
      visit ∈ visitImport program settings ⟨specifier, name, args, scope⟩ flat := hvisit
    unfold visitImport at hvisit
    split at hvisit
    · next hwrapper =>
      -- The arguments are described in full wherever the wrapper stands.
      have hargs := h.right
      rw [hwrapper, Bool.or_true] at hargs
      exact visitTypes_settle (types_settle hnamed args true hargs).1 visit hvisit
    · split at hvisit
      · next part hpart =>
        refine visitResolved_settles hnamed (fun hflat declaration hresolve => ?_) visit hvisit
        exact h (.imported ⟨specifier, name, args, scope⟩)
          (by simp [typeOccurrences, formOccurrences, hflat]) declaration
          ⟨part, hpart, hresolve⟩
      · exact absurd hvisit List.not_mem_nil
  | ⟨.function signature, _⟩, _, h => settles_alone hnamed rfl (signature_settles hnamed signature h)
  | ⟨.keyword _, _⟩, _, _ | ⟨.stringLiteral _, _⟩, _, _ | ⟨.literal _, _⟩, _, _
  | ⟨.unsupported _, _⟩, _, _ => settles_alone hnamed rfl nofun

/-- Several types, and the alternatives that they open up to as the types of a
union. -/
theorem types_settle (hnamed : program.Named) :
    ∀ (types : List TypeNode) (flat : Bool),
      Free program settings (typesOccurrences settings flat types) →
      (∀ type ∈ types, Visit.Settles program settings ⟨.type type, flat⟩) ∧
        ∀ alternative ∈ alternativesOf types,
          Visit.Settles program settings ⟨.type alternative, flat⟩
  | [], _, _ => ⟨nofun, nofun⟩
  | type :: types, flat, h => by
    obtain ⟨htype, halternatives⟩ := type_settles hnamed type flat h.left
    obtain ⟨hrest, hrestAlternatives⟩ := types_settle hnamed types flat h.right
    refine ⟨List.forall_mem_cons.mpr ⟨htype, hrest⟩, fun alternative hmem => ?_⟩
    rw [alternativesOf, List.mem_append] at hmem
    exact hmem.elim (halternatives alternative) (hrestAlternatives alternative)

/-- A type that may be missing. -/
theorem option_settles (hnamed : program.Named) :
    ∀ (option : Option TypeNode) (flat : Bool),
      Free program settings (optionOccurrences settings flat option) →
      ∀ visit ∈ visitTypes option.toList flat, visit.Settles program settings
  | none, _, _ => nofun
  | some type, flat, h =>
    fun _ hvisit => List.mem_singleton.mp hvisit ▸ (type_settles hnamed type flat h).1

/-- Parameters, of which those without a type are not visited. -/
theorem params_settle (hnamed : program.Named) :
    ∀ params : List Parameter, Free program settings (paramsOccurrences settings params) →
      ∀ visit ∈ visitTypes (params.filterMap (·.type)) false, visit.Settles program settings
  | [], _ => nofun
  | ⟨name, isOptional, none⟩ :: params, h => by
    have hrest := params_settle hnamed params h.right
    simpa using hrest
  | ⟨name, isOptional, some type⟩ :: params, h => by
    have hrest := params_settle hnamed params h.right
    have htype := (type_settles hnamed type false h.left).1
    exact List.forall_mem_cons.mpr ⟨htype, hrest⟩

/-- A signature visits its parameters and its return type. -/
theorem signature_settles (hnamed : program.Named) :
    ∀ signature : Signature, Free program settings (signatureOccurrences settings signature) →
      ∀ visit ∈ visitSignature signature, visit.Settles program settings
  | ⟨params, returns⟩, h => by
    intro visit hvisit
    rcases List.mem_append.mp hvisit with hvisit | hvisit
    · exact params_settle hnamed params h.left visit hvisit
    · exact option_settles hnamed returns false h.right visit hvisit

/-- Members, one by one. -/
theorem members_settle (hnamed : program.Named) :
    ∀ members : List Member, Free program settings (membersOccurrences settings members) →
      ∀ member ∈ members, Visit.Settles program settings ⟨.member member, false⟩
  | [], _ => nofun
  | ⟨name, form, isOptional, doc, location⟩ :: members, h =>
    List.forall_mem_cons.mpr
      ⟨Visit.settles_of_next hnamed
          (memberForm_settles hnamed name form isOptional doc location h.left),
        members_settle hnamed members h.right⟩

/-- The forms of a member: a type, a signature, or neither. -/
theorem memberForm_settles (hnamed : program.Named) (name : String) :
    ∀ (form : MemberForm) (isOptional : Bool) (doc : Doc) (location : Location),
      Free program settings (memberFormOccurrences settings form) →
      ∀ visit ∈ visitMember ⟨name, form, isOptional, doc, location⟩ false,
        visit.Settles program settings
  | .signature type, _, _, _, h | .field type, _, _, _, h => option_settles hnamed type false h
  | .method signature, _, _, _, h => signature_settles hnamed signature h
  | .enumMember _, _, _, _, _ | .unsupported _ _, _, _, _, _ => nofun

end

/-! ### Declarations -/

/-- The type arguments of a wrapper are flattened where the wrapper is. -/
theorem wrapperArgs?_occurrences {type : TypeNode} {args : List TypeNode}
    (h : wrapperArgs? program settings type = some args) :
    typesOccurrences settings true args ⊆ typeOccurrences settings true type := by
  obtain ⟨form, location⟩ := type
  unfold wrapperArgs? at h
  split at h
  · next reference hform =>
    obtain rfl : form = .reference reference := hform
    obtain ⟨name, typeArgs, scope⟩ := reference
    obtain ⟨-, rfl⟩ := Option.ite_some_none_eq_some.mp h
    exact List.subset_append_right [Occurrence.reference ⟨name, typeArgs, scope⟩] _
  · next link hform =>
    obtain rfl : form = .imported link := hform
    obtain ⟨specifier, name, typeArgs, scope⟩ := link
    obtain ⟨-, rfl⟩ := Option.ite_some_none_eq_some.mp h
    exact List.subset_append_right [Occurrence.imported ⟨specifier, name, typeArgs, scope⟩] _
  · cases h

/-- A declaration that is described in full visits its heritage or its target
in full, and its members linked. All of these are occurrences in it. -/
theorem visitDeclaration_settles (hnamed : program.Named) {declaration : Declaration}
    (h : Free program settings (declaration.occurrences settings)) :
    ∀ visit ∈ visitDeclaration program settings true declaration.form,
      visit.Settles program settings := by
  intro visit hvisit
  unfold Declaration.occurrences at h
  cases hform : declaration.form with
  | typeAlias target =>
    rw [hform] at h hvisit
    simp only [visitDeclaration] at hvisit
    split at hvisit
    · -- The arguments of a wrapper are occurrences of the alias, although its target is
      -- not visited.
      next args hargs =>
      have hfree : Free program settings (typesOccurrences settings true args) :=
        fun occurrence hmem => h occurrence (wrapperArgs?_occurrences hargs hmem)
      exact visitTypes_settle (types_settle hnamed args true hfree).1 visit hvisit
    · exact List.mem_singleton.mp hvisit ▸ (type_settles hnamed target true h).1
  | interface heritage members =>
    rw [hform] at h hvisit
    rcases List.mem_append.mp hvisit with hvisit | hvisit
    · exact visitTypes_settle (types_settle hnamed heritage true h.left).1 visit hvisit
    · exact visitMembers_settle (members_settle hnamed members h.right) visit hvisit
  | classType heritage members =>
    rw [hform] at h hvisit
    rcases List.mem_append.mp hvisit with hvisit | hvisit
    · exact option_settles hnamed heritage true h.left visit hvisit
    · exact visitMembers_settle (members_settle hnamed members h.right) visit hvisit
  | enum members =>
    rw [hform] at h hvisit
    exact visitMembers_settle (members_settle hnamed members h) visit hvisit

/-- The use of a declaration settles if what the declaration flattens does.
An alias of a wrapper is not visited itself, but its arguments are. -/
theorem visitUse_settles (hnamed : program.Named) {declaration : Declaration}
    (h : Free program settings (declaration.occurrences settings)) :
    ∀ visit ∈ visitUse program settings declaration true, visit.Settles program settings := by
  have hnext := visitDeclaration_settles hnamed h
  have hself : Visit.Settles program settings ⟨.declaration declaration, true⟩ :=
    Visit.settles_of_next hnamed hnext
  intro visit hvisit
  unfold visitUse at hvisit
  split at hvisit
  · next target hform =>
    split at hvisit
    · next args hargs =>
      simp only [hform, visitDeclaration, hargs] at hnext
      exact hnext visit hvisit
    · exact List.mem_singleton.mp hvisit ▸ hself
  · exact List.mem_singleton.mp hvisit ▸ hself

/-- What a name denotes is declared by the program. -/
theorem declares_of_denotes {occurrence : Occurrence} {declaration : Declaration}
    (h : occurrence.denotes program declaration) : program.Declares declaration := by
  cases occurrence with
  | reference reference => exact Program.resolve_declares h
  | imported link =>
    obtain ⟨name, -, h⟩ := h
    exact Program.resolveImport_declares h

/-- Of finitely many declarations that never flatten themselves, each can be
left to the last of those that it flattens. -/
theorem wellFounded_flattens
    (hacyclic : program.FlattensAcyclically settings) :
    WellFounded fun second first : {declaration // program.Declares declaration} =>
      program.Flattens settings first.1 second.1 := by
  let r (second first : {declaration // program.Declares declaration}) : Prop :=
    program.Flattens settings first.1 second.1
  have hfinite : Finite {declaration // program.Declares declaration} :=
    (Program.finite_declares program).to_subtype
  -- On a finite type, a transitive relation without loops is well-founded.
  have htrans : IsTrans _ (Relation.TransGen r) := ⟨fun _ _ _ => Relation.TransGen.trans⟩
  have hirrefl : Std.Irrefl (Relation.TransGen r) := by
    refine ⟨fun declaration hcycle => hacyclic declaration.1 declaration.2 ?_⟩
    have hswapped := Relation.transGen_swap.mp hcycle
    exact hswapped.lift Subtype.val fun _ _ hstep => hstep
  have hwf : WellFounded (Relation.TransGen r) := Finite.wellFounded_of_trans_of_irrefl _
  have hsingle : Subrelation r (Relation.TransGen r) := fun hstep => .single hstep
  exact hsingle.wf hwf

/-- Each declaration settles where it is used in full. The induction is on the
declarations that it flattens: there is no cycle among them, and they are
finitely many, so it is well founded. -/
theorem use_settles_of_acyclic (hnamed : program.Named)
    (hacyclic : program.FlattensAcyclically settings)
    {declaration : Declaration} (hdeclares : program.Declares declaration) :
    ∀ visit ∈ visitUse program settings declaration true, visit.Settles program settings := by
  have hall : ∀ first : {declaration // program.Declares declaration},
      ∀ visit ∈ visitUse program settings first.1 true, visit.Settles program settings := by
    -- The induction hypothesis is about everything that `first` flattens.
    intro first
    induction first using (wellFounded_flattens hacyclic).induction with
    | _ first ih =>
      refine visitUse_settles hnamed fun occurrence hmem second hdenotes => ?_
      exact ih ⟨second, declares_of_denotes hdenotes⟩ ⟨occurrence, hmem, hdenotes⟩
  exact hall ⟨declaration, hdeclares⟩

/-! ### Whole descriptions -/

/-- Cycles of references do not need the limit on nested nodes. If declared
names are not empty and no declaration flattens itself, directly or through
others, then for every type, a reference to any declaration for one, there is
a number from which on no limit is exceeded by the description of the type at
a root with a name, however the properties, parameters and return types of
the program refer to one another. -/
theorem uncut_of_acyclic (hnamed : program.Named)
    (hacyclic : program.FlattensAcyclically settings)
    (type : TypeNode) :
    ∃ enough, ∀ limit ≥ enough, ∀ (ctx : Context) (owner : String),
      ctx.parentPath = "" → ctx.owner = some owner → owner ≠ "" →
        ∀ cut location,
          (describe program (settings.allowing limit) (.type type) ctx : Attempt Shape) ≠
            .error (.depthExceeded cut location) := by
  have hfree : Free program settings (typeOccurrences settings true type) :=
    fun occurrence _ declaration hdenotes =>
      use_settles_of_acyclic hnamed hacyclic (declares_of_denotes hdenotes)
  obtain ⟨enough, henough⟩ := (type_settles hnamed type true hfree).1.describe_uncut
  refine ⟨enough, fun limit hlimit ctx owner hroot howner hne => ?_⟩
  have hpath : ctx.basePath ≠ "" := by rwa [Context.basePath_of_owner hroot howner]
  exact henough limit hlimit ctx hpath (by simp [Context.expands, hroot])

/-- The interface `Owned`, with a property `owner` of type `User`. -/
def owned : Declaration where
  name := "Owned"
  form := .interface [] [
    { name := "owner", form := .signature (some ⟨.reference ⟨.identifier "User", [], 0⟩, {}⟩)
      isOptional := false, doc := {}, location := {} }]
  doc := {}
  scope := 0
  location := {}
  isGeneric := false

/-- The interface `User`, which extends `Owned` and has a property `friend`
of type `User`. -/
def user : Declaration where
  name := "User"
  form := .interface [⟨.reference ⟨.identifier "Owned", [], 0⟩, {}⟩] [
    { name := "friend", form := .signature (some ⟨.reference ⟨.identifier "User", [], 0⟩, {}⟩)
      isOptional := false, doc := {}, location := {} }]
  doc := {}
  scope := 0
  location := {}
  isGeneric := false

/-- The program of the two. -/
def owners : Program where
  modules := #[
    { path := ⟨true, ["app.ts"]⟩, declarations := [("Owned", owned), ("User", user)] }]

/-- The two declarations of the program. -/
theorem owners_declares {declaration : Declaration} (h : owners.Declares declaration) :
    declaration = owned ∨ declaration = user := by
  obtain ⟨scope, hscope, hentry⟩ := h
  obtain rfl : scope = owners.modules[0] := by simpa [owners] using hscope
  simpa [owners, Table.values] using hentry

/-- The only name that is flattened is that of the base of `User`. The
properties of either one are linked. -/
theorem owners_flattens {first second : Declaration} (hdeclares : owners.Declares first)
    (h : owners.Flattens {} first second) : first = user ∧ second = owned := by
  obtain ⟨occurrence, hmem, hdenotes⟩ := h
  rcases owners_declares hdeclares with rfl | rfl
  · exact absurd hmem List.not_mem_nil
  · obtain rfl := List.mem_singleton.mp hmem
    have hresolve : owners.resolve 0 (.identifier "Owned") = .declaration owned := rfl
    exact ⟨rfl, Resolved.declaration.inj (hdenotes.symm.trans hresolve)⟩

/-- So there is no cycle, though both have properties of type `User`. -/
theorem owners_acyclic : owners.FlattensAcyclically {} := by
  intro declaration hdeclares hcycle
  obtain ⟨second, hfirst, hrest⟩ := Relation.TransGen.head'_iff.mp hcycle
  obtain ⟨rfl, rfl⟩ := owners_flattens hdeclares hfirst
  -- `Owned` flattens nothing, so the cycle would have to end there.
  rcases Relation.ReflTransGen.cases_head hrest with heq | ⟨third, hsecond, -⟩
  · exact absurd (congrArg Declaration.name heq) (by decide)
  · have hdeclares : owners.Declares owned := ⟨owners.modules[0], by simp, .head _⟩
    exact absurd (congrArg Declaration.name (owners_flattens hdeclares hsecond).1) (by decide)

/-- A user has an owner and a friend, who are users, and there is a number of
levels from which on a user is described. -/
theorem uncut_of_acyclic_owners :
    ∃ enough, ∀ limit ≥ enough, ∀ cut location,
      (describe owners (({} : Settings).allowing limit)
          (.type ⟨.reference ⟨.identifier "User", [], 0⟩, {}⟩) (.root "User") : Attempt Shape) ≠
        .error (.depthExceeded cut location) := by
  have hnamed : owners.Named := by
    intro declaration hdeclares
    rcases owners_declares hdeclares with rfl | rfl <;> decide
  obtain ⟨enough, henough⟩ :=
    uncut_of_acyclic hnamed owners_acyclic ⟨.reference ⟨.identifier "User", [], 0⟩, {}⟩
  exact ⟨enough, fun limit hlimit =>
    henough limit hlimit (.root "User") "User" rfl rfl (by decide)⟩

end AppMetadata.Expansion
