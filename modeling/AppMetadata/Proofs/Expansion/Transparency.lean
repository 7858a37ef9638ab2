import AppMetadata.Proofs.Expansion.Paths
import AppMetadata.Proofs.Expansion.Unions
import Mathlib.Logic.Relation

/-!
# `AppMetadata.Proofs.Expansion.Transparency`: what a transparent alias stands for

A transparent alias is followed where other names are only linked. The test
looks at the written types on the way, through arrays and nullable unions and
along at most eight names, and the description of the target starts the test
again at every name. `StandsFor` says what both of them find: a keyword.

* `isTransparent_iff`: a type is transparent if it stands for a keyword, with
  as many aliases on the way as there are hops.
* `isTransparent_of_cycle`: what leads to a cycle of aliases is not
  transparent.
* `StandsFor.presentOf_eq`: of a union that stands for a keyword, one
  alternative is left when nested unions are opened, and stands for it too.
* `plain_of_standsFor`: where types are linked, a type that stands for a
  keyword is described as a value of that kind or not at all.
-/

set_option autoImplicit false

namespace AppMetadata.Expansion

/-! ### The target of an alias -/

/-- The target of a plain alias. -/
def plainTarget? : Declaration → Option TypeNode
  | { form := .typeAlias target, isGeneric := false, .. } => some target
  | _ => none

/-- The target of the plain alias that a name was resolved to. -/
def resolvedTarget? : Resolved → Option TypeNode
  | .declaration declaration => plainTarget? declaration
  | _ => none

/-- What a reference is followed to depends on what its name denotes and on
nothing else. -/
theorem aliasTarget?_eq (program : Program) (reference : Reference) :
    aliasTarget? program reference =
      resolvedTarget? (program.resolve reference.scope reference.name) := by
  unfold aliasTarget? resolvedTarget? plainTarget?
  cases program.resolve reference.scope reference.name with
  | declaration declaration =>
    obtain ⟨_, form, _, _, _, isGeneric⟩ := declaration
    cases form <;> cases isGeneric <;> rfl
  | external | missing => rfl

/-- A plain alias is an alias of its target. -/
theorem form_of_plainTarget? {declaration : Declaration} {target : TypeNode}
    (h : plainTarget? declaration = some target) : declaration.form = .typeAlias target := by
  unfold plainTarget? at h
  split at h
  · exact congrArg _ (Option.some.inj h)
  · cases h

/-- A plain alias, behind a name that is no wrapper. -/
theorem aliasTarget?_eq_some {program : Program} {settings : Settings} {reference : Reference}
    {target : TypeNode} (h : aliasTarget? program reference = some target) :
    isWrapper program settings reference = false ∧
      ∃ declaration, program.resolve reference.scope reference.name = .declaration declaration ∧
        declaration.form = .typeAlias target ∧ declaration.isGeneric = false := by
  unfold aliasTarget? at h
  split at h
  · next halias =>
    cases h
    exact ⟨by simp [isWrapper, halias], _, halias, rfl, rfl⟩
  · cases h

/-! ### The keyword that a type stands for -/

/-- The alternatives that are values. Nested unions are among them. -/
def valuesOf (types : List TypeNode) : List TypeNode :=
  types.filter (!·.form.isAbsence)

/-- A type that stands for a keyword: the keyword itself, an array or a
nullable union of a type that stands for it, and the name of a plain alias
whose target does. The number is that of the names on the way. -/
inductive StandsFor (program : Program) : Nat → TypeNode → Keyword → Prop
  | keyword (keyword : Keyword) (location : Location) :
    StandsFor program 0 ⟨.keyword keyword, location⟩ keyword
  | array {hops : Nat} {element : TypeNode} {keyword : Keyword} (location : Location)
    (helement : StandsFor program hops element keyword) :
    StandsFor program hops ⟨.array element, location⟩ keyword
  | union {hops : Nat} {types : List TypeNode} {single : TypeNode} {keyword : Keyword}
    (location : Location) (hvalues : valuesOf types = [single])
    (hsingle : StandsFor program hops single keyword) :
    StandsFor program hops ⟨.union types, location⟩ keyword
  | named {hops : Nat} {reference : Reference} {target : TypeNode} {keyword : Keyword}
    (location : Location) (halias : aliasTarget? program reference = some target)
    (htarget : StandsFor program hops target keyword) :
    StandsFor program (hops + 1) ⟨.reference reference, location⟩ keyword

section

variable {program : Program} {settings : Settings} {hops more : Nat} {type target : TypeNode}
  {types : List TypeNode} {keyword : Keyword} {location : Location}

/-- A union is transparent if it has one value, absences apart, and that one
is. -/
theorem typeTransparent_union {follow : Reference → Bool} :
    typeTransparent follow ⟨.union types, location⟩ = true ↔
      ∃ single, valuesOf types = [single] ∧ typeTransparent follow single = true := by
  rw [typeTransparent, formTransparent, beq_iff_eq, Likeness.transparencies_eq_map,
    List.map_eq_singleton_iff]
  rfl

/-- If the names that are followed stand for keywords, so do transparent
types. -/
theorem standsFor_of_typeTransparent {follow : Reference → Bool}
    (hfollow : ∀ reference, follow reference = true → ∃ fewer target keyword, fewer < hops ∧
      aliasTarget? program reference = some target ∧ StandsFor program fewer target keyword) :
    ∀ type : TypeNode, typeTransparent follow type = true →
      ∃ fewer keyword, fewer ≤ hops ∧ StandsFor program fewer type keyword
  | ⟨.keyword keyword, location⟩, _ => ⟨0, keyword, Nat.zero_le hops, .keyword keyword location⟩
  | ⟨.array element, location⟩, h => by
    obtain ⟨fewer, keyword, hfewer, helement⟩ := standsFor_of_typeTransparent hfollow element h
    exact ⟨fewer, keyword, hfewer, .array location helement⟩
  | ⟨.union types, location⟩, h => by
    obtain ⟨single, hvalues, hsingle⟩ := typeTransparent_union.mp h
    have hmem : single ∈ types := by
      have : single ∈ valuesOf types := by simp [hvalues]
      exact (List.mem_filter.mp this).1
    -- The value is smaller than the union, which is why the recursion ends.
    have hsize := List.sizeOf_lt_of_mem hmem
    obtain ⟨fewer, keyword, hfewer, hstands⟩ := standsFor_of_typeTransparent hfollow single hsingle
    exact ⟨fewer, keyword, hfewer, .union location hvalues hstands⟩
  | ⟨.reference reference, location⟩, h => by
    obtain ⟨fewer, target, keyword, hfewer, halias, htarget⟩ := hfollow reference h
    exact ⟨fewer + 1, keyword, hfewer, .named location halias htarget⟩
  | ⟨.stringLiteral _, _⟩, h | ⟨.literal _, _⟩, h | ⟨.intersection _, _⟩, h | ⟨.object _, _⟩, h
  | ⟨.imported _, _⟩, h | ⟨.function _, _⟩, h | ⟨.unsupported _, _⟩, h => nomatch h
termination_by type => sizeOf type

/-- What stands for a keyword is found to be transparent with any number of
hops that is enough for the names on the way. -/
theorem StandsFor.isTransparent (h : StandsFor program hops type keyword) :
    ∀ more, hops ≤ more → isTransparent program more type = true := by
  induction h with
  | keyword keyword location =>
    intro more _
    cases more <;> rfl
  | array location _ ih =>
    intro more hmore
    have helement := ih more hmore
    cases more <;> exact helement
  | union location hvalues _ ih =>
    intro more hmore
    have hsingle := ih more hmore
    cases more <;> exact typeTransparent_union.mpr ⟨_, hvalues, hsingle⟩
  | named location halias _ ih =>
    intro more hmore
    obtain ⟨rest, rfl⟩ : ∃ rest, more = rest + 1 := ⟨more - 1, by omega⟩
    exact (Option.any_eq_true _ _).mpr ⟨_, halias, ih rest (by omega)⟩

/-- The transparent types are those that stand for a keyword, if there are
hops for the names on the way. -/
theorem isTransparent_iff :
    isTransparent program hops type = true ↔
      ∃ fewer keyword, fewer ≤ hops ∧ StandsFor program fewer type keyword := by
  constructor
  · intro h
    induction hops generalizing type with
    | zero => exact @standsFor_of_typeTransparent program 0 (fun _ => false) nofun type h
    | succ hops ih =>
      refine standsFor_of_typeTransparent (fun reference hfollow => ?_) type h
      obtain ⟨target, halias, htransparent⟩ := (Option.any_eq_true _ _).mp hfollow
      obtain ⟨fewer, keyword, hfewer, htarget⟩ := ih htransparent
      exact ⟨fewer, target, keyword, Nat.lt_succ_of_le hfewer, halias, htarget⟩
  · rintro ⟨fewer, keyword, hfewer, hstands⟩
    exact hstands.isTransparent hops hfewer

/-- More hops find no fewer transparent types. -/
theorem isTransparent_mono (hle : hops ≤ more) (h : isTransparent program hops type = true) :
    isTransparent program more type = true := by
  obtain ⟨fewer, keyword, hfewer, hstands⟩ := isTransparent_iff.mp h
  exact hstands.isTransparent more (hfewer.trans hle)

/-- What stands for a keyword is no model wrapper. -/
theorem StandsFor.wrapperArgs?_eq_none (h : StandsFor program hops type keyword) :
    wrapperArgs? program settings type = none := by
  cases h with
  | named location halias htarget => simp [wrapperArgs?, (aliasTarget?_eq_some halias).1]
  | _ => rfl

/-! ### Cycles of aliases -/

/-- Whether `type` stands for something depends on the target of one alias. -/
inductive Follows (program : Program) : TypeNode → TypeNode → Prop
  | array {element target : TypeNode} (location : Location)
    (helement : Follows program element target) : Follows program ⟨.array element, location⟩ target
  | union {types : List TypeNode} {single target : TypeNode} (location : Location)
    (hvalues : valuesOf types = [single]) (hsingle : Follows program single target) :
    Follows program ⟨.union types, location⟩ target
  | named {reference : Reference} {target : TypeNode} (location : Location)
    (halias : aliasTarget? program reference = some target) :
    Follows program ⟨.reference reference, location⟩ target

/-- The target stands for the same keyword, with one name less on the way. -/
theorem StandsFor.follows (h : StandsFor program hops type keyword)
    (hfollows : Follows program type target) :
    ∃ fewer, hops = fewer + 1 ∧ StandsFor program fewer target keyword := by
  induction hfollows generalizing hops with
  | array location _ ih =>
    cases h with
    | array _ helement => exact ih helement
  | union location hvalues _ ih =>
    cases h with
    | union _ hvalues' hsingle =>
      -- A union has one value at most that could count.
      obtain rfl := List.singleton_inj.mp (hvalues.symm.trans hvalues')
      exact ih hsingle
  | named location halias =>
    cases h with
    | named _ halias' htarget =>
      obtain rfl := Option.some.inj (halias.symm.trans halias')
      exact ⟨_, rfl, htarget⟩

/-- On a cycle, each time round would take names away from the same number. -/
theorem StandsFor.not_cycle (h : StandsFor program hops type keyword) :
    ¬Relation.TransGen (Follows program) type type := by
  induction hops using Nat.strong_induction_on generalizing type with
  | _ hops ih =>
    intro hcycle
    obtain ⟨target, hfirst, hrest⟩ := Relation.TransGen.head'_iff.mp hcycle
    obtain ⟨fewer, rfl, htarget⟩ := h.follows hfirst
    exact ih fewer (Nat.lt_succ_self fewer) htarget (Relation.TransGen.tail' hrest hfirst)

/-- A type that leads to a cycle of aliases is not transparent. -/
theorem isTransparent_of_cycle {loop : TypeNode}
    (hleads : Relation.ReflTransGen (Follows program) type loop)
    (hcycle : Relation.TransGen (Follows program) loop loop) :
    isTransparent program hops type = false := by
  refine Bool.eq_false_iff.mpr fun htransparent => ?_
  obtain ⟨fewer, keyword, -, hstands⟩ := isTransparent_iff.mp htransparent
  clear htransparent
  -- Along the way to the cycle every type stands for the keyword, the cycle included.
  induction hleads using Relation.ReflTransGen.head_induction_on generalizing fewer with
  | refl => exact hstands.not_cycle hcycle
  | head hfirst _ ih =>
    obtain ⟨fewer, -, htarget⟩ := hstands.follows hfirst
    exact ih fewer htarget

/-! ### Nested unions -/

/-- A type that is no union is its own only alternative. -/
theorem presentOf_of_other (hform : ∀ types, type.form ≠ .union types) :
    presentOf [type] = [type].filter (!·.form.isAbsence) := by
  rw [presentOf, alternativesOf, alternatives_of_other hform]
  rfl

/-- The alternatives of a list are those of its types, in order. -/
theorem presentOf_cons (type : TypeNode) (types : List TypeNode) :
    presentOf (type :: types) = presentOf [type] ++ presentOf types := by
  simp [presentOf, alternativesOf]

/-- A nested union adds the alternatives that it consists of. -/
theorem presentOf_union (types : List TypeNode) (location : Location) :
    presentOf [⟨.union types, location⟩] = presentOf types := by
  simp [presentOf, alternativesOf, TypeNode.alternatives, TypeForm.alternatives]

/-- What is opened are the values. -/
theorem presentOf_eq_flatMap (types : List TypeNode) :
    presentOf types = (valuesOf types).flatMap fun type => presentOf [type] := by
  induction types with
  | nil => rfl
  | cons type types ih =>
    rw [presentOf_cons, ih]
    cases habsence : type.form.isAbsence with
    | true =>
      have hnone : presentOf [type] = [] := by
        rw [presentOf_of_other fun types hunion => by simp [hunion, TypeForm.isAbsence] at habsence]
        simp [habsence]
      simp [valuesOf, habsence, hnone]
    | false => simp [valuesOf, habsence]

/-- A value that stands for a keyword comes to one alternative, which stands for
it as well. -/
theorem StandsFor.presentOf_eq (h : StandsFor program hops type keyword)
    (hvalue : type.form.isAbsence = false) :
    ∃ single, presentOf [type] = [single] ∧ StandsFor program hops single keyword := by
  induction h with
  | keyword keyword location =>
    refine ⟨_, ?_, .keyword keyword location⟩
    rw [presentOf_of_other fun _ hunion => by cases hunion]
    simp [hvalue]
  | array location helement => exact ⟨_, rfl, .array location helement⟩
  | named location halias htarget => exact ⟨_, rfl, .named location halias htarget⟩
  | @union _ types single _ location hvalues _ ih =>
    have hmem : single ∈ valuesOf types := by simp [hvalues]
    obtain ⟨last, hlast, hstands⟩ := ih (by simpa using (List.mem_filter.mp hmem).2)
    refine ⟨last, ?_, hstands⟩
    rw [presentOf_union, presentOf_eq_flatMap, hvalues, List.flatMap_singleton, hlast]

/-! ### What it is described as -/

/-- The kind of the values of a keyword. -/
def keywordKind? : Keyword → Option Kind
  | .number => some .number
  | .string => some .string
  | .boolean => some .boolean
  | .bigint => some .bigint
  | .null | .undefined | .other _ => none

/-- The kinds of keywords are primitive. -/
theorem isPrimitive_of_keywordKind? {kind : Kind} (h : keywordKind? keyword = some kind) :
    kind.isPrimitive = true := by
  cases keyword with
  | number | string | boolean | bigint => cases h; rfl
  | null | undefined | other => cases h

/-- The answers for a type that stands for a keyword. -/
inductive Plain (keyword : Keyword) : Attempt Shape → Prop
  /-- A value of that kind, without parts and without a name. -/
  | value {s : Shape} (hkind : keywordKind? keyword = some s.kind)
    (hproperties : s.properties = []) (hname : s.typeName = none) : Plain keyword (.ok s)
  | unsupported (location : Location) (details : String) :
    Plain keyword (.error (.unsupported location details))
  | depthExceeded (limit : Nat) (location : Location) :
    Plain keyword (.error (.depthExceeded limit location))

/-- Other marks do not matter. -/
theorem Plain.map {answer : Attempt Shape} (h : Plain keyword answer) {f : Shape → Shape}
    (hf : ∀ s, (f s).kind = s.kind ∧ (f s).properties = s.properties ∧
      (f s).typeName = s.typeName) : Plain keyword (do return f (← answer)) := by
  cases h with
  | @value s hkind hproperties hname =>
    obtain ⟨hfkind, hfproperties, hfname⟩ := hf s
    exact .value (hfkind ▸ hkind) (hfproperties.trans hproperties) (hfname.trans hname)
  | unsupported location details => exact .unsupported location details
  | depthExceeded limit location => exact .depthExceeded limit location

variable {ctx : Context}

/-- The name of a plain alias is followed if its target stands for a keyword,
since the hops start again at the target. Type arguments are refused. -/
theorem plain_of_describeReference {w : Walker Attempt} {reference : Reference}
    (hctx : ctx.expands = false) (halias : aliasTarget? w.program reference = some target)
    (htarget : StandsFor w.program hops target keyword) (hhops : hops ≤ maxAliasHops)
    (hplain : Plain keyword (w.describe (.type target) ctx)) :
    Plain keyword (w.describeReference reference location ctx) := by
  obtain ⟨hwrapper, declaration, hresolve, hform, hgeneric⟩ :=
    @aliasTarget?_eq_some w.program w.settings reference target halias
  have hfollowed := htarget.isTransparent maxAliasHops hhops
  have hmodel : wrapperArgs? w.program w.settings target = none := htarget.wrapperArgs?_eq_none
  have huse : w.describeUse declaration location ctx = w.describe (.type target) ctx := by
    simp only [Walker.describeUse, hform, hmodel, hctx, hfollowed, Bool.not_false, Bool.true_and,
      if_true]
  unfold Walker.describeReference
  simp only [hwrapper, hresolve, hgeneric, Bool.or_false, Bool.false_eq_true, if_false]
  split
  · exact .unsupported _ _
  · rwa [huse]

/-- Where types are linked, what stands for a keyword is described as a value
of its kind, whatever the number of levels, or not at all. -/
theorem plain_of_standsFor (hctx : ctx.expands = false) (levels : Nat)
    (h : StandsFor program hops type keyword) (hhops : hops ≤ maxAliasHops) :
    Plain keyword (describeWithin program settings levels (.type type) ctx) := by
  -- The induction is on the levels: at each name the type and its hops are new ones.
  induction levels generalizing hops type with
  | zero => exact .depthExceeded _ _
  | succ levels ih =>
    rw [describeWithin_succ]
    refine Plain.map ?_ fun s => ?_
    · show Plain keyword ((walkerWithin program settings levels).describeType type ctx)
      cases h with
      | keyword keyword location =>
        cases keyword with
        | number | string | boolean | bigint => exact .value rfl rfl rfl
        | null | undefined | other => exact .unsupported _ _
      | array location helement => exact (ih helement hhops).map fun s => ⟨rfl, rfl, rfl⟩
      | @union _ types single _ location hvalues hsingle =>
        -- One alternative is left, and the union is described as that one.
        obtain ⟨last, hlast, hstands⟩ := (StandsFor.union location hvalues hsingle).presentOf_eq rfl
        rw [presentOf_union] at hlast
        show Plain keyword (Walker.describeUnion _ types location ctx)
        rw [Walker.describeUnion, hlast]
        exact (ih hstands hhops).map fun s => ⟨rfl, rfl, rfl⟩
      | @named hops _ _ _ location halias htarget =>
        have hhops : hops ≤ maxAliasHops := Nat.le_of_succ_le hhops
        exact plain_of_describeReference hctx halias htarget hhops (ih htarget hhops)
    · rw [Shape.kind_congr (content_placed ctx s), Shape.properties_congr (content_placed ctx s),
        Shape.typeName_congr (content_placed ctx s)]
      exact ⟨rfl, rfl, rfl⟩

/-- A transparent type has the shape of a primitive value where types are
linked. -/
theorem describeWithin_isPrimitive {levels : Nat} {s : Shape} (hctx : ctx.expands = false)
    (hhops : hops ≤ maxAliasHops) (htransparent : isTransparent program hops type = true)
    (h : describeWithin program settings levels (.type type) ctx = .ok s) :
    s.kind.isPrimitive = true := by
  obtain ⟨fewer, keyword, hfewer, hstands⟩ := isTransparent_iff.mp htransparent
  have hplain := @plain_of_standsFor program settings _ _ _ _ hctx levels hstands
    (hfewer.trans hhops)
  rw [h] at hplain
  cases hplain with
  | value hkind => exact isPrimitive_of_keywordKind? hkind

end

end AppMetadata.Expansion
