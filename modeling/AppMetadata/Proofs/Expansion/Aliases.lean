import AppMetadata.Proofs.Expansion.Transparency
import AppMetadata.Proofs.Expansion.Visits

/-!
# `AppMetadata.Proofs.Expansion.Aliases`: which aliases are followed

Where types are linked, the name of an alias is followed if its target is
transparent, and is a link otherwise. The test starts again at each name, so it
is not the test of the whole type that decides about the names in it. The two
agree all the same.

* `describe_reference_links`: what is not followed is a link.
* `only_primitives_inlined`: what is followed is a primitive value, whose
  aliases lead to no cycle.
-/

set_option autoImplicit false

namespace AppMetadata.Expansion

section

variable {program : Program} {settings : Settings} {reference : Reference} {location : Location}
  {declaration : Declaration} {ctx : Context}

/-- A name that is not followed is a link, and nothing is described below it. -/
theorem describe_reference_links (hargs : reference.args = [])
    (hresolve : program.resolve reference.scope reference.name = .declaration declaration)
    (hplain : declaration.isGeneric = false) (hctx : ctx.expands = false)
    (hother : ∀ target, declaration.form = .typeAlias target →
      isTransparent program maxAliasHops target = false ∧
        wrapperArgs? program settings target = none)
    (huncut : (describe program settings (.type ⟨.reference reference, location⟩) ctx :
      Attempt Shape).Uncut) :
    (describe program settings (.type ⟨.reference reference, location⟩) ctx : Attempt Shape) =
      .ok { Shape.link declaration.name with propertyPath := ctx.parentPath } := by
  let w := walkerWithin program settings settings.maxDepth
  -- No node below is asked about, so any levels will do.
  have hnamed : w.describeNamed declaration ctx = .ok (.link declaration.name) := by
    unfold Walker.describeNamed
    rw [hctx]
    rfl
  have huse : w.describeUse declaration location ctx = .ok (.link declaration.name) := by
    refine Walker.describeUse_eq_ok.mpr (.inr (.inr ⟨fun target hform => ?_, hnamed⟩))
    obtain ⟨hfollowed, hmodel⟩ := hother target hform
    exact ⟨hmodel, fun _ => hfollowed⟩
  have hnode : w.describeNode (.type ⟨.reference reference, location⟩) ctx =
      .ok (.link declaration.name) := by
    -- A wrapper is generic or is not declared.
    have hwrapper : isWrapper program settings reference = false := by
      simp [isWrapper, hresolve, hplain]
    exact Walker.describeReference_eq_ok.mpr
      (.inr ⟨hwrapper, declaration, hresolve, hargs, hplain, huse⟩)
  have hpath : ctx.basePath = ctx.parentPath :=
    Context.basePath_of_parentPath (Context.expands_eq_false.mp hctx).1
  rw [describe_eq_of_uncut huncut, hnode, ← hpath]
  rfl

end

/-- Where types are linked, only primitive types are put in the place of a
name. A type that is transparent after some hops is so after fewer, and in
every context where types are linked it is described as a value of one kind,
without parts and name, unless it cannot be described or the walk is cut off.
The transparent types are those that stand for a keyword, with no more names on
the way than there are hops, so no type is transparent that leads to a cycle of
aliases. And a plain name of anything else, neither an alias of a transparent
type nor one of a model, is a link, unless the walk is cut off. -/
theorem only_primitives_inlined (program : Program) (settings : Settings) :
    (∀ (hop : Nat) (type : TypeNode), isTransparent program (maxAliasHops - hop) type = true →
      (∀ earlier ≤ hop, isTransparent program (maxAliasHops - earlier) type = true) ∧
      ∃ keyword, ∀ ctx : Context, ctx.expands = false →
        Plain keyword (describe program settings (.type type) ctx)) ∧
    (∀ (hops : Nat) (type : TypeNode), isTransparent program hops type = true ↔
      ∃ fewer keyword, fewer ≤ hops ∧ StandsFor program fewer type keyword) ∧
    (∀ type loop : TypeNode, Relation.ReflTransGen (Follows program) type loop →
      Relation.TransGen (Follows program) loop loop →
      ∀ hops, isTransparent program hops type = false) ∧
    (∀ (reference : Reference) (location : Location) (declaration : Declaration) (ctx : Context),
      reference.args = [] →
      program.resolve reference.scope reference.name = .declaration declaration →
      declaration.isGeneric = false → ctx.expands = false →
      (∀ target, declaration.form = .typeAlias target →
        isTransparent program maxAliasHops target = false ∧
          wrapperArgs? program settings target = none) →
      (describe program settings (.type ⟨.reference reference, location⟩) ctx :
        Attempt Shape).Uncut →
      (describe program settings (.type ⟨.reference reference, location⟩) ctx : Attempt Shape) =
        .ok { Shape.link declaration.name with propertyPath := ctx.parentPath }) := by
  refine ⟨fun hop type h => ⟨fun earlier hearlier => isTransparent_mono (by omega) h, ?_⟩,
    fun hops type => isTransparent_iff, fun type loop hleads hcycle hops =>
      isTransparent_of_cycle hleads hcycle, ?_⟩
  · -- The keyword does not depend on the context, so it is fixed first.
    obtain ⟨fewer, keyword, hfewer, hstands⟩ := isTransparent_iff.mp h
    refine ⟨keyword, fun ctx hctx => ?_⟩
    rw [describe_eq_describeWithin]
    exact plain_of_standsFor hctx settings.maxDepth hstands (by omega)
  · intro reference location declaration ctx hargs hresolve hplain hctx hother huncut
    exact describe_reference_links hargs hresolve hplain hctx hother huncut

/-- The name of a declaration of the one module. -/
def nameIn (name : String) : Reference :=
  ⟨.identifier name, [], 0⟩

/-- A declaration of the one module. -/
def declaredIn (name : String) (form : DeclarationForm) : Declaration where
  name := name
  form := form
  doc := {}
  scope := 0
  location := {}
  isGeneric := false

/-- `(Key | null)[]`. -/
def keyList : TypeNode :=
  ⟨.array ⟨.union [⟨.reference (nameIn "Key"), {}⟩, ⟨.keyword .null, {}⟩], {}⟩, {}⟩

/-- The name `Loop`. -/
def loopName : TypeNode :=
  ⟨.reference (nameIn "Loop"), {}⟩

/-- `Loop[]`. -/
def loopList : TypeNode :=
  ⟨.array loopName, {}⟩

/-- A module with `type Key = string`, `type Loop = Loop[]` and an interface
`Post`. -/
def linkedPosts : Program :=
  ⟨#[{ path := ⟨true, ["app.ts"]⟩
       declarations := [
         ("Key", declaredIn "Key" (.typeAlias ⟨.keyword .string, {}⟩)),
         ("Loop", declaredIn "Loop" (.typeAlias loopList)),
         ("Post", declaredIn "Post" (.interface [] []))] }]⟩

/-- A list of keys is followed, a list of lists of lists is not, and an
interface is linked. -/
theorem only_primitives_inlined_posts :
    let ctx : Context := { parentPath := "User.posts" }
    let post : TypeNode := ⟨.reference (nameIn "Post"), {}⟩
    (isTransparent linkedPosts (maxAliasHops - 7) keyList = true ∧
      (describe linkedPosts {} (.type keyList) ctx : Attempt Shape) =
        .ok { kind := .string, array := true, nullable := true, propertyPath := "User.posts" } ∧
      ∃ keyword, Plain keyword (describe linkedPosts {} (.type keyList) ctx)) ∧
    (Relation.ReflTransGen (Follows linkedPosts) loopName loopList ∧
      Relation.TransGen (Follows linkedPosts) loopList loopList ∧
      isTransparent linkedPosts maxAliasHops loopName = false) ∧
    (linkedPosts.resolve 0 (.identifier "Post") =
        .declaration (declaredIn "Post" (.interface [] [])) ∧
      ctx.expands = false ∧
      (describe linkedPosts {} (.type post) ctx : Attempt Shape).Uncut ∧
      (describe linkedPosts {} (.type post) ctx : Attempt Shape) =
        .ok { Shape.link "Post" with propertyPath := "User.posts" }) := by
  intro ctx post
  obtain ⟨hinlined, -, hcycles, hlinks⟩ := only_primitives_inlined linkedPosts {}
  have hkeys : isTransparent linkedPosts (maxAliasHops - 7) keyList = true := by decide
  have hfollows : Follows linkedPosts loopName loopList := .named {} rfl
  -- `Loop[]` leads to `Loop` through its element, and that back to `Loop[]`.
  have hcycle : Relation.TransGen (Follows linkedPosts) loopList loopList :=
    .single (.array {} hfollows)
  have hpost : (describe linkedPosts {} (.type post) ctx : Attempt Shape).Uncut := by
    rw [describe_eq_describeWithin]
    exact .pure _
  refine ⟨⟨hkeys, ?_, ?_⟩, ⟨.single hfollows, hcycle, ?_⟩, rfl, rfl, hpost, ?_⟩
  · rw [describe_eq_describeWithin]
    rfl
  · obtain ⟨keyword, hplain⟩ := (hinlined 7 keyList hkeys).2
    exact ⟨keyword, hplain ctx rfl⟩
  · exact hcycles _ _ (.single hfollows) hcycle _
  · exact hlinks _ _ _ ctx rfl rfl rfl rfl (fun target hform => by cases hform) hpost

end AppMetadata.Expansion
