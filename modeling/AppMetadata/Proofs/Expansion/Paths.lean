import AppMetadata.Proofs.Expansion.Rules
import AppMetadata.Proofs.Shape

/-!
# `AppMetadata.Proofs.Expansion.Paths`: where a shape stands

Below a property every shape is described in the context of its path. Most
steps of a walker make a shape that stands nowhere yet, which `placed` then
puts at the path; the others hand on the shape of a node below that was
described in the same place.

* `ownedBy_basePath`, `within_basePath`: the path below which a declaration
  has its parts.
* `content_placed`: the content of a shape does not depend on its place.
* `walkerWithin_places`: a shape stands at the parent path of its context, if
  there is one.
-/

set_option autoImplicit false

namespace AppMetadata

/-- The arguments of a model stand below a label, which may be empty. -/
theorem joinPath_args_ne_empty (label : String) : joinPath label "args" ≠ "" := by
  by_cases h : label = ""
  · simp [joinPath, h]
  · exact joinPath_ne_empty h "args"

namespace Context

variable {ctx : Context}

/-- Below a property the base path is the path of the property. -/
theorem basePath_of_parentPath (h : ctx.parentPath ≠ "") : ctx.basePath = ctx.parentPath := by
  simp [basePath, String.isEmpty_iff, h]

/-- At a root it is the owner. -/
theorem basePath_of_owner {name : String} (h : ctx.parentPath = "")
    (howner : ctx.owner = some name) :
    ctx.basePath = name := by
  simp [basePath, h, howner]

/-- Types are linked below a property, unless they become parts of another
type there. -/
theorem expands_eq_false : ctx.expands = false ↔ ctx.parentPath ≠ "" ∧ ctx.flattens = false := by
  simp [expands]

/-- A root is described in full. -/
theorem expands_of_root (h : ctx.parentPath = "") : ctx.expands = true := by
  simp [expands, h]

/-- A type without a declaration is called by its path below a property. -/
theorem anonymousName?_of_parentPath (h : ctx.parentPath ≠ "")
    (ofPath : String → Option String) : ctx.anonymousName? ofPath = ofPath ctx.parentPath := by
  simp [anonymousName?, h]

/-- At a root it is called by the name of the root. -/
theorem anonymousName?_of_root {owner name : String} {ofPath : String → Option String}
    (h : ctx.parentPath = "") (howner : ctx.owner = some owner)
    (hname : ctx.anonymousName? ofPath = some name) : name = owner := by
  unfold anonymousName? at hname
  rw [if_pos (by simp [h]), howner] at hname
  obtain ⟨hsome, -⟩ := Option.filter_eq_some_iff.mp hname
  exact Option.some.inj hsome.symm

/-- What stands below a path has it as its base path. -/
theorem below_basePath {path : String} (h : path ≠ "") : (ctx.below path).basePath = path :=
  basePath_of_parentPath h

/-- And it is linked there. -/
theorem below_expands {path : String} (h : path ≠ "") : (ctx.below path).expands = false := by
  simp [expands, below, h]

/-- What becomes part of another type is described in full, wherever that
stands. -/
theorem flattening_expands : ctx.flattening.expands = true := by
  simp [expands, flattening]

/-- The same if a wrapper asks for it. -/
theorem forced_expands (force : Bool) :
    expands { ctx with flattens := ctx.flattens || force } = (force || ctx.expands) := by
  cases force <;> simp [expands]

/-- There is a base path if there is a path or an owner with a name. -/
theorem basePath_ne_empty_iff :
    ctx.basePath ≠ "" ↔ ctx.parentPath ≠ "" ∨ ∃ owner, ctx.owner = some owner ∧ owner ≠ "" := by
  unfold basePath
  by_cases hpath : ctx.parentPath = ""
  · cases ctx.owner <;> simp [hpath]
  · simp [hpath]

/-- An owner that is there stays. -/
theorem ownedBy_basePath {name : String} (h : ctx.basePath ≠ "") :
    (ctx.ownedBy name).basePath = ctx.basePath := by
  obtain hpath | ⟨owner, howner, -⟩ := basePath_ne_empty_iff.mp h
  · rw [basePath_of_parentPath hpath]
    exact basePath_of_parentPath hpath
  · simp [basePath, ownedBy, howner]

/-- The parts of a declaration stand below its name, unless there is a path
for them or they become parts of another type. -/
theorem within_basePath {name : String} (h : ctx.basePath ≠ "") :
    (ctx.within name).basePath = ctx.basePath ∨
      (ctx.parentPath = "" ∧ ctx.flattens = false) ∧ (ctx.within name).basePath = name := by
  by_cases hpath : ctx.parentPath = ""
  · cases hflattens : ctx.flattens with
    | true =>
      obtain ⟨owner, howner, -⟩ := (basePath_ne_empty_iff.mp h).resolve_left (not_not.mpr hpath)
      exact .inl (by simp [basePath, within, hpath, hflattens, howner])
    | false => exact .inr ⟨⟨hpath, rfl⟩, by simp [basePath, within, hpath, hflattens]⟩
  · exact .inl ((basePath_of_parentPath hpath).symm ▸ basePath_of_parentPath hpath)

/-- An owner that is set only where there is none leaves the base path that
there is. -/
theorem ownedBy_basePath_ne_empty {name : String} (h : ctx.basePath ≠ "") :
    (ctx.ownedBy name).basePath ≠ "" := by
  rwa [ownedBy_basePath h]

/-- The parts of a declaration have a base path if its name is one. -/
theorem within_basePath_ne_empty {name : String} (hname : name ≠ "") (h : ctx.basePath ≠ "") :
    (ctx.within name).basePath ≠ "" := by
  rcases within_basePath h with hsame | ⟨-, hwithin⟩
  · rwa [hsame]
  · rwa [hwithin]

end Context

namespace Expansion

/-! ### Places and content -/

/-- Placing a shape gives it a path, which is no content. -/
theorem content_placed (ctx : Context) (shape : Shape) :
    (placed ctx shape).content = shape.content := by
  unfold placed
  split <;> rfl

/-- A member has the content of its type: it adds a name, a path, a comment and
whether it may be undefined. -/
theorem content_ofMember (member : Member) (path : String) (shape : Shape) :
    (ofMember member path shape).content = shape.content := rfl

/-- So does a parameter. -/
theorem content_ofParameter (param : Parameter) (path : String) (shape : Shape) :
    (ofParameter param path shape).content = shape.content := rfl

/-- A shape that stands at `path`, or nowhere yet. -/
def FreeOrAt (path : String) (s : Shape) : Prop :=
  s.propertyPath = "" ∨ s.propertyPath = path

/-- A shape that stands nowhere, or at the path already, stands there once it
is placed. -/
theorem placed_propertyPath {ctx : Context} {s : Shape} (hpath : ctx.parentPath ≠ "")
    (h : FreeOrAt ctx.parentPath s) : (placed ctx s).propertyPath = ctx.parentPath := by
  unfold placed
  cases h with
  | inl h => simp [h, Context.basePath_of_parentPath hpath]
  | inr h => simp [h, hpath, String.isEmpty_iff]

namespace Walker

/-- A walker whose shapes stand at the parent paths of their contexts. -/
def Places (w : Walker Attempt) : Prop :=
  ∀ {node ctx s}, ctx.parentPath ≠ "" → w.describe node ctx = .ok s →
    s.propertyPath = ctx.parentPath

variable {w : Walker Attempt} {node : Node} {ctx : Context} {s : Shape}

/-- What a walker makes itself has no place yet, and what it hands on was
described below the same path. -/
theorem Places.freeOrAt_of_made (hw : w.Places) (hpath : ctx.parentPath ≠ "")
    (h : w.Made node ctx s) : FreeOrAt ctx.parentPath s := by
  cases h with
  | primitive | value | link | nameOnly | literals | union | object | merged | body | enum
  | function => exact .inl rfl
  | same array nullable ht =>
    have hplace := hw hpath ht
    exact .inr hplace
  | target name ht => exact .inr (@hw _ (ctx.ownedBy name) _ hpath ht)
  | @named declaration t hdeclared ht =>
    have hplace := @hw _ (ctx.within declaration.name) _ hpath ht
    refine .inr ?_
    unfold ofDeclaration Shape.document
    split <;> exact hplace
  | model force modelName ht =>
    have hplace := @hw _ { ctx with flattens := ctx.flattens || force } _ hpath ht
    exact .inr hplace
  | modelWith force named location hwraps ht hs =>
    have hplace := @hw _ { ctx with flattens := ctx.flattens || force } _ hpath ht
    obtain ⟨shape, properties, -, -, -, rfl⟩ := spliceArgs_eq_ok.mp hs
    exact .inr hplace

end Walker

/-- Below a property every shape stands at the path of its context. -/
theorem walkerWithin_places (program : Program) (settings : Settings) (levels : Nat) :
    (walkerWithin program settings levels).Places := by
  induction levels with
  | zero => exact fun _ h => nomatch h
  | succ levels ih =>
    intro node ctx s hpath h
    obtain ⟨t, ht, rfl⟩ := made_of_describeWithin h
    exact placed_propertyPath hpath (Walker.Places.freeOrAt_of_made ih hpath ht)

end Expansion

end AppMetadata
