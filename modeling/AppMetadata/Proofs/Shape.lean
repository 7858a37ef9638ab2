import AppMetadata.Shape

/-!
# `AppMetadata.Proofs.Shape`: the parts of a shape

`Shape.walk` visits a shape and everything below it. Here the part below is
split off (`descendants`), and both are reduced to the shapes that a shape
holds directly.

A description often hands on a shape with another place, another text or
another mark on it. What stays the same is the content of the shape
(`content`): its kind, its names and its parts.
-/

set_option autoImplicit false

namespace AppMetadata.Shape

/-- The shapes strictly below a shape: its properties, its arguments, its
return type, and all below those. -/
def descendants (shape : Shape) : List Shape :=
  walkAll shape.properties ++ walkAll shape.args ++ walkReturn shape.returnType

/-- A walk starts at the shape itself. -/
theorem walk_eq (shape : Shape) : shape.walk = shape :: shape.descendants := by
  cases shape
  rfl

/-- A walk through several shapes is one walk after another. -/
theorem walkAll_eq_flatMap (shapes : List Shape) : walkAll shapes = shapes.flatMap walk := by
  induction shapes with
  | nil => rfl
  | cons first rest ih => simp [walkAll, ih]

/-- What such a walk visits is visited by the walk of one of the shapes. -/
theorem mem_walkAll {n : Shape} {shapes : List Shape} :
    n ∈ walkAll shapes ↔ ∃ shape ∈ shapes, n ∈ shape.walk := by
  rw [walkAll_eq_flatMap, List.mem_flatMap]

/-- The same for a return type, if there is one. -/
theorem mem_walkReturn {n : Shape} {returnType : Option Shape} :
    n ∈ walkReturn returnType ↔ ∃ shape ∈ returnType, n ∈ shape.walk := by
  cases returnType <;> simp [walkReturn]

/-- What holds of everything below a shape holds of everything in its parts. -/
theorem forall_mem_descendants {P : Shape → Prop} {shape : Shape} :
    (∀ n ∈ shape.descendants, P n) ↔
      (∀ part ∈ shape.properties, ∀ n ∈ part.walk, P n) ∧
      (∀ part ∈ shape.args, ∀ n ∈ part.walk, P n) ∧
      (∀ part ∈ shape.returnType, ∀ n ∈ part.walk, P n) := by
  simp only [descendants, List.mem_append, mem_walkAll, mem_walkReturn, or_imp, forall_and,
    forall_exists_index, and_imp, and_assoc]
  constructor
  · rintro ⟨hproperties, hargs, hreturn⟩
    exact ⟨fun part hpart n hn => hproperties n part hpart hn,
      fun part hpart n hn => hargs n part hpart hn,
      fun part hpart n hn => hreturn n part hpart hn⟩
  · rintro ⟨hproperties, hargs, hreturn⟩
    exact ⟨fun n part hpart hn => hproperties part hpart n hn,
      fun n part hpart hn => hargs part hpart n hn,
      fun n part hpart hn => hreturn part hpart n hn⟩

/-- What holds of a whole shape holds of it and of everything in its parts. -/
theorem forall_mem_walk {P : Shape → Prop} {shape : Shape} :
    (∀ n ∈ shape.walk, P n) ↔
      P shape ∧
      (∀ part ∈ shape.properties, ∀ n ∈ part.walk, P n) ∧
      (∀ part ∈ shape.args, ∀ n ∈ part.walk, P n) ∧
      (∀ part ∈ shape.returnType, ∀ n ∈ part.walk, P n) := by
  rw [walk_eq, List.forall_mem_cons, forall_mem_descendants]

/-- What holds of all properties of a shape that has nothing else, and of
everything below them, holds of everything below the shape. -/
theorem forall_mem_descendants_of_properties {P : Shape → Prop} {shape : Shape}
    (h : ∀ part ∈ shape.properties, ∀ n ∈ part.walk, P n) (hargs : shape.args = [])
    (hreturn : shape.returnType = none) : ∀ n ∈ shape.descendants, P n :=
  forall_mem_descendants.mpr ⟨h, by simp [hargs], by simp [hreturn]⟩

/-! ### Induction on the parts -/

/-- A property is smaller than the shape that holds it. -/
theorem sizeOf_property {s part : Shape} (h : part ∈ s.properties) : sizeOf part < sizeOf s := by
  obtain ⟨⟩ := s
  have := List.sizeOf_lt_of_mem h
  simp only [mk.sizeOf_spec]
  dsimp only at this
  omega

/-- So is an argument. -/
theorem sizeOf_arg {s part : Shape} (h : part ∈ s.args) : sizeOf part < sizeOf s := by
  obtain ⟨⟩ := s
  have := List.sizeOf_lt_of_mem h
  simp only [mk.sizeOf_spec]
  dsimp only at this
  omega

/-- So is the return type. -/
theorem sizeOf_returnType {s part : Shape} (h : part ∈ s.returnType) : sizeOf part < sizeOf s := by
  obtain ⟨⟩ := s
  dsimp only at h
  cases h
  simp only [mk.sizeOf_spec, Option.some.sizeOf_spec]
  omega

/-- What holds of a shape if it holds of its parts holds of every shape. -/
@[elab_as_elim]
theorem induction_parts {P : Shape → Prop}
    (step : ∀ s : Shape, (∀ part ∈ s.properties, P part) → (∀ part ∈ s.args, P part) →
      (∀ part ∈ s.returnType, P part) → P s) (s : Shape) : P s :=
  step s (fun part _ => induction_parts step part) (fun part _ => induction_parts step part)
    (fun part _ => induction_parts step part)
termination_by sizeOf s
decreasing_by
  · exact sizeOf_property ‹_›
  · exact sizeOf_arg ‹_›
  · exact sizeOf_returnType ‹_›

/-! ### Content -/

/-- A shape without where its values stand and what is said about them. -/
def content (shape : Shape) : Shape where
  kind := shape.kind
  typeName := shape.typeName
  modelName := shape.modelName
  properties := shape.properties
  args := shape.args
  returnType := shape.returnType

section

variable {s t : Shape} (h : s.content = t.content)
include h

/-- Shapes of one content are of one kind. -/
theorem kind_congr : s.kind = t.kind := by
  show s.content.kind = t.content.kind
  rw [h]

/-- They have one name. -/
theorem typeName_congr : s.typeName = t.typeName := by
  show s.content.typeName = t.content.typeName
  rw [h]

/-- They have the same properties. -/
theorem properties_congr : s.properties = t.properties := by
  show s.content.properties = t.content.properties
  rw [h]

/-- And so the same shapes are below them. -/
theorem descendants_congr : s.descendants = t.descendants := by
  show s.content.descendants = t.content.descendants
  rw [h]

end

end AppMetadata.Shape
