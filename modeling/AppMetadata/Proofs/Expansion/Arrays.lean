import AppMetadata.Proofs.DepthLimit
import AppMetadata.Proofs.Expansion.Unions

/-!
# `AppMetadata.Proofs.Expansion.Arrays`: arrays that may be `null`

Beside `null`, a type is an alternative of a union, and a type that is a union
itself stands for its own alternatives there. An array of the type is described
in another way: beside `null` it is the only alternative, and the type is a
node of its own below it. Both ways lead to one shape, but for the mark that it
is an array.

* `describeWithin_of_alone`: the only alternative of a union has the shape of
  the union.
* `describeWithin_of_orNull`: what a type is beside `null`, it is without it.
* `describeWithin_array_orNull`: an array beside `null`.
* `describe_array_orNull`: the two together, for a walk with a limit.
-/

set_option autoImplicit false

namespace AppMetadata

/-- The union of a type and `null`. -/
def TypeNode.orNull (type : TypeNode) (null whole : Location) : TypeNode :=
  ⟨.union [type, ⟨.keyword .null, null⟩], whole⟩

namespace Expansion

/-! ### The only alternative of a union -/

namespace Walker

variable {w : Walker Attempt} {type : TypeNode} {location null whole : Location} {ctx : Context}

/-- A union of one value is that value. -/
theorem describeUnion_value (hunion : ∀ types, type.form ≠ .union types)
    (hvalue : type.form.isAbsence = false) :
    w.describeUnion [type] location ctx = w.describe (.type type) ctx := by
  have hopened : alternativesOf [type] = [type] := by
    rw [alternativesOf, alternatives_of_other hunion]
    rfl
  have hpresent : presentOf [type] = [type] := by
    rw [presentOf, hopened, List.filter_singleton, hvalue]
    rfl
  have hnull : admitNull [type] = false := by
    rw [admitNull, hopened, List.any_cons, List.any_nil, Bool.or_false, Bool.eq_false_iff]
    intro hnull
    rw [isNull_iff.mp hnull] at hvalue
    cases hvalue
  -- One alternative is left, and the flag is only raised by a `null`, which is not
  -- there.
  have hone : w.describeUnion [type] location ctx = (do
      let shape ← w.describe (.type type) ctx
      return { shape with nullable := shape.nullable || false }) := by
    unfold describeUnion
    rw [hpresent, hnull]
  rw [hone]
  cases w.describe (.type type) ctx with
  | error e => rfl
  | ok t =>
    show Except.ok { t with nullable := t.nullable || false } = Except.ok t
    rw [Bool.or_false]
    cases t
    rfl

/-- A union with `null` is nullable, and otherwise it is the union without. -/
theorem describeNode_orNull :
    w.describeNode (.type (type.orNull null whole)) ctx =
      (fun s => { s with nullable := true }) <$> w.describeUnion [type] whole ctx :=
  describeUnion_add_null rfl (.here [type] [])

end Walker

/-! ### Arrays and `null` -/

section

variable {program : Program} {settings : Settings} {levels : Nat} {type : TypeNode}
  {array location null whole : Location} {ctx : Context} {s : Shape}

/-- A change that leaves the path alone can be made before a shape is placed
or afterwards. -/
theorem placed_change {f : Shape → Shape}
    (hkept : ∀ shape, (f shape).propertyPath = shape.propertyPath)
    (hpath : ∀ shape path,
      f { shape with propertyPath := path } = { f shape with propertyPath := path })
    (ctx : Context) (shape : Shape) : placed ctx (f shape) = f (placed ctx shape) := by
  unfold placed
  rw [hkept]
  split
  · exact (hpath shape ctx.basePath).symm
  · rfl

/-- The only alternative of a union has the shape of the union. It may take a
level more, for an alternative that is a union itself. -/
theorem describeWithin_of_alone
    (h : (walkerWithin program settings levels).describeUnion [type] location ctx = .ok s) :
    describeWithin program settings (levels + 1) (.type type) ctx = .ok (placed ctx s) := by
  by_cases hunion : ∃ types, type.form = .union types
  · obtain ⟨form, inner⟩ := type
    obtain ⟨types, rfl⟩ := hunion
    -- A union around a union has the alternatives of that one.
    have hopened : alternativesOf [⟨.union types, inner⟩] = alternativesOf types :=
      List.append_nil _
    have hsame : NormalForm types (presentOf [⟨.union types, inner⟩])
        (admitNull [⟨.union types, inner⟩]) := by
      rw [normalForm_iff, presentOf, admitNull, hopened]
      exact ⟨rfl, rfl⟩
    have hunites := (Walker.describeUnion_eq_ok_iff (normalForm_iff.mpr ⟨rfl, rfl⟩)).mp h
    exact describeWithin_succ_eq_ok.mpr
      ⟨s, (Walker.describeUnion_eq_ok_iff hsame).mpr hunites, rfl⟩
  · -- Any other type is handed on as it is, if it is a value at all.
    rw [not_exists] at hunion
    cases hvalue : type.form.isAbsence with
    | true =>
      have hnone : NormalForm [type] [] (admitNull [type]) := by
        rw [normalForm_iff, presentOf, alternativesOf, alternatives_of_other hunion]
        simp [alternativesOf, hvalue]
      rw [Walker.describeUnion_of_none hnone] at h
      cases h
    | false =>
      rw [Walker.describeUnion_value hunion hvalue] at h
      rw [placed_of_describeWithin h]
      exact describeWithin_mono rfl (Nat.le_succ levels) h

/-- A type that is described beside `null` is described without it, and `null`
makes it nullable. -/
theorem describeWithin_of_orNull
    (h : describeWithin program settings (levels + 1) (.type (type.orNull null whole)) ctx =
      .ok s) :
    ∃ t, describeWithin program settings (levels + 1) (.type type) ctx = .ok t ∧
      s = { t with nullable := true } := by
  obtain ⟨t, ht, rfl⟩ := describeWithin_succ_eq_ok.mp h
  rw [Walker.describeNode_orNull, Attempt.map_eq_ok] at ht
  obtain ⟨u, hu, rfl⟩ := ht
  refine ⟨placed ctx u, describeWithin_of_alone hu, ?_⟩
  exact placed_change (f := fun s => { s with nullable := true }) (fun _ => rfl)
    (fun _ _ => rfl) ctx u

/-- An array of a type, beside `null`. -/
theorem describeWithin_array_orNull
    (h : describeWithin program settings levels (.type type) ctx = .ok s) :
    describeWithin program settings (levels + 2)
        (.type (TypeNode.orNull ⟨.array type, array⟩ null whole)) ctx =
      .ok { s with array := true, nullable := true } := by
  have helement : (walkerWithin program settings levels).describeNode
      (.type ⟨.array type, array⟩) ctx = .ok { s with array := true } :=
    Attempt.bind_eq_ok.mpr ⟨s, h, rfl⟩
  have harray : describeWithin program settings (levels + 1) (.type ⟨.array type, array⟩) ctx =
      .ok { s with array := true } := by
    refine describeWithin_succ_eq_ok.mpr ⟨_, helement, ?_⟩
    rw [placed_change (f := fun s => { s with array := true }) (fun _ => rfl) (fun _ _ => rfl),
      placed_of_describeWithin h]
  -- The array is the only alternative beside `null`.
  have halone : (walkerWithin program settings (levels + 1)).describeUnion [⟨.array type, array⟩]
      whole ctx = .ok { s with array := true } := by
    have hunion (types : List TypeNode) : (TypeForm.array type) ≠ .union types := nofun
    rw [Walker.describeUnion_value hunion rfl]
    exact harray
  have hnode : (walkerWithin program settings (levels + 1)).describeNode
      (.type (TypeNode.orNull ⟨.array type, array⟩ null whole)) ctx =
        .ok { s with array := true, nullable := true } := by
    rw [Walker.describeNode_orNull, halone]
    rfl
  refine describeWithin_succ_eq_ok.mpr ⟨_, hnode, ?_⟩
  rw [placed_change (f := fun s => { s with array := true, nullable := true })
    (fun _ => rfl) (fun _ _ => rfl), placed_of_describeWithin h]

end

/-- An array and `null` do not get in each other's way. If a type is described
beside `null`, an array of the type beside `null` has the same shape with the
mark that it is an array: the kind, the names, the paths, the properties and
all the rest are equal, whether or not the type is a union that `null` is put
into. The array takes two more levels at most, so the walk may be cut off; with
two more levels it is not. -/
theorem describe_array_orNull (program : Program) (settings : Settings) {type : TypeNode}
    {null whole : Location} (array null' whole' : Location) {ctx : Context} {s : Shape}
    (h : (describe program settings (.type (type.orNull null whole)) ctx : Attempt Shape) =
      .ok s) :
    let arrays : TypeNode := TypeNode.orNull ⟨.array type, array⟩ null' whole'
    s.nullable = true ∧
      CutOff settings.maxDepth (describe program settings (.type arrays) ctx)
        (.ok { s with array := true }) ∧
      ∀ limit, settings.maxDepth + 2 ≤ limit →
        (describe program (settings.allowing limit) (.type arrays) ctx : Attempt Shape) =
          .ok { s with array := true } := by
  intro arrays
  obtain ⟨levels, hlevels, h⟩ := describe_eq_ok.mp h
  obtain ⟨t, ht, rfl⟩ := describeWithin_of_orNull h
  have harrays : describeWithin program settings (settings.maxDepth + 2) (.type arrays) ctx =
      .ok { t with array := true, nullable := true } := by
    rw [hlevels]
    exact describeWithin_array_orNull ht
  exact ⟨rfl, cutOff_of_describeWithin (Nat.le_add_right settings.maxDepth 2) harrays⟩

/-- `"open" | "closed"`. -/
def doorState : TypeNode :=
  ⟨.union [⟨.stringLiteral "open", {}⟩, ⟨.stringLiteral "closed", {}⟩], {}⟩

/-- A door may be open or closed, or nobody knows. -/
def doorStateShape : Shape where
  kind := .enum
  typeName := some "DoorStateEnum"
  propertyPath := "Door.state"
  nullable := true
  properties := [literalProperty "Door.state" "open", literalProperty "Door.state" "closed"]

/-- `null` joins the literals of one union, and stands apart from the array. -/
theorem describe_array_orNull_door :
    let ctx : Context := { parentPath := "Door.state" }
    let arrays : TypeNode := TypeNode.orNull ⟨.array doorState, {}⟩ {} {}
    (describe ⟨#[]⟩ {} (.type (doorState.orNull {} {})) ctx : Attempt Shape) =
        .ok doorStateShape ∧
      (describe ⟨#[]⟩ (({} : Settings).allowing 300) (.type arrays) ctx : Attempt Shape) =
        .ok { doorStateShape with array := true } := by
  intro ctx arrays
  have hstate : (describe ⟨#[]⟩ {} (.type (doorState.orNull {} {}))
      { parentPath := "Door.state" } : Attempt Shape) = .ok doorStateShape := by
    rw [describe_eq_describeWithin]
    rfl
  obtain ⟨-, -, hdeeper⟩ := describe_array_orNull ⟨#[]⟩ {} {} {} {} hstate
  exact ⟨hstate, hdeeper 300 (by decide)⟩

end Expansion

end AppMetadata
