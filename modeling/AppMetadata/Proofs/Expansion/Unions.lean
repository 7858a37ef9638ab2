import AppMetadata.Proofs.Expansion.Inversion

/-!
# `AppMetadata.Proofs.Expansion.Unions`: what a union amounts to

A union can be written in many ways: its alternatives may stand in nested
unions, and `null` and `undefined` anywhere among them. What counts is its
normal form (`NormalForm`): the alternatives besides `null` and `undefined`, in
order, and whether `null` is one of them. The normal form is told by a relation
that opens nested unions (`Opens`), and not by the functions that a walker uses.

* `normalForm_iff`: the functions compute the normal form.
* `Walker.describeUnion_of_normalForm`: a walker looks at nothing else.
* `Walker.describeUnion_eq_ok_iff`: when it describes a union, and the three
  shapes that come of it (`Walker.Unites`).
* `Walker.describeUnion_add_null`, `Walker.describeUnion_add_undefined`: one
  `null` or `undefined` more.
* `Walker.union_depends_on_normalForm`: all of this together.
-/

set_option autoImplicit false

namespace AppMetadata

/-! ### Alternatives -/

/-- `opened` are the alternatives of a union of `types`: a nested union stands
for its own alternatives, which are opened in turn. -/
inductive Opens : List TypeNode → List TypeNode → Prop
  | nil : Opens [] []
  | union {types inner rest more : List TypeNode} {location : Location}
    (hinner : Opens types inner) (hrest : Opens rest more) :
    Opens (⟨.union types, location⟩ :: rest) (inner ++ more)
  | other {type : TypeNode} {rest more : List TypeNode} (hform : ∀ types, type.form ≠ .union types)
    (hrest : Opens rest more) : Opens (type :: rest) (type :: more)

/-- A type that is no union is its own alternative. -/
theorem alternatives_of_other {type : TypeNode} (hform : ∀ types, type.form ≠ .union types) :
    type.alternatives = [type] := by
  obtain ⟨form, location⟩ := type
  cases form with
  | union types => exact absurd rfl (hform types)
  | _ => rfl

/-- The alternatives of two lists in a row. -/
theorem alternativesOf_append (types types' : List TypeNode) :
    alternativesOf (types ++ types') = alternativesOf types ++ alternativesOf types' := by
  induction types with
  | nil => rfl
  | cons type types ih =>
    rw [List.cons_append, alternativesOf, alternativesOf, ih, List.append_assoc]

mutual

/-- A type in front of a list is opened to its own alternatives. -/
theorem opens_alternatives :
    (type : TypeNode) → (rest more : List TypeNode) → Opens rest more →
      Opens (type :: rest) (type.alternatives ++ more)
  | ⟨form, location⟩, rest, more, hrest => opens_formAlternatives location form rest more hrest

/-- By its form: a union is opened, and anything else is left as it is. -/
theorem opens_formAlternatives (location : Location) :
    (form : TypeForm) → (rest more : List TypeNode) → Opens rest more →
      Opens (⟨form, location⟩ :: rest) (form.alternatives ⟨form, location⟩ ++ more)
  | form, rest, more, hrest => by
    cases form with
    | union types => exact .union (opens_alternativesOf types) hrest
    | _ => exact .other (fun types hform => nomatch hform) hrest

/-- A list is opened to the alternatives of all of its types. -/
theorem opens_alternativesOf : (types : List TypeNode) → Opens types (alternativesOf types)
  | [] => .nil
  | type :: types => opens_alternatives type types _ (opens_alternativesOf types)

end

/-- Every union can be opened, and in one way. -/
theorem opens_iff {types opened : List TypeNode} :
    Opens types opened ↔ opened = alternativesOf types := by
  constructor
  · intro h
    induction h with
    | nil => rfl
    | union _ _ hinner hrest =>
      rw [alternativesOf, hinner, hrest]
      rfl
    | other hform _ hrest =>
      rw [alternativesOf, alternatives_of_other hform, hrest]
      rfl
  · rintro rfl
    exact opens_alternativesOf types

/-! ### The normal form -/

/-- What a union of `types` amounts to: its alternatives other than `null` and
`undefined`, in order, and whether `null` is an alternative. -/
structure NormalForm (types present : List TypeNode) (nullable : Bool) : Prop where
  present : ∃ opened, Opens types opened ∧ opened.filter (!·.form.isAbsence) = present
  nullable : nullable = true ↔ ∃ opened, Opens types opened ∧ ∃ type ∈ opened,
    type.form = .keyword .null

/-- The test for `null` is for that keyword and no other. -/
theorem isNull_iff {form : TypeForm} : form.isNull = true ↔ form = .keyword .null := by
  unfold TypeForm.isNull
  split
  · exact iff_of_true rfl rfl
  · next hform => exact iff_of_false Bool.false_ne_true hform

/-- The normal form is what the code computes: the alternatives that are
values, and whether `null` is among the others. -/
theorem normalForm_iff {types present : List TypeNode} {nullable : Bool} :
    NormalForm types present nullable ↔
      present = presentOf types ∧ nullable = admitNull types := by
  have hnull : admitNull types = true ↔ ∃ opened, Opens types opened ∧ ∃ type ∈ opened,
      type.form = .keyword .null := by
    simp only [opens_iff, exists_eq_left, admitNull, List.any_eq_true, isNull_iff]
  constructor
  · rintro ⟨⟨opened, hopened, hpresent⟩, hnullable⟩
    rw [opens_iff] at hopened
    subst hopened
    exact ⟨hpresent.symm, Bool.eq_iff_iff.mpr (hnullable.trans hnull.symm)⟩
  · rintro ⟨rfl, rfl⟩
    exact ⟨⟨_, opens_alternativesOf types, rfl⟩, hnull⟩

/-! ### One alternative more -/

/-- `types'` are `types` and one alternative more: beside the others, or inside
of a nested union at any depth, or as a new union with one of the others. -/
inductive Added (extra : TypeNode) : List TypeNode → List TypeNode → Prop
  | here (before after : List TypeNode) : Added extra (before ++ after) (before ++ extra :: after)
  | beside (before after : List TypeNode) (type : TypeNode) (location : Location) :
    Added extra (before ++ type :: after) (before ++ ⟨.union [type, extra], location⟩ :: after)
  | within {types types' : List TypeNode} (before after : List TypeNode) (location : Location)
    (h : Added extra types types') :
    Added extra (before ++ ⟨.union types, location⟩ :: after)
      (before ++ ⟨.union types', location⟩ :: after)

/-- Wherever it is added, it is one of the alternatives afterwards, and the
others keep their order. -/
theorem Added.alternativesOf_eq {extra : TypeNode} {types types' : List TypeNode}
    (h : Added extra types types') (hextra : ∀ inner, extra.form ≠ .union inner) :
    ∃ before after, alternativesOf types = before ++ after ∧
      alternativesOf types' = before ++ extra :: after := by
  induction h with
  | here before after =>
    refine ⟨alternativesOf before, alternativesOf after, alternativesOf_append before after, ?_⟩
    rw [alternativesOf_append, alternativesOf, alternatives_of_other hextra]
    rfl
  | beside before after type location =>
    refine ⟨alternativesOf before ++ type.alternatives, alternativesOf after, ?_, ?_⟩
    · rw [alternativesOf_append, alternativesOf, List.append_assoc]
    · have hnew : alternativesOf [type, extra] = type.alternatives ++ [extra] := by
        rw [alternativesOf, alternativesOf, alternatives_of_other hextra]
        rfl
      rw [alternativesOf_append, alternativesOf]
      show _ ++ (alternativesOf [type, extra] ++ _) = _
      rw [hnew]
      simp
  | within before after location _ ih =>
    obtain ⟨first, last, htypes, htypes'⟩ := ih
    -- What stands before and after the nested union stays outside of it.
    refine ⟨alternativesOf before ++ first, last ++ alternativesOf after, ?_, ?_⟩
    · rw [alternativesOf_append, alternativesOf]
      show _ ++ (alternativesOf _ ++ _) = _
      rw [htypes]
      simp
    · rw [alternativesOf_append, alternativesOf]
      show _ ++ (alternativesOf _ ++ _) = _
      rw [htypes']
      simp

section

variable {extra : TypeNode} {types types' : List TypeNode} (h : Added extra types types')
include h

/-- `null` and `undefined` are no values, wherever they stand. -/
theorem Added.presentOf_eq (habsent : extra.form.isAbsence = true) :
    presentOf types' = presentOf types := by
  have hextra (inner : List TypeNode) : extra.form ≠ .union inner := by
    intro hform
    rw [hform] at habsent
    cases habsent
  obtain ⟨before, after, htypes, htypes'⟩ := h.alternativesOf_eq hextra
  rw [presentOf, presentOf, htypes, htypes', List.filter_append, List.filter_append,
    List.filter_cons_of_neg (by simp [habsent])]

/-- One alternative more makes a union nullable exactly if it is `null`. -/
theorem Added.admitNull_eq (hextra : ∀ inner, extra.form ≠ .union inner) :
    admitNull types' = (extra.form.isNull || admitNull types) := by
  obtain ⟨before, after, htypes, htypes'⟩ := h.alternativesOf_eq hextra
  rw [admitNull, admitNull, htypes, htypes', List.any_append, List.any_append, List.any_cons,
    Bool.or_left_comm]

end

namespace Expansion

/-! ### Unions of string literals -/

/-- The literals of a union that has no other alternatives. -/
theorem mapM_stringLiteral?_eq_some {types : List TypeNode} {literals : List String} :
    types.mapM (·.form.stringLiteral?) = some literals ↔
      types.map (·.form) = literals.map .stringLiteral := by
  induction types generalizing literals with
  | nil => cases literals <;> simp
  | cons type types ih =>
    have hliteral (literal : String) :
        type.form.stringLiteral? = some literal ↔ type.form = .stringLiteral literal := by
      cases type.form <;> simp [TypeForm.stringLiteral?]
    cases literals with
    | nil =>
      -- There are as many answers as types, so neither side holds.
      simp only [List.mapM_cons, Option.bind_eq_bind, Option.bind_eq_some_iff, Option.pure_def,
        Option.some.injEq, List.map_cons, List.map_nil, reduceCtorEq, and_false, exists_false]
    | cons literal literals =>
      simp only [List.mapM_cons, Option.bind_eq_bind, Option.bind_eq_some_iff, hliteral,
        Option.pure_def, Option.some.injEq, List.cons.injEq, List.map_cons, ← ih]
      constructor
      · rintro ⟨_, hform, _, hrest, rfl, rfl⟩
        exact ⟨hform, hrest⟩
      · rintro ⟨hform, hrest⟩
        exact ⟨literal, hform, literals, hrest, rfl, rfl⟩

/-- Entry by entry, the shapes of types with their positions. -/
theorem forall₂_zipIdx_iff {α β : Type} {R : α → Nat → β → Prop} {as : List α} {bs : List β} :
    List.Forall₂ (fun (entry : α × Nat) b => R entry.1 entry.2 b) as.zipIdx bs ↔
      as.length = bs.length ∧
        ∀ (index : Nat) (a : α) (b : β), as[index]? = some a → bs[index]? = some b →
          R a index b := by
  simp only [List.forall₂_iff_get, List.length_zipIdx, List.get_eq_getElem, List.getElem_zipIdx,
    Nat.zero_add]
  refine and_congr_right fun hlength => ?_
  constructor
  · intro h index a b ha hb
    obtain ⟨hindex, rfl⟩ := List.getElem?_eq_some_iff.mp ha
    obtain ⟨hindex', rfl⟩ := List.getElem?_eq_some_iff.mp hb
    exact h index hindex hindex'
  · intro h index hindex hindex'
    exact h index _ _ (List.getElem?_eq_getElem hindex) (List.getElem?_eq_getElem hindex')

namespace Walker

/-! ### The shape of a union -/

/-- `t` is the shape of an alternative, at the path of its position in the
union. -/
def DescribesAt (w : Walker Attempt) (ctx : Context) (type : TypeNode) (index : Nat)
    (t : Shape) : Prop :=
  w.describe (.type type) (ctx.below (joinPath ctx.basePath (toString index))) = .ok t

/-- The shapes that a union with the normal form `present` and `nullable` can
have in `ctx`. -/
inductive Unites (w : Walker Attempt) (ctx : Context) (nullable : Bool) :
    List TypeNode → Shape → Prop
  /-- One alternative stands for the union, which may make it nullable. -/
  | single {type : TypeNode} {t : Shape} (ht : w.describe (.type type) ctx = .ok t) :
    Unites w ctx nullable [type] { t with nullable := t.nullable || nullable }
  /-- String literals and nothing else make an enum. -/
  | literals {present : List TypeNode} {literals : List String} {name : String}
    (htwo : 2 ≤ present.length) (hliterals : present.map (·.form) = literals.map .stringLiteral)
    (hvalues : ∀ literal ∈ literals, isEnumValue literal = true)
    (hname : ctx.anonymousName? enumName? = some name) :
    Unites w ctx nullable present
      { kind := .enum, typeName := some name, nullable
        properties := literals.map (literalProperty ctx.basePath) }
  /-- Other alternatives make a union, each at the path of its position. -/
  | mixed {present : List TypeNode} {properties : List Shape} {name : String}
    (htwo : 2 ≤ present.length)
    (hmixed : ∀ literals : List String, present.map (·.form) ≠ literals.map .stringLiteral)
    (hlength : present.length = properties.length)
    (hproperties : ∀ (index : Nat) (type : TypeNode) (t : Shape), present[index]? = some type →
      properties[index]? = some t → w.DescribesAt ctx type index t)
    (hname : ctx.anonymousName? unionName? = some name) :
    Unites w ctx nullable present { kind := .union, typeName := some name, nullable, properties }

/-- Unions with one normal form are described alike, by whatever walker. -/
theorem describeUnion_of_normalForm {m : Type → Type} [Monad m] [MonadExceptOf ExtractionError m]
    (w : Walker m) {types types' present : List TypeNode} {nullable : Bool}
    (h : NormalForm types present nullable) (h' : NormalForm types' present nullable)
    (location : Location) (ctx : Context) :
    w.describeUnion types location ctx = w.describeUnion types' location ctx := by
  obtain ⟨hpresent, hnullable⟩ := normalForm_iff.mp h
  obtain ⟨hpresent', hnullable'⟩ := normalForm_iff.mp h'
  unfold describeUnion
  rw [← hpresent, ← hpresent', ← hnullable, ← hnullable']

variable {w : Walker Attempt} {types types' present : List TypeNode} {nullable : Bool}
  {location : Location} {ctx : Context} {s : Shape}

/-- Two alternatives or more, up to what `null` says. -/
theorem describeAlternatives_eq_ok_iff (htwo : 2 ≤ present.length) :
    (∃ t, w.describeAlternatives present location ctx = .ok t ∧
      s = { t with nullable := nullable }) ↔ Unites w ctx nullable present s := by
  constructor
  · -- Only if all alternatives are literals they make an enum, and otherwise a union.
    rintro ⟨t, ht, rfl⟩
    rcases describeAlternatives_eq_ok.mp ht with ⟨literals, hliterals, ht⟩ | ⟨hnone, ht⟩
    · obtain ⟨name, hname, hvalues, rfl⟩ := literalEnum_eq_ok.mp ht
      exact .literals htwo (mapM_stringLiteral?_eq_some.mp hliterals) hvalues hname
    · obtain ⟨name, properties, hname, hproperties, rfl⟩ := mixedUnion_eq_ok.mp ht
      obtain ⟨hlength, hat⟩ := (forall₂_zipIdx_iff (R := w.DescribesAt ctx)).mp hproperties
      refine .mixed htwo (fun literals hliterals => ?_) hlength hat hname
      rw [mapM_stringLiteral?_eq_some.mpr hliterals] at hnone
      cases hnone
  · intro h
    cases h with
    | single => simp at htwo
    | @literals _ literals name _ hliterals hvalues hname =>
      have ht : (literalEnum literals location ctx : Attempt Shape) = _ :=
        literalEnum_eq_ok.mpr ⟨name, hname, hvalues, rfl⟩
      exact ⟨_, describeAlternatives_eq_ok.mpr
        (.inl ⟨literals, mapM_stringLiteral?_eq_some.mpr hliterals, ht⟩), rfl⟩
    | @mixed _ properties name _ hmixed hlength hat hname =>
      have hnone : present.mapM (·.form.stringLiteral?) = none := by
        refine Option.eq_none_iff_forall_ne_some.mpr fun literals hliterals => ?_
        exact hmixed literals (mapM_stringLiteral?_eq_some.mp hliterals)
      have hall := (forall₂_zipIdx_iff (R := w.DescribesAt ctx)).mpr ⟨hlength, hat⟩
      have ht : w.mixedUnion present location ctx = _ :=
        mixedUnion_eq_ok.mpr ⟨name, properties, hname, hall, rfl⟩
      exact ⟨_, describeAlternatives_eq_ok.mpr (.inr ⟨hnone, ht⟩), rfl⟩

/-- A union is described exactly if it has one of the three shapes, which its
normal form decides. -/
theorem describeUnion_eq_ok_iff (h : NormalForm types present nullable) :
    w.describeUnion types location ctx = .ok s ↔ Unites w ctx nullable present s := by
  obtain ⟨rfl, rfl⟩ := normalForm_iff.mp h
  rw [describeUnion_eq_ok]
  -- A single alternative has its own shape; without any there is none.
  by_cases htwo : 2 ≤ (presentOf types).length
  · rw [← describeAlternatives_eq_ok_iff htwo]
    constructor
    · rintro (⟨single, t, hsingle, -⟩ | ⟨-, ht⟩)
      · rw [hsingle] at htwo
        exact absurd htwo (by simp)
      · exact ht
    · exact fun ht => .inr ⟨htwo, ht⟩
  · constructor
    · rintro (⟨single, t, hsingle, ht, rfl⟩ | ⟨htwo', -⟩)
      · rw [hsingle]
        exact .single ht
      · exact absurd htwo' htwo
    · intro hunites
      generalize hpresent : presentOf types = present at hunites htwo
      cases hunites with
      | single ht => exact .inl ⟨_, _, rfl, ht, rfl⟩
      | literals htwo' | mixed htwo' => exact absurd htwo' htwo

/-- A union of `null` and `undefined` alone has no shape. -/
theorem describeUnion_of_none (h : NormalForm types [] nullable) :
    w.describeUnion types location ctx = .error (.emptyUnion location) := by
  unfold describeUnion
  rw [← (normalForm_iff.mp h).1]
  rfl

/-! ### One alternative more -/

/-- With `null` added, a union is nullable and otherwise what it was. A union
that is not described still fails in the same way. -/
theorem describeUnion_add_null {null : TypeNode} (hnull : null.form = .keyword .null)
    (h : Added null types types') :
    w.describeUnion types' location ctx =
      (fun s => { s with nullable := true }) <$> w.describeUnion types location ctx := by
  have hpresent : presentOf types' = presentOf types := h.presentOf_eq (by rw [hnull]; rfl)
  have hadmit : admitNull types' = true := by
    rw [h.admitNull_eq fun inner hform => by simp [hform] at hnull, hnull]
    rfl
  unfold describeUnion
  rw [hpresent, hadmit]
  split
  · rfl
  · next single _ =>
    cases w.describe (.type single) ctx with
    | error e => rfl
    | ok t =>
      show Except.ok { t with nullable := t.nullable || true } =
        Except.ok { t with nullable := true }
      rw [Bool.or_true]
  · cases w.describeAlternatives (presentOf types) location ctx <;> rfl

/-- An `undefined` that is added says nothing. -/
theorem describeUnion_add_undefined {undefined : TypeNode}
    (hundefined : undefined.form = .keyword .undefined) (h : Added undefined types types') :
    w.describeUnion types' location ctx = w.describeUnion types location ctx := by
  have hpresent : presentOf types' = presentOf types := h.presentOf_eq (by rw [hundefined]; rfl)
  have hadmit : admitNull types' = admitNull types := by
    rw [h.admitNull_eq fun inner hform => by simp [hform] at hundefined, hundefined]
    rfl
  unfold describeUnion
  rw [hpresent, hadmit]

/-- A union depends only on its normal form, which it always has. Unions with
one normal form have one answer, a shape or a failure, from every walker. The
normal form decides which shape it is: that of a single alternative, an enum of
string literals, or a union whose alternatives stand at the paths of their
positions; and without any alternative there is none. So `null`, wherever it is
added, makes the answer nullable and changes nothing else, and `undefined`
changes nothing. -/
theorem union_depends_on_normalForm (w : Walker Attempt) (types types' : List TypeNode)
    (location : Location) (ctx : Context) :
    (∃ present nullable, NormalForm types present nullable) ∧
    (∀ present nullable, NormalForm types present nullable →
      (NormalForm types' present nullable →
        ∀ {m : Type → Type} [Monad m] [MonadExceptOf ExtractionError m] (v : Walker m),
          v.describeUnion types' location ctx = v.describeUnion types location ctx) ∧
      (∀ s, w.describeUnion types location ctx = .ok s ↔ w.Unites ctx nullable present s) ∧
      (present = [] → w.describeUnion types location ctx = .error (.emptyUnion location))) ∧
    (∀ null : TypeNode, null.form = .keyword .null → Added null types types' →
      w.describeUnion types' location ctx =
        (fun s => { s with nullable := true }) <$> w.describeUnion types location ctx) ∧
    (∀ undefined : TypeNode, undefined.form = .keyword .undefined →
      Added undefined types types' →
        w.describeUnion types' location ctx = w.describeUnion types location ctx) := by
  -- `null` and `undefined` are not in the normal form, so adding them changes a flag at
  -- most.
  refine ⟨⟨presentOf types, admitNull types, normalForm_iff.mpr ⟨rfl, rfl⟩⟩, ?_, ?_, ?_⟩
  · intro present nullable h
    refine ⟨fun h' m _ _ v => v.describeUnion_of_normalForm h' h location ctx, fun s => ?_, ?_⟩
    · exact describeUnion_eq_ok_iff h
    · rintro rfl
      exact describeUnion_of_none h
  · intro null hnull hadded
    exact describeUnion_add_null hnull hadded
  · intro undefined hundefined hadded
    exact describeUnion_add_undefined hundefined hadded

/-- `number | (string | undefined)`. -/
def choice : List TypeNode :=
  [⟨.keyword .number, {}⟩, ⟨.union [⟨.keyword .string, {}⟩, ⟨.keyword .undefined, {}⟩], {}⟩]

/-- `(undefined | number) | string`. -/
def choiceRespelled : List TypeNode :=
  [⟨.union [⟨.keyword .undefined, {}⟩, ⟨.keyword .number, {}⟩], {}⟩, ⟨.keyword .string, {}⟩]

/-- `number | (string | null | undefined)`. -/
def choiceOrNull : List TypeNode :=
  [⟨.keyword .number, {}⟩,
    ⟨.union [⟨.keyword .string, {}⟩, ⟨.keyword .null, {}⟩, ⟨.keyword .undefined, {}⟩], {}⟩]

/-- The shape of a number or a text at `Log.entry`. -/
def choiceShape : Shape where
  kind := .union
  typeName := some "LogEntryUnion"
  properties := [
    { kind := .number, propertyPath := "Log.entry.0" },
    { kind := .string, propertyPath := "Log.entry.1" }]

/-- A union in two spellings, and with `null` added inside of a nested one. -/
theorem union_depends_on_normalForm_choice :
    let w := walkerWithin ⟨#[]⟩ {} 1
    let ctx : Context := { parentPath := "Log.entry" }
    let present : List TypeNode := [⟨.keyword .number, {}⟩, ⟨.keyword .string, {}⟩]
    NormalForm choice present false ∧ NormalForm choiceRespelled present false ∧
      Added ⟨.keyword .null, {}⟩ choice choiceOrNull ∧
      w.describeUnion choice {} ctx = .ok choiceShape ∧
      w.describeUnion choiceRespelled {} ctx = .ok choiceShape ∧
      w.describeUnion choiceOrNull {} ctx = .ok { choiceShape with nullable := true } := by
  intro w ctx present
  have hchoice : NormalForm choice present false := normalForm_iff.mpr ⟨rfl, rfl⟩
  have hrespelled : NormalForm choiceRespelled present false := normalForm_iff.mpr ⟨rfl, rfl⟩
  -- `null` goes into the nested union, before `undefined`.
  have hadded : Added ⟨.keyword .null, {}⟩ choice choiceOrNull :=
    .within [_] [] {} (.here [⟨.keyword .string, {}⟩] [⟨.keyword .undefined, {}⟩])
  have hshape : (walkerWithin ⟨#[]⟩ {} 1).describeUnion choice {} { parentPath := "Log.entry" } =
      .ok choiceShape := rfl
  obtain ⟨-, hsame, -, -⟩ := union_depends_on_normalForm w choice choiceRespelled {} ctx
  obtain ⟨-, -, hnull, -⟩ := union_depends_on_normalForm w choice choiceOrNull {} ctx
  refine ⟨hchoice, hrespelled, hadded, hshape, ?_, ?_⟩
  · exact ((hsame present false hchoice).1 hrespelled w).trans hshape
  · refine (hnull _ rfl hadded).trans ?_
    rw [hshape]
    rfl

end Walker

end Expansion

end AppMetadata
