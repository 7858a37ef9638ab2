import AppMetadata.Proofs.DepthLimit
import AppMetadata.Proofs.Expansion.Owners
import AppMetadata.Proofs.Expansion.Spelling
import AppMetadata.Proofs.Expansion.Titles

/-!
# `AppMetadata.Proofs.Expansion.Inlining`: what an intersection amounts to

The parts of an intersection can be object types, but also further
intersections, aliases of all of these, and interfaces and classes, in this
module or another one. They come to a list of members (`Merges`), and each of
those still looks up names in the module that it was written in. An
intersection has the shape of one object type with all of these members.

* `flattened_object`, `flattened_intersection`, `flattened_body`,
  `flattened_target`: one part of each kind.
* `describeMembers_of_merges`: from the parts to their members.
* `exists_flattened_of_merges`: and back, with more levels.
* `flattened_of_bracketed`, `flattened_bracketed`: brackets around some parts.
* `describe_intersection_inlined`: the shape of an intersection.
-/

set_option autoImplicit false

namespace AppMetadata.Expansion

/-! ### The members of an intersection -/

section

variable (program : Program) (settings : Settings)

/-- A type of this form has the members by itself: it is an object type, or the
name of an interface or class without bases, whose members have different
names. -/
inductive Owns : TypeForm → List Member → Prop
  | object (members : List Member) : Owns (.object members) members
  | body {form : TypeForm} {declaration : Declaration} {members : List Member}
    (hnames : Names program settings form declaration)
    (hform : declaration.form = .interface [] members ∨ declaration.form = .classType none members)
    (hdistinct : (members.map (·.name)).Nodup) : Owns form members

/-- A type of this form has the members of other types: it is an intersection
of them, or the name of an alias. -/
inductive Joins : TypeForm → List TypeNode → Prop
  | intersection (parts : List TypeNode) : Joins (.intersection parts) parts
  | target {form : TypeForm} {declaration : Declaration} {target : TypeNode}
    (hnames : Names program settings form declaration)
    (hform : declaration.form = .typeAlias target) : Joins form [target]

/-- The members that `parts` come to, from left to right. -/
inductive Merges : List TypeNode → List Member → Prop
  | nil : Merges [] []
  | owns {type : TypeNode} {parts : List TypeNode} {members more : List Member}
    (howns : Owns program settings type.form members) (hmore : Merges parts more) :
    Merges (type :: parts) (members ++ more)
  | joins {type : TypeNode} {inner parts : List TypeNode} {members more : List Member}
    (hjoins : Joins program settings type.form inner) (hmembers : Merges inner members)
    (hmore : Merges parts more) : Merges (type :: parts) (members ++ more)

end

section

variable {program : Program} {settings : Settings} {levels more : Nat} {type : TypeNode}
  {types types' : List TypeNode} {members : List Member} {ctx : Context} {s : Shape}
  {properties : List Shape}

/-- None of the parts is a model. -/
theorem wrapperArgs?_of_merges (h : Merges program settings types members) :
    ∀ type ∈ types, wrapperArgs? program settings type = none := by
  have hnamed {type : TypeNode} {declaration : Declaration}
      (hnames : Names program settings type.form declaration) :
      wrapperArgs? program settings type = none := by
    rw [wrapperArgs?_eq, hnames.denoted]
  induction h with
  | nil => simp
  | @owns type _ _ _ howns _ ih =>
    refine List.forall_mem_cons.mpr ⟨?_, ih⟩
    generalize hform : type.form = form at howns
    cases howns with
    | object members => rw [wrapperArgs?, hform]
    | body hnames => exact hnamed (hform ▸ hnames)
  | @joins type _ _ _ _ hjoins _ _ _ ih =>
    refine List.forall_mem_cons.mpr ⟨?_, ih⟩
    generalize hform : type.form = form at hjoins
    cases hjoins with
    | intersection parts => rw [wrapperArgs?, hform]
    | target hnames => exact hnamed (hform ▸ hnames)

/-! ### Lists of parts -/

/-- Two lists of parts in a row give the properties of both in a row. -/
theorem flattened_append_eq_ok {w : Walker Attempt} {types types' : List TypeNode} :
    w.flattened (types ++ types') ctx = .ok properties ↔
      ∃ first last, w.flattened types ctx = .ok first ∧ w.flattened types' ctx = .ok last ∧
        properties = first ++ last := by
  simp only [Walker.flattened, Attempt.bind_eq_ok, Attempt.pure_eq_ok, Attempt.mapM_append_eq_ok]
  constructor
  · rintro ⟨_, ⟨parts, parts', hparts, hparts', rfl⟩, rfl⟩
    exact ⟨_, _, ⟨parts, hparts, rfl⟩, ⟨parts', hparts', rfl⟩, List.flatMap_append⟩
  · rintro ⟨_, _, ⟨parts, hparts, rfl⟩, ⟨parts', hparts', rfl⟩, rfl⟩
    exact ⟨_, ⟨parts, parts', hparts, hparts', rfl⟩, List.flatMap_append.symm⟩

/-- A part and the rest. -/
theorem flattened_cons_eq_ok {w : Walker Attempt} :
    w.flattened (type :: types) ctx = .ok properties ↔
      ∃ first last, w.flattened [type] ctx = .ok first ∧ w.flattened types ctx = .ok last ∧
        properties = first ++ last := by
  show w.flattened ([type] ++ types) ctx = .ok properties ↔ _
  exact flattened_append_eq_ok

/-- One part gives the properties of its shape. -/
theorem flattened_singleton_eq_ok {w : Walker Attempt} :
    w.flattened [type] ctx = .ok properties ↔
      ∃ shape, w.describe (.type type) ctx.flattening = .ok shape ∧
        properties = shape.properties := by
  rw [Walker.flattened_eq_ok]
  constructor
  · rintro ⟨parts, hparts, rfl⟩
    obtain ⟨shape, _, hshape, hnone, rfl⟩ := List.forall₂_cons_left_iff.mp hparts
    obtain rfl := List.forall₂_nil_left_iff.mp hnone
    exact ⟨shape, hshape, by simp⟩
  · rintro ⟨shape, hshape, rfl⟩
    exact ⟨[shape], .cons hshape .nil, by simp⟩

/-! ### More levels, and the owner -/

/-- What is found with some levels is found with more. -/
theorem flattened_mono (hle : levels ≤ more)
    (h : (walkerWithin program settings levels).flattened types ctx = .ok properties) :
    (walkerWithin program settings more).flattened types ctx = .ok properties := by
  rw [Walker.flattened_eq_ok] at h ⊢
  obtain ⟨parts, hparts, hproperties⟩ := h
  exact ⟨parts, hparts.imp fun _ _ ht => describeWithin_mono rfl hle ht, hproperties⟩

/-- Where a node becomes a part of another type and there is a place for its
parts, a declaration around it changes nothing. -/
theorem describeWithin_within {node : Node} {name : String} (hbase : ctx.basePath ≠ "") :
    describeWithin program settings levels node (ctx.flattening.within name) = .ok s ↔
      describeWithin program settings levels node ctx.flattening = .ok s := by
  -- At a root the owner is there already, and elsewhere it is not looked at.
  by_cases hpath : ctx.parentPath = ""
  · obtain ⟨owner, howner, -⟩ :=
      (Context.basePath_ne_empty_iff.mp hbase).resolve_left (not_not.mpr hpath)
    have hsame : ctx.flattening.within name = ctx.flattening := by
      simp [Context.within, Context.flattening, howner]
    rw [hsame]
  · have hfree (inside : Context) := @walkerWithin_ownerFree program settings levels node inside s
    constructor
    · exact fun h => hfree (ctx.flattening.within name) hpath h ctx.owner
    · exact fun h => hfree ctx.flattening hpath h (ctx.flattening.within name).owner

/-- What a shape is built from its properties with does not matter here, as
long as they can be read off again. -/
theorem exists_map_eq_ok {found : Attempt (List Shape)} {f : List Shape → Shape}
    (hf : ∀ own, (f own).properties = own) :
    (∃ shape, f <$> found = .ok shape ∧ properties = shape.properties) ↔
      found = .ok properties := by
  simp only [Attempt.map_eq_ok]
  constructor
  · rintro ⟨_, ⟨own, hown, rfl⟩, rfl⟩
    rwa [hf]
  · intro hfound
    exact ⟨f properties, ⟨properties, hfound, rfl⟩, (hf properties).symm⟩

/-! ### One part -/

/-- An object type among the parts has the properties of its members. -/
theorem flattened_object {location : Location} :
    (walkerWithin program settings (levels + 1)).flattened [⟨.object members, location⟩] ctx =
        .ok properties ↔
      (walkerWithin program settings levels).describeMembers members ctx = .ok properties := by
  rw [flattened_singleton_eq_ok]
  show (∃ shape, describeWithin program settings (levels + 1) _ _ = .ok shape ∧ _) ↔ _
  rw [describeWithin_object]
  exact exists_map_eq_ok fun own => properties_placed _ _

/-- An intersection among the parts has the properties of its own parts. -/
theorem flattened_intersection {location : Location} :
    (walkerWithin program settings (levels + 1)).flattened [⟨.intersection types, location⟩] ctx =
        .ok properties ↔
      (walkerWithin program settings levels).flattened types ctx = .ok properties := by
  rw [flattened_singleton_eq_ok]
  show (∃ shape, describeWithin program settings (levels + 1) _ _ = .ok shape ∧ _) ↔ _
  rw [describeWithin_intersection]
  exact exists_map_eq_ok fun own => properties_placed _ _

/-- A name that is no model is described in full where names are expanded. -/
theorem describeUse_of_expands {w : Walker Attempt} {declaration : Declaration}
    {location : Location}
    (hplain : ∀ target, declaration.form = .typeAlias target →
      wrapperArgs? w.program w.settings target = none) (hexpands : ctx.expands = true) :
    w.describeUse declaration location ctx = .ok s ↔
      w.expandDeclaration declaration ctx = .ok s := by
  have hnot : ctx.expands ≠ false := by simp [hexpands]
  rw [Walker.describeUse_eq_ok, Walker.describeNamed_eq_ok]
  constructor
  · rintro (⟨target, args, hform, hargs, -⟩ | ⟨_, -, -, hlinks, -⟩ | ⟨-, hnamed⟩)
    · cases (hplain target hform).symm.trans hargs
    · exact absurd hlinks hnot
    · rcases hnamed with ⟨hlinks, -⟩ | ⟨-, hexpand⟩
      · exact absurd hlinks hnot
      · exact hexpand
  · intro hexpand
    have hown (target : TypeNode) (hform : declaration.form = .typeAlias target) :
        wrapperArgs? w.program w.settings target = none ∧
          (ctx.expands = false → isTransparent w.program maxAliasHops target = false) :=
      ⟨hplain target hform, fun hlinks => absurd hlinks hnot⟩
    exact .inr (.inr ⟨hown, .inr ⟨hexpands, hexpand⟩⟩)

/-- A name among the parts has the properties of its declaration, which is
described in full. -/
theorem flattened_of_names {declaration : Declaration}
    (hnames : Names program settings type.form declaration)
    (hplain : ∀ target, declaration.form = .typeAlias target →
      wrapperArgs? program settings target = none) :
    (walkerWithin program settings (levels + 1)).flattened [type] ctx = .ok properties ↔
      ∃ shape, describeWithin program settings levels (.declaration declaration)
          (ctx.flattening.within declaration.name) = .ok shape ∧
        properties = shape.properties := by
  let w := walkerWithin program settings levels
  -- Among the parts of an intersection a name is described in full, so it is not
  -- followed or linked.
  have hnode {u : Shape} : w.describeNode (.type type) ctx.flattening = .ok u ↔
      w.expandDeclaration declaration ctx.flattening = .ok u := by
    show w.describeType type ctx.flattening = .ok u ↔ _
    rw [describeType_eq_ok_of_denoted hnames.denoted,
      describeUse_of_expands hplain Context.flattening_expands]
    simp [hnames.args, hnames.plain]
  rw [flattened_singleton_eq_ok]
  constructor
  · rintro ⟨s, hs, rfl⟩
    obtain ⟨u, hu, rfl⟩ := describeWithin_succ_eq_ok.mp hs
    obtain ⟨t, ht, rfl⟩ := Walker.expandDeclaration_eq_ok.mp (hnode.mp hu)
    exact ⟨t, ht, by rw [properties_placed, properties_ofDeclaration]⟩
  · rintro ⟨t, ht, rfl⟩
    have hu := hnode.mpr (Walker.expandDeclaration_eq_ok.mpr ⟨t, ht, rfl⟩)
    refine ⟨_, describeWithin_succ_eq_ok.mpr ⟨_, hu, rfl⟩, ?_⟩
    rw [properties_placed, properties_ofDeclaration]

/-- The name of an interface or class among the parts has the properties of the
members. -/
theorem flattened_body {declaration : Declaration}
    (hnames : Names program settings type.form declaration)
    (hform : declaration.form = .interface [] members ∨ declaration.form = .classType none members)
    (hdistinct : (members.map (·.name)).Nodup) (hbase : ctx.basePath ≠ "") :
    (walkerWithin program settings (levels + 2)).flattened [type] ctx = .ok properties ↔
      (walkerWithin program settings levels).describeMembers members ctx = .ok properties := by
  have hplain (target : TypeNode) (halias : declaration.form = .typeAlias target) :
      wrapperArgs? program settings target = none := by
    rcases hform with hform | hform <;> cases hform.symm.trans halias
  rw [flattened_of_names hnames hplain]
  simp only [describeWithin_within hbase]
  rw [describeWithin_body hform hnames.plain hdistinct Context.flattening_expands]
  exact exists_map_eq_ok fun own => properties_placed _ _

/-- The name of an alias among the parts has the properties of the target. -/
theorem flattened_target {declaration : Declaration} {target : TypeNode}
    (hnames : Names program settings type.form declaration)
    (hform : declaration.form = .typeAlias target)
    (htarget : wrapperArgs? program settings target = none) (hbase : ctx.basePath ≠ "") :
    (walkerWithin program settings (levels + 2)).flattened [type] ctx = .ok properties ↔
      (walkerWithin program settings levels).flattened [target] ctx = .ok properties := by
  have hplain (other : TypeNode) (hother : declaration.form = .typeAlias other) :
      wrapperArgs? program settings other = none := by
    cases hform.symm.trans hother
    exact htarget
  -- The reference has seen to it that there is an owner, so the alias gives its
  -- target no other one.
  obtain ⟨owner, howner⟩ :
      ∃ owner, (ctx.flattening.within declaration.name).owner = some owner := by
    cases howner : ctx.owner <;> simp [Context.within, Context.flattening, howner]
  rw [flattened_of_names hnames hplain, describeWithin_alias hform htarget howner,
    flattened_singleton_eq_ok]
  simp only [Attempt.map_eq_ok]
  constructor
  · rintro ⟨_, ⟨t, ht, rfl⟩, rfl⟩
    exact ⟨t, (describeWithin_within hbase).mp ht, properties_placed _ _⟩
  · rintro ⟨t, ht, rfl⟩
    exact ⟨_, ⟨t, (describeWithin_within hbase).mpr ht, rfl⟩, (properties_placed _ _).symm⟩

/-- A part with members of its own takes at most two levels more than they
do. -/
theorem flattened_of_owns (howns : Owns program settings type.form members)
    (hbase : ctx.basePath ≠ "")
    (h : (walkerWithin program settings levels).describeMembers members ctx = .ok properties) :
    (walkerWithin program settings (levels + 2)).flattened [type] ctx = .ok properties := by
  obtain ⟨form, location⟩ := type
  dsimp only at howns
  cases howns with
  | object => exact flattened_mono (Nat.le_succ _) (flattened_object.mpr h)
  | body hnames hform hdistinct => exact (flattened_body hnames hform hdistinct hbase).mpr h

/-- The members never need more levels than the part. -/
theorem describeMembers_of_owns (howns : Owns program settings type.form members)
    (hbase : ctx.basePath ≠ "")
    (h : (walkerWithin program settings levels).flattened [type] ctx = .ok properties) :
    (walkerWithin program settings levels).describeMembers members ctx = .ok properties := by
  obtain ⟨form, location⟩ := type
  dsimp only at howns
  cases howns with
  | object => exact flattened_object.mp (flattened_mono (Nat.le_succ levels) h)
  | body hnames hform hdistinct =>
    exact (flattened_body hnames hform hdistinct hbase).mp
      (flattened_mono (Nat.le_add_right levels 2) h)

/-- A part that joins other types takes at most two levels more than they
do. -/
theorem flattened_of_joins (hjoins : Joins program settings type.form types)
    (hplain : ∀ type ∈ types, wrapperArgs? program settings type = none)
    (hbase : ctx.basePath ≠ "")
    (h : (walkerWithin program settings levels).flattened types ctx = .ok properties) :
    (walkerWithin program settings (levels + 2)).flattened [type] ctx = .ok properties := by
  obtain ⟨form, location⟩ := type
  dsimp only at hjoins
  cases hjoins with
  | intersection => exact flattened_mono (Nat.le_succ _) (flattened_intersection.mpr h)
  | @target _ _ target hnames hform =>
    have htarget := hplain target (List.mem_singleton_self target)
    exact (flattened_target hnames hform htarget hbase).mpr h

/-- What is joined never needs more levels than the part. -/
theorem flattened_joined (hjoins : Joins program settings type.form types)
    (hplain : ∀ type ∈ types, wrapperArgs? program settings type = none)
    (hbase : ctx.basePath ≠ "")
    (h : (walkerWithin program settings levels).flattened [type] ctx = .ok properties) :
    (walkerWithin program settings levels).flattened types ctx = .ok properties := by
  obtain ⟨form, location⟩ := type
  dsimp only at hjoins
  cases hjoins with
  | intersection => exact flattened_intersection.mp (flattened_mono (Nat.le_succ levels) h)
  | @target _ _ target hnames hform =>
    exact (flattened_target hnames hform (hplain target (List.mem_singleton_self target)) hbase).mp
      (flattened_mono (Nat.le_add_right levels 2) h)

/-! ### All parts -/

/-- The parts of an intersection have the properties of the members that they
come to. -/
theorem describeMembers_of_merges (h : Merges program settings types members)
    (hbase : ctx.basePath ≠ "")
    (htypes : (walkerWithin program settings levels).flattened types ctx = .ok properties) :
    (walkerWithin program settings levels).describeMembers members ctx = .ok properties := by
  -- The levels stay the same in the induction.
  induction h generalizing properties with
  | nil =>
    obtain ⟨parts, hparts, rfl⟩ := Walker.flattened_eq_ok.mp htypes
    obtain rfl := List.forall₂_nil_left_iff.mp hparts
    rfl
  | owns howns _ ihmore =>
    obtain ⟨first, last, hfirst, hlast, rfl⟩ := flattened_cons_eq_ok.mp htypes
    have hown := describeMembers_of_owns howns hbase hfirst
    exact Attempt.mapM_append_eq_ok.mpr ⟨first, last, hown, ihmore hlast, rfl⟩
  | joins hjoins hmembers _ ihmembers ihmore =>
    obtain ⟨first, last, hfirst, hlast, rfl⟩ := flattened_cons_eq_ok.mp htypes
    have hinner := flattened_joined hjoins (wrapperArgs?_of_merges hmembers) hbase hfirst
    exact Attempt.mapM_append_eq_ok.mpr ⟨first, last, ihmembers hinner, ihmore hlast, rfl⟩

/-- With enough levels, the parts have all properties that their members
have. -/
theorem exists_flattened_of_merges (h : Merges program settings types members)
    (hbase : ctx.basePath ≠ "")
    (hmembers : (walkerWithin program settings levels).describeMembers members ctx =
      .ok properties) :
    ∃ enough, (walkerWithin program settings enough).flattened types ctx = .ok properties := by
  -- The first part and the others can need different numbers of levels.
  have hcons {type : TypeNode} {parts : List TypeNode} {few many : Nat} {first last : List Shape}
      (hfirst : (walkerWithin program settings few).flattened [type] ctx = .ok first)
      (hlast : (walkerWithin program settings many).flattened parts ctx = .ok last) :
      ∃ enough, (walkerWithin program settings enough).flattened (type :: parts) ctx =
        .ok (first ++ last) := by
    have hfirst := flattened_mono (Nat.le_max_left few many) hfirst
    have hlast := flattened_mono (Nat.le_max_right few many) hlast
    exact ⟨max few many, flattened_cons_eq_ok.mpr ⟨first, last, hfirst, hlast, rfl⟩⟩
  induction h generalizing properties with
  | nil =>
    obtain rfl := List.forall₂_nil_left_iff.mp (Walker.describeMembers_eq_ok.mp hmembers)
    exact ⟨0, rfl⟩
  | owns howns _ ihmore =>
    obtain ⟨first, last, hfirst, hlast, rfl⟩ := Attempt.mapM_append_eq_ok.mp hmembers
    obtain ⟨many, hmany⟩ := ihmore hlast
    exact hcons (flattened_of_owns howns hbase hfirst) hmany
  | joins hjoins hinner _ ihinner ihmore =>
    obtain ⟨first, last, hfirst, hlast, rfl⟩ := Attempt.mapM_append_eq_ok.mp hmembers
    obtain ⟨few, hfew⟩ := ihinner hfirst
    obtain ⟨many, hmany⟩ := ihmore hlast
    exact hcons (flattened_of_joins hjoins (wrapperArgs?_of_merges hinner) hbase hfew) hmany

/-! ### Brackets -/

variable {before inner after : List TypeNode} {group : Location}

/-- Brackets around some of the parts can be left out. -/
theorem flattened_of_bracketed
    (h : (walkerWithin program settings levels).flattened
      (before ++ [⟨.intersection inner, group⟩] ++ after) ctx = .ok properties) :
    (walkerWithin program settings levels).flattened (before ++ inner ++ after) ctx =
      .ok properties := by
  obtain ⟨_, last, hfront, hlast, rfl⟩ := flattened_append_eq_ok.mp h
  obtain ⟨first, middle, hfirst, hmiddle, rfl⟩ := flattened_append_eq_ok.mp hfront
  have hinner := flattened_intersection.mp (flattened_mono (Nat.le_succ levels) hmiddle)
  have hfront := flattened_append_eq_ok.mpr ⟨first, middle, hfirst, hinner, rfl⟩
  exact flattened_append_eq_ok.mpr ⟨_, last, hfront, hlast, rfl⟩

/-- Brackets can be put around some of the parts, at the cost of a level. -/
theorem flattened_bracketed
    (h : (walkerWithin program settings levels).flattened (before ++ inner ++ after) ctx =
      .ok properties) :
    (walkerWithin program settings (levels + 1)).flattened
      (before ++ [⟨.intersection inner, group⟩] ++ after) ctx = .ok properties := by
  obtain ⟨_, last, hfront, hlast, rfl⟩ := flattened_append_eq_ok.mp h
  obtain ⟨first, middle, hfirst, hmiddle, rfl⟩ := flattened_append_eq_ok.mp hfront
  have hfirst := flattened_mono (Nat.le_succ levels) hfirst
  have hlast := flattened_mono (Nat.le_succ levels) hlast
  have hgroup : (walkerWithin program settings (levels + 1)).flattened
      [⟨.intersection inner, group⟩] ctx = .ok middle := flattened_intersection.mpr hmiddle
  have hfront := flattened_append_eq_ok.mpr ⟨first, middle, hfirst, hgroup, rfl⟩
  exact flattened_append_eq_ok.mpr ⟨_, last, hfront, hlast, rfl⟩

end

/-! ### The shape of an intersection -/

section

variable {program : Program} {settings : Settings} {ctx : Context} {whole literal : Location}
  {s : Shape}

/-- The object type of the members has the shape of the intersection. It needs
no more levels. -/
theorem describe_object_of_intersection {parts : List TypeNode} {members : List Member}
    (hmerges : Merges program settings parts members) (hbase : ctx.basePath ≠ "")
    (h : (describe program settings (.type ⟨.intersection parts, whole⟩) ctx : Attempt Shape) =
      .ok s) :
    (describe program settings (.type ⟨.object members, literal⟩) ctx : Attempt Shape) = .ok s := by
  obtain ⟨levels, hlevels, h⟩ := describe_eq_ok.mp h
  rw [describeWithin_intersection, Attempt.map_eq_ok] at h
  obtain ⟨properties, hproperties, rfl⟩ := h
  have hmembers := describeMembers_of_merges hmerges hbase hproperties
  refine describe_eq_ok.mpr ⟨levels, hlevels, ?_⟩
  rw [describeWithin_object, hmembers]
  rfl

/-- The intersection has the shape of the object type of its members, with
enough levels. -/
theorem exists_describe_intersection {parts : List TypeNode} {members : List Member}
    (hmerges : Merges program settings parts members) (hbase : ctx.basePath ≠ "")
    (h : (describe program settings (.type ⟨.object members, literal⟩) ctx : Attempt Shape) =
      .ok s) :
    CutOff settings.maxDepth (describe program settings (.type ⟨.intersection parts, whole⟩) ctx)
        (.ok s) ∧
      ∃ enough, ∀ limit, enough ≤ limit →
        (describe program (settings.allowing limit) (.type ⟨.intersection parts, whole⟩) ctx :
          Attempt Shape) = .ok s := by
  obtain ⟨levels, -, h⟩ := describe_eq_ok.mp h
  rw [describeWithin_object, Attempt.map_eq_ok] at h
  obtain ⟨properties, hproperties, rfl⟩ := h
  obtain ⟨more, hmore⟩ := exists_flattened_of_merges hmerges hbase hproperties
  have hshape : describeWithin program settings (max settings.maxDepth more + 1)
      (.type ⟨.intersection parts, whole⟩) ctx =
        .ok (placed ctx { kind := .object, properties }) := by
    rw [describeWithin_intersection, flattened_mono (Nat.le_max_right settings.maxDepth more) hmore]
    rfl
  have hle : settings.maxDepth ≤ max settings.maxDepth more + 1 := by omega
  obtain ⟨hcut, henough⟩ := cutOff_of_describeWithin hle hshape
  exact ⟨hcut, _, henough⟩

variable {before inner after : List TypeNode} {group : Location}

/-- Brackets take one level more, so without them the limit is not reached
either. -/
theorem describe_of_bracketed
    (h : (describe program settings (.type ⟨.intersection
      (before ++ [⟨.intersection inner, group⟩] ++ after), whole⟩) ctx : Attempt Shape) = .ok s) :
    (describe program settings (.type ⟨.intersection (before ++ inner ++ after), whole⟩) ctx :
      Attempt Shape) = .ok s := by
  obtain ⟨levels, hlevels, h⟩ := describe_eq_ok.mp h
  rw [describeWithin_intersection, Attempt.map_eq_ok] at h
  obtain ⟨properties, hproperties, rfl⟩ := h
  refine describe_eq_ok.mpr ⟨levels, hlevels, ?_⟩
  rw [describeWithin_intersection, flattened_of_bracketed hproperties]
  rfl

/-- With one level more the other direction holds as well. -/
theorem describeWithin_bracketed
    (h : (describe program settings (.type ⟨.intersection (before ++ inner ++ after), whole⟩)
      ctx : Attempt Shape) = .ok s) :
    describeWithin program settings (settings.maxDepth + 1) (.type ⟨.intersection
      (before ++ [⟨.intersection inner, group⟩] ++ after), whole⟩) ctx = .ok s := by
  obtain ⟨levels, hlevels, h⟩ := describe_eq_ok.mp h
  rw [describeWithin_intersection, Attempt.map_eq_ok] at h
  obtain ⟨properties, hproperties, rfl⟩ := h
  rw [hlevels, describeWithin_intersection, flattened_bracketed hproperties]
  rfl

end

/-- An intersection has the shape of one object type. Its parts may be object
types, intersections, aliases of these, and interfaces and classes without
bases, in any module and with any brackets. Where there is a path for the
properties, the object type is that of the members which the parts come to,
from left to right, each of which looks up names in the module that it was
written in. Whenever the intersection has a shape, the object type has the same
one. Whenever the object type has one, so has the intersection, unless the walk
is cut off. So any other parts that come to the same members give the same
shape, whichever part and module a member is written in. And brackets around
some of the parts can be left out or put there, the latter at the cost of one
level. -/
theorem describe_intersection_inlined (program : Program) (settings : Settings)
    {parts : List TypeNode} {members : List Member}
    (hmerges : Merges program settings parts members)
    {ctx : Context} (hbase : ctx.basePath ≠ "") (whole literal : Location) (s : Shape) :
    ((describe program settings (.type ⟨.intersection parts, whole⟩) ctx : Attempt Shape) =
        .ok s →
      (describe program settings (.type ⟨.object members, literal⟩) ctx : Attempt Shape) =
        .ok s) ∧
    ((describe program settings (.type ⟨.object members, literal⟩) ctx : Attempt Shape) = .ok s →
      CutOff settings.maxDepth
          (describe program settings (.type ⟨.intersection parts, whole⟩) ctx) (.ok s) ∧
        ∃ enough, ∀ limit, enough ≤ limit →
          (describe program (settings.allowing limit) (.type ⟨.intersection parts, whole⟩) ctx :
            Attempt Shape) = .ok s) ∧
    (∀ parts' whole', Merges program settings parts' members →
      (describe program settings (.type ⟨.intersection parts', whole'⟩) ctx : Attempt Shape) =
        .ok s →
      CutOff settings.maxDepth
        (describe program settings (.type ⟨.intersection parts, whole⟩) ctx) (.ok s)) ∧
    (∀ before inner after group,
      let flat : TypeNode := ⟨.intersection (before ++ inner ++ after), whole⟩
      let bracketed : TypeNode :=
        ⟨.intersection (before ++ [⟨.intersection inner, group⟩] ++ after), whole⟩
      ((describe program settings (.type bracketed) ctx : Attempt Shape) = .ok s →
        (describe program settings (.type flat) ctx : Attempt Shape) = .ok s) ∧
      ((describe program settings (.type flat) ctx : Attempt Shape) = .ok s →
        CutOff settings.maxDepth (describe program settings (.type bracketed) ctx) (.ok s) ∧
          ∀ limit, settings.maxDepth + 1 ≤ limit →
            (describe program (settings.allowing limit) (.type bracketed) ctx : Attempt Shape) =
              .ok s)) := by
  -- The object type is in the middle: two intersections with its members are compared
  -- through it, and only the way back can be cut off.
  refine ⟨describe_object_of_intersection hmerges hbase,
    exists_describe_intersection hmerges hbase, fun parts' whole' hmerges' h => ?_,
    fun before inner after group => ⟨describe_of_bracketed, fun h => ?_⟩⟩
  · have hobject : (describe program settings (.type ⟨.object members, literal⟩) ctx :
        Attempt Shape) = .ok s := describe_object_of_intersection hmerges' hbase h
    exact (exists_describe_intersection hmerges hbase hobject).1
  · exact cutOff_of_describeWithin (Nat.le_succ settings.maxDepth) (describeWithin_bracketed h)

/-- `at: Stamp`, written in the second module. -/
def stampMember : Member :=
  ⟨"at", .signature (some ⟨.reference ⟨.identifier "Stamp", [], 1⟩, {}⟩), false, {}, {}⟩

/-- A declaration of the second module. -/
def stampDeclaration (name : String) (form : DeclarationForm) : Declaration where
  name := name
  form := form
  doc := {}
  scope := 1
  location := {}
  isGeneric := false

/-- A module that uses `interface Entry { id: string }` and
`type Stamped = { at: Stamp }` of another one. -/
def stampedEntries : Program where
  modules := #[
    { path := ⟨true, ["app.ts"]⟩
      imports := [("Entry", ⟨"./entry", .named "Entry"⟩), ("Stamped", ⟨"./entry", .named "Stamped"⟩)]
      links := [("./entry", 1)] },
    { path := ⟨true, ["entry.ts"]⟩
      declarations := [
        ("Entry", stampDeclaration "Entry" (.interface [] [textMember "id"])),
        ("Stamp", stampDeclaration "Stamp" (.interface [] [textMember "day"])),
        ("Stamped", stampDeclaration "Stamped" (.typeAlias ⟨.object [stampMember], {}⟩))] }]

/-- The parts of `Entry & ({ title: string } & Stamped)`. -/
def stampedParts : List TypeNode :=
  [entryType, ⟨.intersection [⟨.object [textMember "title"], {}⟩,
    ⟨.reference ⟨.identifier "Stamped", [], 0⟩, {}⟩], {}⟩]

/-- An object with the properties `id`, `title` and `at`. -/
def stampedShape : Shape where
  kind := .object
  propertyPath := "Post"
  properties := [
    { kind := .string, propertyName := "id", propertyPath := "Post.id" },
    { kind := .string, propertyName := "title", propertyPath := "Post.title" },
    { kind := .reference, typeName := some "Stamp", propertyName := "at",
      propertyPath := "Post.at" }]

/-- Members of an interface and of an alias in another module, and one written
in place. -/
theorem describe_intersection_inlined_stamped :
    let members := [textMember "id", textMember "title", stampMember]
    Merges stampedEntries {} stampedParts members ∧ (Context.root "Post").basePath ≠ "" ∧
      (describe stampedEntries {} (.type ⟨.intersection stampedParts, {}⟩) (.root "Post") :
        Attempt Shape) = .ok stampedShape ∧
      (describe stampedEntries {} (.type ⟨.object members, {}⟩) (.root "Post") : Attempt Shape) =
        .ok stampedShape := by
  intro members
  have hentry : Owns stampedEntries {} entryType.form [textMember "id"] :=
    .body ⟨rfl, rfl, rfl⟩ (.inl rfl) (by decide)
  have hstamped : Joins stampedEntries {} (.reference ⟨.identifier "Stamped", [], 0⟩)
      [⟨.object [stampMember], {}⟩] := .target ⟨rfl, rfl, rfl⟩ rfl
  have htitle : Owns stampedEntries {} (.object [textMember "title"]) [textMember "title"] :=
    .object [textMember "title"]
  have hat : Owns stampedEntries {} (.object [stampMember]) [stampMember] := .object [stampMember]
  have hmerges : Merges stampedEntries {} stampedParts ([textMember "id"] ++
      (([textMember "title"] ++ (([stampMember] ++ []) ++ [])) ++ [])) :=
    .owns hentry (.joins (.intersection _)
      (.owns htitle (.joins hstamped (.owns hat .nil) .nil)) .nil)
  have hbase : (Context.root "Post").basePath ≠ "" := by decide
  have hshape : (describe stampedEntries {} (.type ⟨.intersection stampedParts, {}⟩)
      (.root "Post") : Attempt Shape) = .ok stampedShape := by
    rw [describe_eq_describeWithin]
    rfl
  obtain ⟨hobject, -⟩ :=
    describe_intersection_inlined stampedEntries {} hmerges hbase {} {} stampedShape
  exact ⟨hmerges, hbase, hshape, hobject hshape⟩

end AppMetadata.Expansion
