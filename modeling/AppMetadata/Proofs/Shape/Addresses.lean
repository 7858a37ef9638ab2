import AppMetadata.Proofs.Shape
import Mathlib.Data.List.Basic
import Mathlib.Tactic.Choose

/-!
# `AppMetadata.Proofs.Shape.Addresses`: where a shape is in its tree

Equal shapes may be at many places of one tree. A place is told by the steps
that lead to it from the top (`Shape.Address`): to a property or an argument
at a position, or to the return type. Addresses are ordered step by step,
and a shape comes before all that is below it.

* `Enumerates.joined`: keys that lead to trees, each with keys of its own.
* `Shape.exists_enumeration`: `Shape.walk` visits every address of a tree
  once, in the order of the addresses.
-/

set_option autoImplicit false

namespace AppMetadata

/-! ### Values by key -/

/-- `entries` are the values of `get?`, each once with its key, in the order
of the keys. -/
structure Enumerates {κ α : Type} (before : κ → κ → Prop) (get? : κ → Option α)
    (entries : List (κ × α)) : Prop where
  ascending : entries.Pairwise fun x y => before x.1 y.1
  mem_iff : ∀ {key : κ} {value : α}, (key, value) ∈ entries ↔ get? key = some value

/-- The items of a list, each under the key that `key` makes of its position. -/
def numbered {κ α : Type} (key : Nat → κ) (items : List α) : List (κ × α) :=
  items.zipIdx.map fun entry => (key entry.2, entry.1)

/-- Entries in the order of the ranks of their keys, which all start with
`group`. -/
structure InGroup {κ α : Type} (rank : κ → List Nat) (group : Nat) (entries : List (κ × α)) :
    Prop where
  ascending : entries.Pairwise fun x y => rank x.1 < rank y.1
  group : ∀ entry ∈ entries, ∃ rest, rank entry.1 = group :: rest

section

variable {κ μ α β : Type}

/-- An item stands under the key of its position. -/
theorem mem_numbered {key : Nat → κ} {items : List α} {entry : κ × α} :
    entry ∈ numbered key items ↔ ∃ i, key i = entry.1 ∧ items[i]? = some entry.2 := by
  simp only [numbered, List.mem_map, Prod.exists, List.mem_zipIdx_iff_getElem?]
  constructor
  · rintro ⟨item, i, hitem, rfl⟩
    exact ⟨i, rfl, hitem⟩
  · rintro ⟨i, hkey, hitem⟩
    exact ⟨entry.2, i, hitem, by rw [hkey]⟩

/-- Without their keys the items are the list that was numbered. -/
@[simp] theorem map_snd_numbered (key : Nat → κ) (items : List α) :
    (numbered key items).map (·.2) = items := by
  simp [numbered, Function.comp_def]

/-- Keys that grow with the position are in order. -/
theorem pairwise_numbered (before : κ → κ → Prop) {key : Nat → κ}
    (hkey : ∀ i j, i < j → before (key i) (key j)) {items : List α} :
    (numbered key items).Pairwise fun x y => before x.1 y.1 := by
  have hpositions : items.zipIdx.Pairwise fun x y => x.2 < y.2 := by
    rw [← List.pairwise_map (f := Prod.snd), List.zipIdx_map_snd]
    exact List.pairwise_lt_range' ..
  exact List.pairwise_map.mpr (hpositions.imp fun hlt => hkey _ _ hlt)

/-- A list enumerates its own positions. -/
theorem numbered_enumerate (items : List α) :
    Enumerates (· < ·) (items[·]?) (numbered id items) where
  ascending := pairwise_numbered (· < ·) fun _ _ hlt => hlt
  mem_iff := by simp [mem_numbered]

/-- A list of parts is a group, with the positions as second ranks. -/
theorem inGroup_numbered (rank : κ → List Nat) (group : Nat) (key : Nat → κ)
    (hrank : ∀ i, rank (key i) = [group, i]) (items : List α) :
    InGroup rank group (numbered key items) where
  ascending := pairwise_numbered (fun x y => rank x < rank y) fun i j hlt => by
    simpa [hrank, List.cons_lt_cons_iff] using hlt
  group := by
    intro entry hentry
    obtain ⟨i, hkey, -⟩ := mem_numbered.mp hentry
    exact ⟨[i], hkey ▸ hrank i⟩

/-- Groups one after the other are in order. -/
theorem pairwise_flatten_of_groups (rank : κ → List Nat) {lists : List (List (κ × α))}
    (start : Nat) (h : ∀ entry ∈ lists.zipIdx start, InGroup rank entry.2 entry.1) :
    lists.flatten.Pairwise fun x y => rank x.1 < rank y.1 := by
  induction lists generalizing start with
  | nil => exact .nil
  | cons first rest ih =>
    rw [List.zipIdx_cons, List.forall_mem_cons] at h
    obtain ⟨hfirst, hrest⟩ := h
    rw [List.flatten_cons, List.pairwise_append]
    refine ⟨hfirst.ascending, ih _ hrest, fun x hx y hy => ?_⟩
    obtain ⟨entries, hentries, hy⟩ := List.mem_flatten.mp hy
    obtain ⟨i, hi, rfl⟩ := List.getElem_of_mem hentries
    have hgroup := hrest (rest[i], start + 1 + i)
      (List.mk_add_mem_zipIdx_iff_getElem?.mpr (List.getElem?_eq_getElem hi))
    -- The later group has the greater number, whatever comes after it.
    obtain ⟨_, hxrank⟩ := hfirst.group x hx
    obtain ⟨_, hyrank⟩ := hgroup.group y hy
    rw [hxrank, hyrank, List.cons_lt_cons_iff]
    exact .inl (by omega)

/-- Every entry of the tails under the key of its head and its own. -/
def joined (heads : List (κ × α)) (tails : α → List (μ × β)) : List ((κ × μ) × β) :=
  heads.flatMap fun head => (tails head.2).map fun tail => ((head.1, tail.1), tail.2)

/-- Without their keys the entries are the values of all tails in a row. -/
theorem map_snd_joined (heads : List (κ × α)) (tails : α → List (μ × β)) :
    (joined heads tails).map (·.2) = heads.flatMap fun head => (tails head.2).map (·.2) := by
  simp [joined, List.map_flatMap, Function.comp_def]

/-- Where every key leads to values with keys of their own, pairs of keys
lead to those. -/
theorem Enumerates.joined {before : κ → κ → Prop} {after : μ → μ → Prop} {get? : κ → Option α}
    {inner? : α → μ → Option β} {heads : List (κ × α)} {tails : α → List (μ × β)}
    (hheads : Enumerates before get? heads)
    (htails : ∀ head ∈ heads, Enumerates after (inner? head.2) (tails head.2)) :
    Enumerates (Prod.Lex before after) (fun key => (get? key.1).bind (inner? · key.2))
      (joined heads tails) where
  ascending := by
    rw [AppMetadata.joined, List.pairwise_flatMap]
    -- Within one tail the second keys are compared, and between two tails the first
    -- ones.
    refine ⟨fun head hhead => ?_, hheads.ascending.imp fun hbefore x hx y hy => ?_⟩
    · rw [List.pairwise_map]
      exact (htails head hhead).ascending.imp fun hafter => .right _ hafter
    · obtain ⟨x, -, rfl⟩ := List.mem_map.mp hx
      obtain ⟨y, -, rfl⟩ := List.mem_map.mp hy
      exact .left _ _ hbefore
  mem_iff := by
    rintro ⟨key, rest⟩ value
    simp only [AppMetadata.joined, List.mem_flatMap, List.mem_map, Prod.mk.injEq,
      Option.bind_eq_some_iff]
    constructor
    · rintro ⟨⟨_, head⟩, hhead, ⟨_, _⟩, htail, ⟨rfl, rfl⟩, rfl⟩
      exact ⟨head, hheads.mem_iff.mp hhead, (htails _ hhead).mem_iff.mp htail⟩
    · rintro ⟨head, hhead, hvalue⟩
      have hmem := hheads.mem_iff.mpr hhead
      exact ⟨(key, head), hmem, (rest, value), (htails _ hmem).mem_iff.mpr hvalue, ⟨rfl, rfl⟩, rfl⟩

/-- The values that `f` makes, each under the key of what it is made of. -/
def picked (f : α → Option β) (entries : List (κ × α)) : List (κ × β) :=
  entries.filterMap fun entry => (f entry.2).map (entry.1, ·)

/-- Without their keys the entries are what `f` makes of the values. -/
theorem map_snd_picked (f : α → Option β) (entries : List (κ × α)) :
    (picked f entries).map (·.2) = (entries.map (·.2)).filterMap f := by
  simp [picked, List.map_filterMap, List.filterMap_map, Function.comp_def]

/-- The keys under which `f` makes something keep their order. -/
theorem Enumerates.picked {before : κ → κ → Prop} {get? : κ → Option α} {entries : List (κ × α)}
    (h : Enumerates before get? entries) (f : α → Option β) :
    Enumerates before (fun key => (get? key).bind f) (picked f entries) where
  ascending := by
    refine h.ascending.filterMap _ fun first second hbefore x hx y hy => ?_
    obtain ⟨_, -, rfl⟩ := Option.map_eq_some_iff.mp hx
    obtain ⟨_, -, rfl⟩ := Option.map_eq_some_iff.mp hy
    exact hbefore
  mem_iff := by
    intro key value
    simp only [AppMetadata.picked, List.mem_filterMap, Option.map_eq_some_iff, Prod.mk.injEq,
      Option.bind_eq_some_iff]
    constructor
    · rintro ⟨⟨_, part⟩, hpart, _, hvalue, rfl, rfl⟩
      exact ⟨part, h.mem_iff.mp hpart, hvalue⟩
    · rintro ⟨part, hpart, hvalue⟩
      exact ⟨(key, part), h.mem_iff.mpr hpart, value, hvalue, rfl, rfl⟩

/-- Positions and parts in their order, as one group. -/
theorem inGroup_pairs (rank : κ → List Nat) (group : Nat) (key : Nat × μ → κ)
    (partRank : μ → Nat) (hrank : ∀ i part, rank (key (i, part)) = [group, i, partRank part])
    {entries : List ((Nat × μ) × α)}
    (hentries : entries.Pairwise fun x y =>
      Prod.Lex (· < ·) (fun first second => partRank first < partRank second) x.1 y.1) :
    InGroup rank group (entries.map fun entry => (key entry.1, entry.2)) where
  ascending := by
    refine List.pairwise_map.mpr (hentries.imp fun {x y} hbefore => ?_)
    obtain ⟨⟨i, first⟩, _⟩ := x
    obtain ⟨⟨j, second⟩, _⟩ := y
    simpa [hrank, List.cons_lt_cons_iff, Prod.lex_def] using hbefore
  group := by
    intro entry hentry
    obtain ⟨⟨⟨i, part⟩, _⟩, -, rfl⟩ := List.mem_map.mp hentry
    exact ⟨_, hrank i part⟩

end

/-! ### Addresses in a tree -/

namespace Shape

/-- A step from a shape to one that it holds. -/
inductive Step
  | property (index : Nat)
  | argument (index : Nat)
  | returned
deriving DecidableEq, Repr

/-- Properties come first, then arguments, then the return type. -/
def Step.rank : Step → List Nat
  | property index => [0, index]
  | argument index => [1, index]
  | returned => [2]

/-- Steps are compared by their ranks. -/
def Step.Before (first second : Step) : Prop :=
  first.rank < second.rank

/-- The steps from a shape to one in its tree. -/
abbrev Address := List Step

/-- Addresses are compared step by step. -/
def Address.Before : Address → Address → Prop :=
  List.Lex Step.Before

/-- The shape that a step leads to. -/
def step? (shape : Shape) : Step → Option Shape
  | .property index => shape.properties[index]?
  | .argument index => shape.args[index]?
  | .returned => shape.returnType

/-- The shape at an address. -/
def at? : Shape → Address → Option Shape
  | shape, [] => some shape
  | shape, step :: rest => (shape.step? step).bind (at? · rest)

/-- The shapes that a shape holds, each with the step that leads to it. -/
def steps (shape : Shape) : List (Step × Shape) :=
  [numbered .property shape.properties, numbered .argument shape.args,
    shape.returnType.toList.map (.returned, ·)].flatten

/-- Every step from a shape is listed once: first the properties, then the
arguments, then the return type. -/
theorem steps_enumerate (shape : Shape) : Enumerates Step.Before shape.step? shape.steps where
  ascending := by
    have hproperties := inGroup_numbered Step.rank 0 .property (fun _ => rfl) shape.properties
    have hargs := inGroup_numbered Step.rank 1 .argument (fun _ => rfl) shape.args
    have hreturn : InGroup Step.rank 2 (shape.returnType.toList.map (Step.returned, ·)) :=
      ⟨by cases shape.returnType <;> simp, by simp [Step.rank]⟩
    refine pairwise_flatten_of_groups Step.rank 0 ?_
    simpa using ⟨hproperties, hargs, hreturn⟩
  mem_iff := by
    intro step value
    cases step <;> simp [steps, step?, mem_numbered]

/-- A walk goes through what a shape holds, step by step. -/
theorem walk_eq_steps (shape : Shape) :
    shape.walk = shape :: shape.steps.flatMap (·.2.walk) := by
  have hwalk (entries : List (Step × Shape)) :
      entries.flatMap (·.2.walk) = (entries.map (·.2)).flatMap walk := by
    rw [List.flatMap_map]
  rw [walk_eq, descendants, walkAll_eq_flatMap, walkAll_eq_flatMap, hwalk]
  cases hreturn : shape.returnType <;> simp [steps, walkReturn, hreturn]

/-- What is below a shape has an address of a first step and the rest of the
way; the shape itself has the empty one, which comes first. -/
theorem enumerates_at {shape : Shape} {below : List ((Step × Address) × Shape)}
    (h : Enumerates (Prod.Lex Step.Before Address.Before)
      (fun key => (shape.step? key.1).bind (at? · key.2)) below) :
    Enumerates Address.Before shape.at?
      (([], shape) :: below.map fun entry => (entry.1.1 :: entry.1.2, entry.2)) where
  ascending := by
    rw [List.pairwise_cons, List.pairwise_map]
    -- The empty address is before all others, and the others are compared by their
    -- first steps.
    refine ⟨fun entry hentry => ?_, h.ascending.imp fun hbefore => ?_⟩
    · obtain ⟨entry, -, rfl⟩ := List.mem_map.mp hentry
      exact .nil
    · rcases Prod.lex_def.mp hbefore with hstep | ⟨hsame, hrest⟩
      · exact .rel hstep
      · rw [hsame]
        exact .cons hrest
  mem_iff := by
    intro address value
    cases address with
    | nil => simp [at?, eq_comm]
    | cons step rest =>
      have hbelow := @h.mem_iff (step, rest) value
      rw [List.mem_cons, or_iff_right (by simp), List.mem_map, at?, ← hbelow]
      constructor
      · rintro ⟨⟨⟨first, later⟩, part⟩, hentry, heq⟩
        cases heq
        exact hentry
      · exact fun hentry => ⟨_, hentry, rfl⟩

/-- A walk visits every address of the tree once, in order. -/
theorem exists_enumeration (shape : Shape) :
    ∃ nodes : List (Address × Shape), Enumerates Address.Before shape.at? nodes ∧
      nodes.map (·.2) = shape.walk := by
  induction shape using induction_parts with
  | step shape hproperties hargs hreturn =>
    have hpart (part : Shape) (hpart : ∃ step, shape.step? step = some part) :
        ∃ nodes : List (Address × Shape), Enumerates Address.Before part.at? nodes ∧
          nodes.map (·.2) = part.walk := by
      obtain ⟨step, hstep⟩ := hpart
      cases step with
      | property index => exact hproperties part (List.mem_of_getElem? hstep)
      | argument index => exact hargs part (List.mem_of_getElem? hstep)
      | returned => exact hreturn part hstep
    choose! nodes hnodes using hpart
    have hsteps (head : Step × Shape) (hhead : head ∈ shape.steps) :=
      hnodes head.2 ⟨head.1, shape.steps_enumerate.mem_iff.mp hhead⟩
    have hbelow := shape.steps_enumerate.joined fun head hhead => (hsteps head hhead).1
    refine ⟨_, enumerates_at hbelow, ?_⟩
    rw [walk_eq_steps, List.map_cons, List.map_map]
    refine congrArg _ ((map_snd_joined shape.steps nodes).trans ?_)
    exact List.flatMap_congr fun head hhead => (hsteps head hhead).2

/-- What a walk visits has an address, and what has an address is visited. -/
theorem mem_walk_iff {shape n : Shape} :
    n ∈ shape.walk ↔ ∃ address, shape.at? address = some n := by
  obtain ⟨nodes, hnodes, hwalk⟩ := shape.exists_enumeration
  rw [← hwalk, List.mem_map]
  constructor
  · rintro ⟨⟨address, _⟩, hentry, rfl⟩
    exact ⟨address, hnodes.mem_iff.mp hentry⟩
  · rintro ⟨address, haddress⟩
    exact ⟨_, hnodes.mem_iff.mpr haddress, rfl⟩

end Shape

end AppMetadata
