import AppMetadata.Application
import AppMetadata.Proofs.Shape.Addresses

/-!
# `AppMetadata.Proofs.Dangling`: the links that dangle, one by one

An application has many shape trees: its types and operations, the parts of
its actions, and the two sides of its selections. A root is told by its place
(`Place`), and any shape by the place of its root and its address there
(`Site`).

* `Application.danglingReferences_exact`: the links that dangle are those at
  the sites of links that no model or input answers to, in the order of the
  sites; and what another input does to them.
-/

set_option autoImplicit false

namespace AppMetadata

/-! ### Places and sites -/

/-- The parts of an action. -/
inductive ActionPart
  | answer
  | query
  | params
  | headers
  | cookies
  | body
deriving DecidableEq, Repr

/-- The answer comes first. -/
def ActionPart.rank : ActionPart → Nat
  | answer => 0
  | query => 1
  | params => 2
  | headers => 3
  | cookies => 4
  | body => 5

/-- Every part once, in order. -/
def ActionPart.all : List ActionPart :=
  [answer, query, params, headers, cookies, body]

namespace Action

/-- A part of an action, if it is there. -/
def part? (action : Action) : ActionPart → Option Shape
  | .answer => some action.returnType
  | .query => action.query
  | .params => action.params
  | .headers => action.headers
  | .cookies => action.cookies
  | .body => action.body

/-- The parts of an action that are there. -/
def parts (action : Action) : List (ActionPart × Shape) :=
  ActionPart.all.filterMap fun part => (action.part? part).map (part, ·)

/-- The parts of an action, each once: the return type and the parts of the
request that are there. -/
theorem parts_enumerate (action : Action) :
    Enumerates (fun first second => first.rank < second.rank) action.part? action.parts where
  ascending := by
    have hall : ActionPart.all.Pairwise fun first second => first.rank < second.rank := by decide
    refine hall.filterMap _ fun first second hlt x hx y hy => ?_
    obtain ⟨_, -, rfl⟩ := Option.map_eq_some_iff.mp hx
    obtain ⟨_, -, rfl⟩ := Option.map_eq_some_iff.mp hy
    exact hlt
  mem_iff := by
    intro part shape
    have hall : part ∈ ActionPart.all := by cases part <;> decide
    simp [parts, hall]

/-- Without their keys they are the shapes of the action. -/
theorem map_snd_parts (action : Action) : action.parts.map (·.2) = action.shapes := by
  obtain ⟨name, returnType, query, params, headers, cookies, body⟩ := action
  cases query <;> cases params <;> cases headers <;> cases cookies <;> cases body <;> rfl

end Action

/-- The sides of a selection. -/
inductive SelectionSide
  | source
  | selection
deriving DecidableEq, Repr

/-- The source comes first. -/
def SelectionSide.rank : SelectionSide → Nat
  | source => 0
  | selection => 1

namespace Selection

/-- A side of a selection, which is always there. -/
def side? (pair : Selection) : SelectionSide → Option Shape
  | .source => some pair.source
  | .selection => some pair.selection

/-- Both sides of a selection. -/
def sides (pair : Selection) : List (SelectionSide × Shape) :=
  [(.source, pair.source), (.selection, pair.selection)]

/-- The two sides of a selection, each once. -/
theorem sides_enumerate (pair : Selection) :
    Enumerates (fun first second => first.rank < second.rank) pair.side? pair.sides where
  ascending := by simp [sides, SelectionSide.rank]
  mem_iff := by
    intro side shape
    cases side <;> simp [sides, side?, eq_comm]

/-- Without their keys they are the shapes of the selection. -/
theorem map_snd_sides (pair : Selection) : pair.sides.map (·.2) = pair.shapes := rfl

end Selection

/-- The place of the root of a shape tree. -/
inductive Place
  | model (index : Nat)
  | input (index : Nat)
  | query (index : Nat)
  | mutation (index : Nat)
  | subscription (index : Nat)
  | action (index : Nat) (part : ActionPart)
  | selection (index : Nat) (side : SelectionSide)
deriving DecidableEq, Repr

/-- Types come first, then operations, actions and selections, each in order,
with the parts of one action or selection beside each other. -/
def Place.rank : Place → List Nat
  | model index => [0, index]
  | input index => [1, index]
  | query index => [2, index]
  | mutation index => [3, index]
  | subscription index => [4, index]
  | action index part => [5, index, part.rank]
  | selection index side => [6, index, side.rank]

/-- Places are compared by their ranks. -/
def Place.Before (first second : Place) : Prop :=
  first.rank < second.rank

/-- The place of a root, and an address below it. -/
abbrev Site := Place × Shape.Address

/-- Sites are compared by their places, and under one root by their
addresses. -/
def Site.Before : Site → Site → Prop :=
  Prod.Lex Place.Before Shape.Address.Before

namespace Application

/-- The root at a place. -/
def root? (app : Application) : Place → Option Shape
  | .model index => app.models[index]?
  | .input index => app.inputs[index]?
  | .query index => app.queries[index]?
  | .mutation index => app.mutations[index]?
  | .subscription index => app.subscriptions[index]?
  | .action index part => app.actions[index]?.bind (·.part? part)
  | .selection index side => app.selections[index]?.bind (·.side? side)

/-- The shape at a site. -/
def at? (app : Application) (site : Site) : Option Shape :=
  (app.root? site.1).bind (·.at? site.2)

/-- Whether a model or an input is called `name`, as a type or as a model. -/
def Lists (app : Application) (name : String) : Prop :=
  ∃ entry, (entry ∈ app.models ∨ entry ∈ app.inputs) ∧
    (entry.typeName = some name ∨ entry.modelName = some name)

/-! ### Every root by its place -/

/-- Every root with its place. -/
def places (app : Application) : List (Place × Shape) :=
  [numbered .model app.models, numbered .input app.inputs, numbered .query app.queries,
    numbered .mutation app.mutations, numbered .subscription app.subscriptions,
    (joined (numbered id app.actions) Action.parts).map fun entry =>
      (.action entry.1.1 entry.1.2, entry.2),
    (joined (numbered id app.selections) Selection.sides).map fun entry =>
      (.selection entry.1.1 entry.1.2, entry.2)].flatten

/-- Every root of an application has one place, and the places are in order. -/
theorem places_enumerate (app : Application) :
    Enumerates Place.Before app.root? app.places := by
  have hactions := (numbered_enumerate app.actions).joined fun action _ => action.2.parts_enumerate
  have hselections :=
    (numbered_enumerate app.selections).joined fun pair _ => pair.2.sides_enumerate
  -- The seven groups have different first ranks, so it is enough that each of them is
  -- in order.
  constructor
  · have hmodels := inGroup_numbered Place.rank 0 .model (fun _ => rfl) app.models
    have hinputs := inGroup_numbered Place.rank 1 .input (fun _ => rfl) app.inputs
    have hqueries := inGroup_numbered Place.rank 2 .query (fun _ => rfl) app.queries
    have hmutations := inGroup_numbered Place.rank 3 .mutation (fun _ => rfl) app.mutations
    have hsubscriptions :=
      inGroup_numbered Place.rank 4 .subscription (fun _ => rfl) app.subscriptions
    have hparts := inGroup_pairs Place.rank 5 (fun key => .action key.1 key.2) ActionPart.rank
      (fun _ _ => rfl) hactions.ascending
    have hsides := inGroup_pairs Place.rank 6 (fun key => .selection key.1 key.2)
      SelectionSide.rank (fun _ _ => rfl) hselections.ascending
    refine pairwise_flatten_of_groups Place.rank 0 ?_
    simpa using ⟨hmodels, hinputs, hqueries, hmutations, hsubscriptions, hparts, hsides⟩
  · intro place shape
    have haction (i : Nat) (part : ActionPart) := @hactions.mem_iff (i, part) shape
    have hselection (i : Nat) (side : SelectionSide) := @hselections.mem_iff (i, side) shape
    cases place <;> simp [places, root?, mem_numbered, haction, hselection]

/-- Without their places they are the roots of the application. -/
theorem map_snd_places (app : Application) : app.places.map (·.2) = app.roots := by
  have hactions : (joined (numbered id app.actions) Action.parts).map (·.2) =
      app.actions.flatMap Action.shapes := by
    rw [map_snd_joined]
    simp only [Action.map_snd_parts]
    rw [← List.flatMap_map, map_snd_numbered]
  have hselections : (joined (numbered id app.selections) Selection.sides).map (·.2) =
      app.selections.flatMap Selection.shapes := by
    rw [map_snd_joined]
    simp only [Selection.map_snd_sides]
    rw [← List.flatMap_map, map_snd_numbered]
  simp [places, roots, Function.comp_def, hactions, hselections]

/-- A walk through all roots visits every site once, in order. -/
theorem exists_sites (app : Application) :
    ∃ sites : List (Site × Shape), Enumerates Site.Before app.at? sites ∧
      sites.map (·.2) = Shape.walkAll app.roots := by
  choose nodes hnodes hwalk using Shape.exists_enumeration
  refine ⟨_, app.places_enumerate.joined fun root _ => hnodes root.2, ?_⟩
  rw [map_snd_joined, Shape.walkAll_eq_flatMap, ← map_snd_places, List.flatMap_map]
  exact List.flatMap_congr fun root _ => hwalk root.2

/-! ### Links that dangle -/

/-- A lookup fails if no shape of the list answers to the name. -/
theorem findNamed?_isNone {types : List Shape} {name : String} :
    (findNamed? types name).isNone = true ↔
      ∀ type ∈ types, ¬(type.typeName = some name ∨ type.modelName = some name) := by
  simp [findNamed?]

/-- A name is listed unless neither list answers to it. -/
theorem not_lists {app : Application} {name : String} :
    ((app.model? name).isNone && (app.input? name).isNone) = true ↔ ¬app.Lists name := by
  rw [Bool.and_eq_true, model?, input?, findNamed?_isNone, findNamed?_isNone]
  simp only [Lists, not_exists, not_and, or_imp, forall_and]

/-- A shape dangles exactly if it is a link whose name is not listed; it is
reported with its path. -/
theorem danglingLink?_eq_some {app : Application} {n : Shape} {name path : String} :
    app.danglingLink? n = some (name, path) ↔
      n.kind = .reference ∧ n.typeName = some name ∧ n.propertyPath = path ∧ ¬app.Lists name := by
  have hreference : n.isReference = true ↔ n.kind = .reference := by simp [Shape.isReference]
  unfold danglingLink?
  split
  next hlink =>
    cases hname : n.typeName with
    | none => simp
    | some known =>
      simp only [not_lists, Option.ite_none_right_eq_some, Option.some.injEq, Prod.mk.injEq,
        hreference.mp hlink, true_and]
      constructor
      · rintro ⟨hlists, rfl, rfl⟩
        exact ⟨rfl, rfl, hlists⟩
      · rintro ⟨rfl, rfl, hlists⟩
        exact ⟨hlists, rfl, rfl⟩
  next hlink => simp [hreference.not.mp hlink]

/-! ### Another input -/

section

variable {app : Application} {entry : Shape} {name : String}

/-- An input without a model name answers to its own name, besides those
that the application lists already. -/
theorem lists_withInput (hname : entry.typeName = some name) (hmodel : entry.modelName = none)
    (other : String) :
    Lists { app with inputs := app.inputs ++ [entry] } other ↔ app.Lists other ∨ other = name := by
  have hentry : (entry.typeName = some other ∨ entry.modelName = some other) ↔ other = name := by
    simp [hname, hmodel, eq_comm]
  simp only [Lists, List.mem_append, List.mem_singleton]
  constructor
  · rintro ⟨listed, hlisted, hanswers⟩
    rcases hlisted with hlisted | hlisted | rfl
    · exact .inl ⟨listed, .inl hlisted, hanswers⟩
    · exact .inl ⟨listed, .inr hlisted, hanswers⟩
    · exact .inr (hentry.mp hanswers)
  · rintro (⟨listed, hlisted | hlisted, hanswers⟩ | hother)
    · exact ⟨listed, .inl hlisted, hanswers⟩
    · exact ⟨listed, .inr (.inl hlisted), hanswers⟩
    · exact ⟨entry, .inr (.inr rfl), hentry.mpr hother⟩

/-- With it, exactly the links of its name dangle no more. -/
theorem danglingLink?_withInput (hname : entry.typeName = some name)
    (hmodel : entry.modelName = none) (n : Shape) :
    danglingLink? { app with inputs := app.inputs ++ [entry] } n =
      (app.danglingLink? n).filter (·.1 ≠ name) := by
  ext ⟨other, path⟩
  simp only [danglingLink?_eq_some, lists_withInput hname hmodel, Option.filter_eq_some_iff,
    decide_eq_true_eq, not_or]
  tauto

/-- An entry without links answers to its name and dangles nowhere. -/
theorem danglingReferences_withInput (hname : entry.typeName = some name)
    (hmodel : entry.modelName = none) (hlinks : ∀ n ∈ entry.walk, n.kind ≠ .reference) :
    danglingReferences { app with inputs := app.inputs ++ [entry] } =
      app.danglingReferences.filter (·.1 ≠ name) := by
  have hentry : entry.walk.filterMap app.danglingLink? = [] := by
    rw [List.filterMap_eq_nil_iff]
    intro n hn
    exact Option.eq_none_iff_forall_ne_some.mpr fun (other, path) hlink =>
      hlinks n hn (danglingLink?_eq_some.mp hlink).1
  unfold danglingReferences
  simp only [funext (@danglingLink?_withInput app entry name hname hmodel)]
  rw [← List.filter_filterMap]
  simp [roots, Shape.walkAll_eq_flatMap, hentry]

end

/-! ### Exactly the links that dangle -/

/-- The entries that dangle, each with its site. -/
theorem exists_danglingSites (app : Application) :
    ∃ links : List (Site × String × String),
      Enumerates Site.Before (fun site => (app.at? site).bind app.danglingLink?) links ∧
      links.map (·.2) = app.danglingReferences := by
  obtain ⟨sites, hsites, hwalk⟩ := app.exists_sites
  exact ⟨_, hsites.picked app.danglingLink?, by rw [map_snd_picked, hwalk, danglingReferences]⟩

/-- The list of the links that dangle has one entry for each site, under a
model, an input, an operation, a part of an action or a side of a selection,
that holds a link whose name no model or input has as type name or model
name; it has no other entries, and they stand in the order of the sites.

So nothing dangles exactly if every link that has a name names a model or an
input. With one more input that has no links and no model name, the entries
of its name go, and all others stay. -/
theorem danglingReferences_exact (app : Application) :
    (∃ links : List (Site × String × String),
      links.Pairwise (fun first second => Site.Before first.1 second.1) ∧
      (∀ site name path, (site, name, path) ∈ links ↔
        ∃ n, app.at? site = some n ∧ n.kind = .reference ∧ n.typeName = some name ∧
          n.propertyPath = path ∧ ¬app.Lists name) ∧
      app.danglingReferences = links.map (·.2)) ∧
    (app.danglingReferences = [] ↔
      ∀ site n name, app.at? site = some n → n.kind = .reference → n.typeName = some name →
        app.Lists name) ∧
    (∀ (entry : Shape) (name : String), entry.typeName = some name → entry.modelName = none →
      (∀ address n, entry.at? address = some n → n.kind ≠ .reference) →
      danglingReferences { app with inputs := app.inputs ++ [entry] } =
        app.danglingReferences.filter (·.1 ≠ name)) := by
  -- The entries with their sites are the first part; the others speak of the entries
  -- alone.
  obtain ⟨links, hlinks, hreferences⟩ := app.exists_danglingSites
  have hmem (site : Site) (name path : String) : (site, name, path) ∈ links ↔
      ∃ n, app.at? site = some n ∧ n.kind = .reference ∧ n.typeName = some name ∧
        n.propertyPath = path ∧ ¬app.Lists name := by
    simp only [hlinks.mem_iff, Option.bind_eq_some_iff, danglingLink?_eq_some]
  refine ⟨⟨links, hlinks.ascending, hmem, hreferences.symm⟩, ?_, ?_⟩
  · rw [← hreferences, List.map_eq_nil_iff, List.eq_nil_iff_forall_not_mem]
    constructor
    · intro hnone site n name hn hkind hname
      by_contra hlists
      exact hnone _ ((hmem site name n.propertyPath).mpr ⟨n, hn, hkind, hname, rfl, hlists⟩)
    · rintro hall ⟨site, name, path⟩ hlink
      obtain ⟨n, hn, hkind, hname, -, hlists⟩ := (hmem site name path).mp hlink
      exact hlists (hall site n name hn hkind hname)
  · intro entry name hname hmodel hlinks
    refine danglingReferences_withInput hname hmodel fun n hn => ?_
    obtain ⟨address, haddress⟩ := Shape.mem_walk_iff.mp hn
    exact hlinks address n haddress

/-- A link to `name` at `path`. -/
def linkAt (name path : String) : Shape :=
  { Shape.link name with propertyPath := path }

/-- Users with posts, and a route that answers with posts; posts and filters
are listed nowhere. -/
def journal : Application where
  name := "journal"
  models := [
    { kind := .object, typeName := some "User", properties := [linkAt "Post" "User.posts"] }]
  queries := [{ kind := .function, returnType := some (linkAt "User" "Query.author") }]
  actions := [
    { name := "GET /posts"
      returnType := linkAt "Post" "Action.GET /posts.return"
      query := some (linkAt "Filter" "Action.GET /posts.query") }]

/-- A post, as an input. -/
def post : Shape where
  kind := .object
  typeName := some "Post"

/-- Once posts are an input, only the filter dangles. -/
theorem danglingReferences_exact_journal :
    journal.danglingReferences =
      [("Post", "User.posts"), ("Post", "Action.GET /posts.return"),
        ("Filter", "Action.GET /posts.query")] ∧
    danglingReferences { journal with inputs := journal.inputs ++ [post] } =
      [("Filter", "Action.GET /posts.query")] := by
  have hnone : ∀ address n, post.at? address = some n → n.kind ≠ .reference := by
    intro address n haddress
    have hn : n ∈ post.walk := Shape.mem_walk_iff.mpr ⟨address, haddress⟩
    obtain rfl : n = post := List.mem_singleton.mp hn
    decide
  exact ⟨rfl, (danglingReferences_exact journal).2.2 post "Post" rfl rfl hnone⟩

end Application

end AppMetadata
