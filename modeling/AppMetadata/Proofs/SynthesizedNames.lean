import AppMetadata.Extraction
import AppMetadata.Proofs.Expansion.Synthesis
import AppMetadata.Proofs.Group.Members

/-!
# `AppMetadata.Proofs.SynthesizedNames`: the types that one made name stands for

The name of an enum of literals or of a union below a member is made from its
path, and the segments of the path are joined without the dots. So one name
can stand for types at several paths, and types at one path may differ too: a
parameter and a property of the return type stand at the same path if they
have the same name (`parameter_and_property_share_name`).

Where the paths of the written unions are apart (`PathsApart`), a name stands
for one type (`synthesizedNames_identify`). This is asked of the sites that
the extraction visits and of nothing else.

* `application_eq_ok`: an application is extracted group by group.
* `sourced_below_members`: what stands below the members of a group comes from
  a site that its extraction visits.
-/

set_option autoImplicit false

namespace AppMetadata

open Expansion Shape

/-! ### What a group is extracted from -/

namespace Extractor

variable {extractor : Extractor} {group : Group}

/-- The types of a group that are described at roots, with the names of the
roots. -/
def startsOf (group : Group) (type : TypeNode) (members : List Member) :
    List (TypeNode × String) :=
  match group with
  | .models | .inputs => members.filterMap fun member => member.type?.map (·, member.name)
  | .queries | .mutations | .subscriptions | .actions => [(type, group.rootName)]
  | .selections =>
    members.flatMap fun member =>
      match Group.selectionTypes member with
      | .ok (source, selection) => [(source, member.name), (selection, member.name)]
      | .error _ => []

/-- The types that are described for a group, if it is there. -/
def starts (extractor : Extractor) (group : Group) : List (TypeNode × String) :=
  match group.find extractor.options with
  | .ok (some (type, members)) => startsOf group type members
  | _ => []

/-- The sites that the extraction of all groups visits. -/
def visited (extractor : Extractor) : List Expansion.Site :=
  (Group.all.flatMap extractor.starts).flatMap fun start =>
    Expansion.visited extractor.program extractor.settings (.type start.1) (.root start.2)

/-- The parts of an action are properties of its member. -/
theorem mem_properties_of_action {property shape : Shape} {action : Action}
    (h : Group.action property = .ok action) (hshape : shape ∈ action.shapes) :
    shape ∈ property.properties := by
  obtain ⟨-, hreturn, hquery, hparams, hheaders, hcookies, hbody⟩ := action_eq_ok.mp h
  have hpart {key : String} (hpart : property.property? key = some shape) :
      shape ∈ property.properties := List.mem_of_find?_eq_some hpart
  simp only [Action.shapes, List.mem_append, List.mem_singleton, Option.mem_toList,
    or_assoc] at hshape
  rcases hshape with rfl | hshape | hshape | hshape | hshape | hshape
  · exact hpart hreturn
  · exact hpart (hquery.symm.trans hshape)
  · exact hpart (hparams.symm.trans hshape)
  · exact hpart (hheaders.symm.trans hshape)
  · exact hpart (hcookies.symm.trans hshape)
  · exact hpart (hbody.symm.trans hshape)

/-- A group whose extraction succeeds is there, or nothing is made of it. -/
theorem found_or_absent {α : Type} {items : List α}
    {next : Option (TypeNode × List Member) → Attempt (List α)} (hnone : next none = pure [])
    (h : ((extractor.group group : Attempt _) >>= next) = .ok items) :
    items = [] ∨
      ∃ type members, group.find extractor.options = .ok (some (type, members)) := by
  obtain ⟨found, hfound, h⟩ := Attempt.bind_eq_ok.mp h
  rw [Extractor.group, ofExcept_eq] at hfound
  cases found with
  | none =>
    rw [hnone, Attempt.pure_eq_ok] at h
    exact .inl h
  | some found => exact .inr ⟨found.1, found.2, hfound⟩

/-- Shapes whose synthesized types come from sites that the extraction visits. -/
def Covers (extractor : Extractor) (shapes : List Shape) : Prop :=
  ∀ n ∈ shapes,
    Sourced extractor.program extractor.settings (· ∈ extractor.visited) n.propertyPath n

/-- An operation is a function, and what is below it is its property. -/
theorem covers_operation {property : Shape} (h : extractor.Covers property.walk) :
    extractor.Covers (Group.operation property).walk := by
  unfold Group.operation
  split
  · exact h
  · refine forall_mem_walk.mpr ⟨sourced_of_kind (by simp) (by simp), by simp, by simp, ?_⟩
    exact fun part hpart => Option.some.inj hpart ▸ h

section
variable (hpath : ∀ site ∈ extractor.visited, site.ctx.basePath ≠ "")
include hpath

/-- What is described at a start of a group comes from the sites that the
extraction visits. -/
theorem covers_of_start {type : TypeNode} {owner : String} {s : Shape}
    (hstart : (type, owner) ∈ extractor.starts group)
    (h : (describe extractor.program extractor.settings (.type type) (.root owner) :
      Attempt Shape) = .ok s) : extractor.Covers s.descendants := by
  have hgroup : group ∈ Group.all := by
    cases group <;> simp [Group.all]
  refine (sourcedAt_of_describe hpath h fun site hsite => ?_).below
  exact List.mem_flatMap.mpr ⟨_, List.mem_flatMap.mpr ⟨group, hgroup, hstart⟩, hsite⟩

/-- The types of a group that lists types. -/
theorem covers_namedTypes {type : TypeNode} {members : List Member} {types : List Shape}
    (hfind : group.find extractor.options = .ok (some (type, members)))
    (hgroup : startsOf group type members =
      members.filterMap fun member => member.type?.map (·, member.name))
    (h : extractor.namedTypesAlone group members = .ok types) :
    extractor.Covers (types.flatMap descendants) := by
  obtain ⟨entries, hentries, rfl⟩ := namedTypesAlone_eq_ok.mp h
  intro n hn
  obtain ⟨entry, hentry, hn⟩ := List.mem_flatMap.mp hn
  obtain ⟨member, hmember, halone⟩ :=
    Attempt.exists_of_mem_right hentries (Group.mem_of_mem_firstNamed hentry)
  obtain ⟨target, s, htype, hs, rfl⟩ := entryOf_namedTypeAlone.mp halone
  have hstart : (target, member.name) ∈ extractor.starts group := by
    simp only [starts, hfind, hgroup, List.mem_filterMap]
    exact ⟨member, hmember, by rw [htype]; rfl⟩
  exact covers_of_start hpath hstart hs n hn

/-- The members of a group that is described as one type. -/
theorem covers_root {type : TypeNode} {members : List Member} {root : Shape}
    (hfind : group.find extractor.options = .ok (some (type, members)))
    (hgroup : startsOf group type members = [(type, group.rootName)])
    (h : (describe extractor.program extractor.settings (.type type) (.root group.rootName) :
      Attempt Shape) = .ok root) : extractor.Covers root.descendants := by
  have hstart : (type, group.rootName) ∈ extractor.starts group := by
    simp [starts, hfind, hgroup]
  exact covers_of_start hpath hstart h

/-- Models are described one by one, each at its own start. -/
theorem covers_models {models : List Shape} (h : (extractor.models : Attempt _) = .ok models) :
    extractor.Covers (models.flatMap descendants) := by
  obtain ⟨type, members, hfind, htypes⟩ := models_eq_ok.mp h
  exact covers_namedTypes hpath hfind rfl htypes

/-- So are inputs, which may be missing. -/
theorem covers_inputs {inputs : List Shape} (h : (extractor.inputs : Attempt _) = .ok inputs) :
    extractor.Covers (inputs.flatMap descendants) := by
  obtain rfl | ⟨type, members, hfind⟩ := found_or_absent rfl h
  · exact nofun
  · exact covers_namedTypes hpath hfind rfl ((inputs_eq hfind).symm.trans h)

/-- Operations are the members of one type, which is described as a whole. -/
theorem covers_operations (hgroup : ∀ type members,
      startsOf group type members = [(type, group.rootName)]) {operations : List Shape}
    (h : (extractor.operations group : Attempt _) = .ok operations) :
    extractor.Covers (walkAll operations) := by
  obtain rfl | ⟨type, members, hfind⟩ := found_or_absent rfl h
  · exact nofun
  rw [operations_eq hfind] at h
  obtain ⟨root, hroot, h⟩ := Attempt.bind_eq_ok.mp h
  cases Attempt.pure_eq_ok.mp h
  have hproperties :=
    (forall_mem_descendants.mp (covers_root hpath hfind (hgroup _ _) hroot)).1
  intro n hn
  obtain ⟨operation, hoperation, hn⟩ := mem_walkAll.mp hn
  obtain ⟨property, hproperty, rfl⟩ := List.mem_map.mp hoperation
  exact covers_operation (hproperties property hproperty) n hn

/-- So are actions, whose parts are properties of the members. -/
theorem covers_actions {actions : List Action} (h : (extractor.actions : Attempt _) = .ok actions) :
    extractor.Covers (walkAll (actions.flatMap Action.shapes)) := by
  obtain rfl | ⟨type, members, hfind⟩ := found_or_absent rfl h
  · exact nofun
  rw [actions_eq hfind] at h
  obtain ⟨root, hroot, h⟩ := Attempt.bind_eq_ok.mp h
  have hproperties := (forall_mem_descendants.mp (covers_root hpath hfind rfl hroot)).1
  intro n hn
  obtain ⟨shape, hshape, hn⟩ := mem_walkAll.mp hn
  obtain ⟨action, haction, hshape⟩ := List.mem_flatMap.mp hshape
  obtain ⟨property, hproperty, hparts⟩ :=
    Attempt.exists_of_mem_right (Attempt.mapM_eq_ok.mp h) haction
  have hpart : shape ∈ property.properties := mem_properties_of_action hparts hshape
  have hbelow := (forall_mem_walk.mp (hproperties property hproperty)).2.1
  exact hbelow shape hpart n hn

/-- The two sides of a selection are described at the name of the member. -/
theorem covers_selections {pairs : List Selection}
    (h : (extractor.selections : Attempt _) = .ok pairs) :
    extractor.Covers ((pairs.flatMap Selection.shapes).flatMap descendants) := by
  obtain rfl | ⟨type, members, hfind⟩ := found_or_absent rfl h
  · exact nofun
  rw [selections_eq hfind, Attempt.mapM_eq_ok] at h
  intro n hn
  obtain ⟨shape, hshape, hn⟩ := List.mem_flatMap.mp hn
  obtain ⟨pair, hpair, hshape⟩ := List.mem_flatMap.mp hshape
  obtain ⟨member, hmember, hpair⟩ := Attempt.exists_of_mem_right h hpair
  obtain ⟨⟨source, selection⟩, htypes, hpair⟩ := Attempt.bind_eq_ok.mp hpair
  obtain ⟨first, hfirst, hpair⟩ := Attempt.bind_eq_ok.mp hpair
  obtain ⟨second, hsecond, hpair⟩ := Attempt.bind_eq_ok.mp hpair
  cases Attempt.pure_eq_ok.mp hpair
  -- Both sides are starts of the group, under the name of the member.
  have hstart {start : TypeNode × String}
      (h : start ∈ [(source, member.name), (selection, member.name)]) :
      start ∈ extractor.starts .selections := by
    simp only [starts, hfind, startsOf, List.mem_flatMap]
    refine ⟨member, hmember, ?_⟩
    rw [show Group.selectionTypes member = .ok (source, selection) from htypes]
    exact h
  simp only [Selection.shapes, List.mem_cons, List.not_mem_nil, or_false] at hshape
  rcases hshape with rfl | rfl
  · exact covers_of_start hpath (hstart (by simp)) hfirst n hn
  · exact covers_of_start hpath (hstart (by simp)) hsecond n hn

end

end Extractor

/-! ### Whole applications -/

namespace Extraction

variable {program : Program} {settings : Settings} {app : Application}

/-- The groups of an extracted application. -/
structure Extracts (extractor : Extractor) (app : Application) : Prop where
  models : (extractor.models : Attempt _) = .ok app.models
  inputs : (extractor.inputs : Attempt _) = .ok app.inputs
  queries : (extractor.operations .queries : Attempt _) = .ok app.queries
  mutations : (extractor.operations .mutations : Attempt _) = .ok app.mutations
  subscriptions : (extractor.operations .subscriptions : Attempt _) = .ok app.subscriptions
  actions : (extractor.actions : Attempt _) = .ok app.actions
  selections : (extractor.selections : Attempt _) = .ok app.selections

/-- An application is extracted from a root that is accepted, and each of its
groups is extracted by itself. -/
theorem application_eq_ok (h : (application program settings : Attempt Application) = .ok app) :
    ∃ name options,
      applicationRoot (rootModule program) settings.appFactory = .ok (name, options) ∧
        Extracts ⟨program, settings, options⟩ app := by
  unfold application at h
  obtain ⟨⟨name, options⟩, hroot, h⟩ := Attempt.bind_eq_ok.mp h
  obtain ⟨-, -, h⟩ := Attempt.bind_eq_ok.mp h
  obtain ⟨models, hmodels, h⟩ := Attempt.bind_eq_ok.mp h
  obtain ⟨inputs, hinputs, h⟩ := Attempt.bind_eq_ok.mp h
  obtain ⟨queries, hqueries, h⟩ := Attempt.bind_eq_ok.mp h
  obtain ⟨mutations, hmutations, h⟩ := Attempt.bind_eq_ok.mp h
  obtain ⟨subscriptions, hsubscriptions, h⟩ := Attempt.bind_eq_ok.mp h
  obtain ⟨actions, hactions, h⟩ := Attempt.bind_eq_ok.mp h
  obtain ⟨selections, hselections, h⟩ := Attempt.bind_eq_ok.mp h
  obtain ⟨-, -, h⟩ := Attempt.bind_eq_ok.mp h
  cases Attempt.pure_eq_ok.mp h
  rw [Extractor.ofExcept_eq] at hroot
  exact ⟨name, options, hroot, hmodels, hinputs, hqueries, hmutations, hsubscriptions, hactions,
    hselections⟩

/-- The sites that the extraction of an application visits. -/
def visited (program : Program) (settings : Settings) : List Expansion.Site :=
  match applicationRoot (rootModule program) settings.appFactory with
  | .ok (_, options) => Extractor.visited ⟨program, settings, options⟩
  | .error _ => []

end Extraction

/-- The shapes below the members of an application: parts of models, inputs
and selections, and everything in operations and actions. -/
def Application.belowMembers (app : Application) : List Shape :=
  app.models.flatMap descendants ++ app.inputs.flatMap descendants ++
    walkAll app.queries ++ walkAll app.mutations ++ walkAll app.subscriptions ++
    walkAll (app.actions.flatMap Action.shapes) ++
    (app.selections.flatMap Selection.shapes).flatMap descendants

namespace Extraction

variable {program : Program} {settings : Settings} {app : Application}

/-- All groups together: below the members of an application, every shape is
told by a site that the extraction visits. -/
theorem sourced_below_members
    (h : (application program settings : Attempt Application) = .ok app)
    (hpath : ∀ site ∈ visited program settings, site.ctx.basePath ≠ "") :
    ∀ n ∈ app.belowMembers,
      Sourced program settings (· ∈ visited program settings) n.propertyPath n := by
  obtain ⟨name, options, hroot, hgroups⟩ := application_eq_ok h
  have hvisited : visited program settings = Extractor.visited ⟨program, settings, options⟩ := by
    rw [visited, hroot]
  rw [hvisited] at hpath ⊢
  unfold Application.belowMembers
  simp only [List.forall_mem_append]
  exact ⟨⟨⟨⟨⟨⟨Extractor.covers_models hpath hgroups.models,
    Extractor.covers_inputs hpath hgroups.inputs⟩,
    Extractor.covers_operations hpath (fun _ _ => rfl) hgroups.queries⟩,
    Extractor.covers_operations hpath (fun _ _ => rfl) hgroups.mutations⟩,
    Extractor.covers_operations hpath (fun _ _ => rfl) hgroups.subscriptions⟩,
    Extractor.covers_actions hpath hgroups.actions⟩,
    Extractor.covers_selections hpath hgroups.selections⟩

/-- Sites all of which have a path, and where what is written at paths that
read alike without dots is the same: literals with the same values, and unions
with the same alternatives at one path. -/
structure PathsApart (sites : List Expansion.Site) : Prop where
  path : ∀ site ∈ sites, site.ctx.basePath ≠ ""
  enums : ∀ first ∈ sites.filterMap Expansion.Site.enum?,
    ∀ second ∈ sites.filterMap Expansion.Site.enum?,
      baseName first.1 = baseName second.1 → first.2 = second.2
  unions : ∀ first ∈ sites.filterMap Expansion.Site.union?,
    ∀ second ∈ sites.filterMap Expansion.Site.union?,
      baseName first.1 = baseName second.1 → first = second

/-- Where the paths of the written unions that an extraction visits are apart,
a made name stands for one type: below the members of the application, any two
enums of literals of one name list the same values in the same order, and any
two unions of one name have the same alternatives. -/
theorem synthesizedNames_identify
    (h : (application program settings : Attempt Application) = .ok app)
    (hpaths : PathsApart (visited program settings)) {n other : Shape}
    (hn : n ∈ app.belowMembers) (hother : other ∈ app.belowMembers)
    (hname : n.typeName = other.typeName) :
    (n.IsLiteralEnum → other.IsLiteralEnum → n.values = other.values) ∧
      (n.kind = .union → other.kind = .union → n.SameAlternatives other) := by
  have hsourced := sourced_below_members h hpaths.path
  constructor
  · intro hkind hkind'
    have hfirst := (hsourced n hn).enum hkind
    have hsecond := (hsourced other hother).enum hkind'
    obtain ⟨site, hsite, hwritten⟩ := hfirst.site
    obtain ⟨site', hsite', hwritten'⟩ := hsecond.site
    exact hpaths.enums _ (List.mem_filterMap.mpr ⟨site, hsite, hwritten⟩)
      _ (List.mem_filterMap.mpr ⟨site', hsite', hwritten'⟩) ((hfirst.sameName_iff hsecond).mp hname)
  · intro hkind hkind'
    -- The alternatives may have arguments put to them, but not the types
    -- that they come from.
    have hfirst := (hsourced n hn).union hkind
    have hsecond := (hsourced other hother).union hkind'
    obtain ⟨site, types, hsite, hwritten, alternatives, halternatives, hspliced⟩ := hfirst.site
    obtain ⟨site', types', hsite', hwritten', alternatives', halternatives', hspliced'⟩ :=
      hsecond.site
    have hsame := hpaths.unions _ (List.mem_filterMap.mpr ⟨site, hsite, hwritten⟩)
      _ (List.mem_filterMap.mpr ⟨site', hsite', hwritten'⟩) ((hfirst.sameName_iff hsecond).mp hname)
    -- One path and one list of types, so one list of alternatives.
    rw [Prod.mk.injEq] at hsame
    rw [hsame.1, hsame.2] at halternatives
    obtain rfl := alternatives_unique halternatives halternatives'
    exact ⟨alternatives, hspliced, hspliced'⟩

/-! ### Tasks, and a search -/

open Extractor (keyed amount record)

/-- An enum of string literals. -/
def choice (values : List String) : TypeNode :=
  ⟨.union (values.map fun value => ⟨.stringLiteral value, {}⟩), {}⟩

/-- A program that declares an application with `options`. -/
def declaring (declarations : List (String × Declaration)) (options : List Member) : Program where
  modules := #[
    { path := ⟨true, ["app.ts"]⟩
      declarations
      exports := [
        { name := "app"
          kind := .variable (some
            { callee := "createApp", typeArgs := [record options], location := {} })
          location := {} }] }]

/-- A task. Its two dates have names that are the same in upper camel case. -/
def task : Declaration where
  name := "Task"
  form := .interface [] [
    keyed "dueDate" (choice ["soon", "late"]),
    keyed "due_date" (choice ["soon", "late"]),
    keyed "state" (choice ["open", "done"]),
    keyed "note" ⟨.union [⟨.keyword .string, {}⟩, amount], {}⟩]
  doc := {}
  scope := 0
  location := {}
  isGeneric := false

/-- A reference to the task. -/
def taskType : TypeNode := ⟨.reference ⟨.identifier "Task", [], 0⟩, {}⟩

/-- Tasks as a model, and tasks selected from tasks. -/
def tasks : Program :=
  declaring [("Task", task)] [
    keyed "models" (record [keyed "Task" taskType]),
    keyed "selections" (record [
      keyed "all" ⟨.reference ⟨.identifier "Pick", [taskType, taskType], 0⟩, {}⟩])]

/-- An enum of string literals at `path`. -/
def choiceShape (typeName name path : String) (values : List String) : Shape where
  kind := .enum
  typeName := some typeName
  propertyName := name
  propertyPath := path
  properties := values.map (literalProperty path)

/-- The first date of a task. -/
def dueDateShape : Shape :=
  choiceShape "TaskDueDateEnum" "dueDate" "Task.dueDate" ["soon", "late"]

/-- The second date of a task. -/
def otherDateShape : Shape :=
  choiceShape "TaskDueDateEnum" "due_date" "Task.due_date" ["soon", "late"]

/-- The note of a task. -/
def noteShape : Shape where
  kind := .union
  typeName := some "TaskNoteUnion"
  propertyName := "note"
  propertyPath := "Task.note"
  properties := [
    { kind := .string, propertyPath := "Task.note.0" },
    { kind := .number, propertyPath := "Task.note.1" }]

/-- The shape of a task. -/
def taskShape : Shape where
  kind := .object
  typeName := some "Task"
  propertyPath := "Task"
  properties := [dueDateShape, otherDateShape,
    choiceShape "TaskStateEnum" "state" "Task.state" ["open", "done"], noteShape]

/-- The application of tasks. -/
def tasksApp : Application where
  name := "app"
  models := [taskShape]
  selections := [⟨taskShape, taskShape⟩]

/-- The paths of the two dates give one name, but the same values are written
at both. -/
theorem tasks_apart : PathsApart (visited tasks {}) := by
  have hunions : (visited tasks {}).filterMap Expansion.Site.union? =
      List.replicate 3 ("Task.note", [⟨.keyword .string, {}⟩, amount]) := rfl
  refine ⟨by decide, by decide, ?_⟩
  rw [hunions]
  intro first hfirst second hsecond _
  rw [List.eq_of_mem_replicate hfirst, List.eq_of_mem_replicate hsecond]

/-- The two dates of a task, and the note as part of the model. -/
theorem synthesizedNames_identify_tasks :
    (application tasks {} : Attempt _) = .ok tasksApp ∧ PathsApart (visited tasks {}) ∧
      dueDateShape.values = otherDateShape.values ∧ noteShape.SameAlternatives noteShape := by
  have happ : (application tasks {} : Attempt _) = .ok tasksApp := rfl
  have hparts (part : Shape) (hpart : part ∈ taskShape.properties) :
      part ∈ tasksApp.belowMembers := by
    have hmodel : part ∈ taskShape.descendants := by
      simp only [descendants, List.mem_append, mem_walkAll]
      exact .inl (.inl ⟨part, hpart, by simp [walk_eq]⟩)
    simp [Application.belowMembers, tasksApp, hmodel]
  have hdates := synthesizedNames_identify happ tasks_apart
    (hparts dueDateShape (by simp [taskShape])) (hparts otherDateShape (by simp [taskShape])) rfl
  have hnotes := synthesizedNames_identify happ tasks_apart
    (hparts noteShape (by simp [taskShape])) (hparts noteShape (by simp [taskShape])) rfl
  have hdue : dueDateShape.IsLiteralEnum := ⟨rfl, _, List.mem_cons_self .., rfl⟩
  have hother : otherDateShape.IsLiteralEnum := ⟨rfl, _, List.mem_cons_self .., rfl⟩
  exact ⟨happ, tasks_apart, hdates.1 hdue hother, hnotes.2 rfl rfl⟩

/-- A search that takes a kind and answers with the arguments that it used. -/
def search : Signature where
  params := [
    { name := "args"
      isOptional := false
      type := some (record [keyed "kind" (choice ["x", "y"])]) }]
  returns := some (record [keyed "args" (record [keyed "kind" (choice ["z", "w"])])])

/-- A model, and a query that searches. -/
def searches : Program :=
  declaring [] [
    keyed "models" (record [keyed "Count" amount]),
    keyed "queries" (record [{ keyed "find" amount with form := .method search }])]

/-- The kind that the search is asked for. -/
def askedKind : Shape :=
  choiceShape "QueryFindArgsKindEnum" "kind" "Query.find.args.kind" ["x", "y"]

/-- The kind that the search answers with. -/
def answeredKind : Shape :=
  choiceShape "QueryFindArgsKindEnum" "kind" "Query.find.args.kind" ["z", "w"]

/-- An object at `path`. -/
def objectShape (name path : String) (properties : List Shape) : Shape where
  kind := .object
  propertyName := name
  propertyPath := path
  properties := properties

/-- The search. -/
def searchShape : Shape where
  kind := .function
  propertyName := "find"
  propertyPath := "Query.find"
  args := [objectShape "args" "Query.find.args" [askedKind]]
  returnType := some
    (objectShape "" "Query.find" [objectShape "args" "Query.find.args" [answeredKind]])

/-- The application that searches. -/
def searchesApp : Application where
  name := "app"
  models := [{ kind := .number, typeName := some "Count", propertyPath := "Count" }]
  queries := [searchShape]

set_option maxRecDepth 1024 in
/-- A parameter stands below its operation, and so does a property of the
return type. With one name they are at one path, and so are all their parts:
here are two enums of one name and different values. -/
theorem parameter_and_property_share_name :
    (application searches {} : Attempt _) = .ok searchesApp ∧
      askedKind ∈ searchesApp.belowMembers ∧ answeredKind ∈ searchesApp.belowMembers ∧
      askedKind.IsLiteralEnum ∧ answeredKind.IsLiteralEnum ∧
      askedKind.typeName = answeredKind.typeName ∧ askedKind.values ≠ answeredKind.values := by
  have hself (shape : Shape) : shape ∈ shape.walk := by simp [walk_eq]
  have hasked : askedKind ∈ walkAll searchesApp.queries := by
    simp [searchesApp, searchShape, objectShape, walkAll, walk, walkReturn, hself]
  have hanswered : answeredKind ∈ walkAll searchesApp.queries := by
    simp [searchesApp, searchShape, objectShape, walkAll, walk, walkReturn, hself]
  refine ⟨rfl, ?_, ?_, ⟨rfl, _, List.mem_cons_self .., rfl⟩, ⟨rfl, _, List.mem_cons_self .., rfl⟩,
    rfl, by decide⟩
  · simp [Application.belowMembers, hasked]
  · simp [Application.belowMembers, hanswered]

end Extraction

end AppMetadata
