import AppMetadata.Extraction
import AppMetadata.Proofs.Expansion.Counting

/-!
# `AppMetadata.Proofs.DepthLimit`: what the limit on nested nodes can change

A limit that is reached ends the extraction, and a limit that is not reached
leaves no trace. So of two runs that differ in the limit alone, the one with
the lower limit gives the answer of the other, or it was cut off
(`CutOff`). No step of a walk, of a group or of the whole extraction looks at
a failure and goes on, which is why the relation is a `Simulation`.

* `describe_cutOff`, `models_cutOff` to `selections_cutOff` and
  `application_cutOff`: the runs on each level.
* `depthLimit_cuts_off`: all of them, together with the count of a walker
  that serves many calls.
-/

set_option autoImplicit false

namespace AppMetadata

/-- The first run gives the answer of the second one, or it was cut off at
`limit`. -/
def CutOff {α : Type} (limit : Nat) (cut whole : Attempt α) : Prop :=
  cut = whole ∨ ∃ location, cut = .error (.depthExceeded limit location)

namespace CutOff

variable {α β : Type} {limit : Nat}

/-- A run that is not changed is not cut off. -/
theorem refl (run : Attempt α) : CutOff limit run run :=
  .inl rfl

/-- A run in two steps is cut off in its first step or in its second one. The
second step counts only after an answer of the whole first one. -/
theorem bind_of_ok {cut whole : Attempt α} {f g : α → Attempt β} (h : CutOff limit cut whole)
    (hnext : ∀ a, whole = .ok a → CutOff limit (f a) (g a)) :
    CutOff limit (cut >>= f) (whole >>= g) := by
  rcases h with rfl | ⟨location, rfl⟩
  · cases cut with
    | ok a => exact hnext a rfl
    | error e => exact refl _
  · exact .inr ⟨location, rfl⟩

/-- The same if the second step is related for any answer. -/
theorem bind {cut whole : Attempt α} {f g : α → Attempt β} (h : CutOff limit cut whole)
    (hnext : ∀ a, CutOff limit (f a) (g a)) : CutOff limit (cut >>= f) (whole >>= g) :=
  h.bind_of_ok fun a _ => hnext a

/-- Changing an answer cuts nothing off. -/
theorem map {cut whole : Attempt α} (h : CutOff limit cut whole) (f : α → β) :
    CutOff limit (f <$> cut) (f <$> whole) := by
  rcases h with rfl | ⟨location, rfl⟩
  · exact refl _
  · exact .inr ⟨location, rfl⟩

/-- An answer is no failure, so it is that of the whole run. -/
theorem eq_ok {cut whole : Attempt α} (h : CutOff limit cut whole) {a : α} (hcut : cut = .ok a) :
    whole = .ok a := by
  rcases h with rfl | ⟨location, rfl⟩
  · exact hcut
  · cases hcut

end CutOff

/-- Runs without a count, of which the first may be cut off. -/
def cutting (limit : Nat) : Simulation Attempt Attempt where
  Related := CutOff limit
  pure _ := .refl _
  throw _ := .refl _
  note _ := .refl _
  bind := .bind

open Expansion in
/-- Runs that share a walker, which is inside of no node before and after. -/
def cuttingShared (limit : Nat) : Simulation (Counted Attempt) (Counted Attempt) where
  Related x y := ∃ cut whole, x.run.run 0 = .ok (cut, 0) ∧ y.run.run 0 = .ok (whole, 0) ∧
    CutOff limit cut whole
  pure _ := ⟨_, _, rfl, rfl, .refl _⟩
  throw _ := ⟨_, _, rfl, rfl, .refl _⟩
  note _ := ⟨_, _, rfl, rfl, .refl _⟩
  bind := by
    rintro α β x y f g ⟨cut, whole, hx, hy, hcut⟩ hnext
    cases cut with
    | error e =>
      -- The first run ends here. The second one may go on, but what it does then
      -- is asked only for the count that it leaves.
      have hxf := Counted.run_bind_error hx f
      cases whole with
      | error e' =>
        refine ⟨_, _, hxf, Counted.run_bind_error hy g, ?_⟩
        rcases hcut with heq | ⟨location, heq⟩
        · cases heq
          exact .refl _
        · cases heq
          exact .inr ⟨location, rfl⟩
      | ok a =>
        obtain ⟨location, heq⟩ := hcut.resolve_left (by simp)
        cases heq
        obtain ⟨_, whole, _, hg, _⟩ := hnext a
        exact ⟨_, whole, hxf, (Counted.run_bind_ok hy g).trans hg, .inr ⟨location, rfl⟩⟩
    | ok a =>
      obtain rfl : Except.ok a = whole := hcut.resolve_right (by simp)
      obtain ⟨cut', whole', hf, hg, hcut'⟩ := hnext a
      exact ⟨cut', whole', (Counted.run_bind_ok hx f).trans hf,
        (Counted.run_bind_ok hy g).trans hg, hcut'⟩

namespace Expansion

/-! ### One walk -/

variable {program : Program} {s t : Settings}

/-- With fewer levels, and a limit that may differ, a description is the same
or is cut off. Where no level is left it is cut off, and above that only
through the nodes below. -/
theorem describeWithin_cutOff (hwrapper : t.modelWrapper = s.modelWrapper) {levels more : Nat}
    (hle : levels ≤ more) (node : Node) (ctx : Context) :
    CutOff s.maxDepth (describeWithin program s levels node ctx)
      (describeWithin program t more node ctx) := by
  -- Both walks enter the same nodes until the first one has no level left.
  induction levels generalizing more node ctx with
  | zero => exact .inr ⟨node.location, rfl⟩
  | succ levels ih =>
    obtain ⟨rest, rfl⟩ : ∃ rest, more = rest + 1 := ⟨more - 1, by omega⟩
    have hsimilar : Walker.Similar (cutting s.maxDepth) (walkerWithin program s levels)
        (walkerWithin program t rest) :=
      { program := rfl
        wrapper := hwrapper
        describe := fun node ctx => ih (by omega) node ctx }
    rw [describeWithin_succ, describeWithin_succ]
    exact CutOff.bind ((cutting s.maxDepth).describeNode hsimilar node ctx) fun _ => .refl _

/-- What is described is described alike with more levels. -/
theorem describeWithin_mono (hwrapper : t.modelWrapper = s.modelWrapper) {levels more : Nat}
    (hle : levels ≤ more) {node : Node} {ctx : Context} {shape : Shape}
    (h : describeWithin program s levels node ctx = .ok shape) :
    describeWithin program t more node ctx = .ok shape :=
  (describeWithin_cutOff hwrapper hle node ctx).eq_ok h

/-- What a walk finds below the limit, the whole description finds. -/
theorem describe_of_describeWithin {levels : Nat} (hlevels : levels ≤ s.maxDepth) {node : Node}
    {ctx : Context} {shape : Shape}
    (h : describeWithin program s levels node ctx = .ok shape) :
    (describe program s node ctx : Attempt Shape) = .ok shape := by
  rw [describe_eq_describeWithin]
  exact describeWithin_mono rfl hlevels h

/-- Walkers with all the levels that their settings give. -/
theorem walkerWithin_similar (program : Program) (hwrapper : t.modelWrapper = s.modelWrapper)
    (hle : s.maxDepth ≤ t.maxDepth) :
    Walker.Similar (cutting s.maxDepth) (walkerWithin program s s.maxDepth)
      (walkerWithin program t t.maxDepth) where
  program := rfl
  wrapper := hwrapper
  describe := describeWithin_cutOff hwrapper hle

/-- So is one with a lower limit from the start. -/
theorem describe_cutOff (hwrapper : t.modelWrapper = s.modelWrapper)
    (hle : s.maxDepth ≤ t.maxDepth) (node : Node) (ctx : Context) :
    CutOff s.maxDepth (describe program s node ctx) (describe program t node ctx) := by
  rw [describe_eq_describeWithin, describe_eq_describeWithin]
  exact describeWithin_cutOff hwrapper hle node ctx

/-- And that of a member, which is described as its type is. -/
theorem describeMember_cutOff (hwrapper : t.modelWrapper = s.modelWrapper)
    (hle : s.maxDepth ≤ t.maxDepth) (member : Member) (base : String) (owner : Option String) :
    CutOff s.maxDepth (describeMember program s member base owner)
      (describeMember program t member base owner) := by
  rw [describeMember_eq_walkerWithin, describeMember_eq_walkerWithin]
  exact (cutting s.maxDepth).describeMember (walkerWithin_similar program hwrapper hle).agree base
    owner rfl

/-- A run that counts from zero, of two that are related for each count. -/
theorem fresh_cutOff {α : Type} {limit : Nat} {x y : Counted Attempt α}
    (h : (cuttingShared limit).Related x y) : CutOff limit (fresh x) (fresh y) := by
  obtain ⟨cut, whole, hx, hy, hcut⟩ := h
  rw [fresh_eq hx, fresh_eq hy]
  exact hcut

end Expansion

/-! ### The groups of an application

The members of a group share a walker, so their runs are related by
`cuttingShared`; what a group makes of them is related by `cutting`. -/

namespace Extractor

open Expansion

variable {e f : Extractor}

/-- Extractors for one application. The settings of the second one allow more
nested nodes. -/
structure Deeper (e f : Extractor) : Prop where
  program : f.program = e.program
  options : f.options = e.options
  wrapper : f.settings.modelWrapper = e.settings.modelWrapper
  maxDepth : e.settings.maxDepth ≤ f.settings.maxDepth

/-- Each root of a group is described with a count of its own. -/
theorem describeRoot_cutOff (h : Deeper e f) (type : TypeNode) (owner : String) :
    (cuttingShared e.settings.maxDepth).Related (e.describeRoot type owner)
      (f.describeRoot type owner) := by
  refine ⟨_, _, (walker_similar e.program e.settings).describe _ _,
    (walker_similar f.program f.settings).describe _ _, ?_⟩
  rw [h.program]
  exact (walkerWithin_similar e.program h.wrapper h.maxDepth).describe _ _

/-- Looking for a group describes nothing. -/
theorem group_cutOff (h : Deeper e f) (limit : Nat) (group : Group) :
    CutOff limit (e.group group) (f.group group) := by
  unfold Extractor.group
  rw [h.options]
  exact .refl _

/-- An entry of the models or inputs is described once. -/
theorem namedType_cutOff (h : Deeper e f) (group : Group) (member : Member) :
    (cuttingShared e.settings.maxDepth).Related (e.namedType group member)
      (f.namedType group member) := by
  unfold namedType
  split
  · exact (cuttingShared _).bind (describeRoot_cutOff h _ _) fun _ => (cuttingShared _).pure _
  · exact (cuttingShared _).throw _

/-- Notes have no answer. -/
theorem noteNovelty_cutOff (limit : Nat) (group : Group) (type : Shape)
    (novelty : Group.Novelty) :
    (cuttingShared limit).Related (noteNovelty group type novelty)
      (noteNovelty group type novelty) := by
  cases novelty with
  | new => exact (cuttingShared limit).pure ()
  | repeated => exact (cuttingShared limit).note _
  | conflicting => exact (cuttingShared limit).note _

/-- The entries are described one after the other, and those that are there
already are left out by their names, which the limit does not change. -/
theorem namedTypes_cutOff (h : Deeper e f) (group : Group) (members : List Member) :
    (cuttingShared e.settings.maxDepth).Related (e.namedTypes group members)
      (f.namedTypes group members) := by
  let S := cuttingShared e.settings.maxDepth
  refine S.bind (S.foldlM members [] fun types member _ => ?_) fun types =>
    S.bind (S.note _) fun _ => S.pure types
  exact S.bind (namedType_cutOff h group member) fun type =>
    S.bind (noteNovelty_cutOff _ group type _) fun _ => S.pure _

/-- A selection describes its two types. -/
theorem selection_cutOff (h : Deeper e f) (member : Member) :
    (cuttingShared e.settings.maxDepth).Related (e.selection member) (f.selection member) := by
  let S := cuttingShared e.settings.maxDepth
  refine S.bind (S.ofExcept _) fun types => ?_
  exact S.bind (describeRoot_cutOff h _ _) fun source =>
    S.bind (describeRoot_cutOff h _ _) fun selection => S.pure _

/-- The two extractors find the same group, and a group that is not there is
treated alike. So only what is made of its members has to be compared. -/
theorem group_bind_cutOff (h : Deeper e f) {limit : Nat} {α : Type} (group : Group)
    {next next' : Option (TypeNode × List Member) → Attempt α} (hnone : next none = next' none)
    (hsome : ∀ found, CutOff limit (next (some found)) (next' (some found))) :
    CutOff limit (e.group group >>= next) (f.group group >>= next') := by
  refine (group_cutOff h limit group).bind fun found => ?_
  cases found with
  | none =>
    rw [hnone]
    exact .refl _
  | some found => exact hsome found

/-- The models, -/
theorem models_cutOff (h : Deeper e f) : CutOff e.settings.maxDepth e.models f.models :=
  group_bind_cutOff h .models rfl fun found => fresh_cutOff (namedTypes_cutOff h .models found.2)

/-- the inputs, -/
theorem inputs_cutOff (h : Deeper e f) : CutOff e.settings.maxDepth e.inputs f.inputs :=
  group_bind_cutOff h .inputs rfl fun found => fresh_cutOff (namedTypes_cutOff h .inputs found.2)

/-- the operations of one kind, -/
theorem operations_cutOff (h : Deeper e f) (group : Group) :
    CutOff e.settings.maxDepth (e.operations group) (f.operations group) := by
  refine group_bind_cutOff h group rfl fun found => ?_
  have hroot := fresh_cutOff (describeRoot_cutOff h found.1 group.rootName)
  exact hroot.bind fun _ => .refl _

/-- the actions, of which the making may fail in its own way after the
description, -/
theorem actions_cutOff (h : Deeper e f) : CutOff e.settings.maxDepth e.actions f.actions := by
  refine group_bind_cutOff h .actions rfl fun found => ?_
  have hroot := fresh_cutOff (describeRoot_cutOff h found.1 Group.actions.rootName)
  exact hroot.bind fun _ => .refl _

/-- and the selections. -/
theorem selections_cutOff (h : Deeper e f) :
    CutOff e.settings.maxDepth e.selections f.selections := by
  refine group_bind_cutOff h .selections rfl fun found => ?_
  have hmembers := (cuttingShared e.settings.maxDepth).mapM found.2
    fun member _ => selection_cutOff h member
  exact (fresh_cutOff hmembers).bind fun _ => .refl _

end Extractor

/-! ### The whole extraction -/

namespace Extraction

/-- The groups of an application come one after the other, so it is cut off
where the first of them is. -/
theorem application_cutOff (program : Program) {s t : Settings}
    (hfactory : t.appFactory = s.appFactory) (hwrapper : t.modelWrapper = s.modelWrapper)
    (hle : s.maxDepth ≤ t.maxDepth) :
    CutOff s.maxDepth (application program s) (application program t) := by
  unfold application
  rw [hfactory]
  -- The application is found and named before any type is described.
  refine CutOff.bind (.refl _) fun root => CutOff.bind (.refl _) fun _ => ?_
  have h : Extractor.Deeper ⟨program, s, root.2⟩ ⟨program, t, root.2⟩ := ⟨rfl, rfl, hwrapper, hle⟩
  exact (Extractor.models_cutOff h).bind fun models =>
    (Extractor.inputs_cutOff h).bind fun inputs =>
    (Extractor.operations_cutOff h .queries).bind fun queries =>
    (Extractor.operations_cutOff h .mutations).bind fun mutations =>
    (Extractor.operations_cutOff h .subscriptions).bind fun subscriptions =>
    (Extractor.actions_cutOff h).bind fun actions =>
    (Extractor.selections_cutOff h).bind fun selections => .refl _

end Extraction

/-- Settings with another limit. -/
def Settings.allowing (settings : Settings) (limit : Nat) : Settings :=
  { settings with maxDepth := limit }

open Expansion in
/-- What takes more levels than the settings allow may be cut off. It is
described once they allow as many. -/
theorem cutOff_of_describeWithin {program : Program} {settings : Settings} {levels : Nat}
    {node : Node} {ctx : Context} {shape : Shape} (hle : settings.maxDepth ≤ levels)
    (h : describeWithin program settings levels node ctx = .ok shape) :
    CutOff settings.maxDepth (describe program settings node ctx) (.ok shape) ∧
      ∀ limit, levels ≤ limit →
        (describe program (settings.allowing limit) node ctx : Attempt Shape) = .ok shape := by
  constructor
  · rw [← h, describe_eq_describeWithin]
    exact describeWithin_cutOff rfl hle node ctx
  · intro limit hlimit
    rw [describe_eq_describeWithin]
    exact describeWithin_mono (s := settings) (t := settings.allowing limit) rfl hlimit h

open Expansion in
/-- The limit on nested nodes only cuts off. Of two runs whose settings
differ in the limit alone, the one with the lower limit answers as the other
one or says that its limit was exceeded: for a node, for a member, for every
group and for the whole application.

And a walker forgets what it did. The count is the same before and after it
describes a node, however deep inside of others and whether it succeeds or
fails, and each of a list of calls is answered as by a walker of its own. -/
theorem depthLimit_cuts_off (program : Program) (settings : Settings) {low high : Nat}
    (hle : low ≤ high) :
    let s := settings.allowing low
    let t := settings.allowing high
    (∀ node ctx, CutOff low (describe program s node ctx) (describe program t node ctx)) ∧
    (∀ member base owner,
      CutOff low (describeMember program s member base owner)
        (describeMember program t member base owner)) ∧
    (∀ options,
      let e : Extractor := { program, settings := s, options }
      let f : Extractor := { program, settings := t, options }
      CutOff low e.models f.models ∧ CutOff low e.inputs f.inputs ∧
      (∀ group, CutOff low (e.operations group) (f.operations group)) ∧
      CutOff low e.actions f.actions ∧ CutOff low e.selections f.selections) ∧
    CutOff low (Extraction.application program s) (Extraction.application program t) ∧
    (∀ levels count node ctx, count ≤ settings.maxDepth → settings.maxDepth < levels + count →
      ∃ answer, (describeCounted program settings levels node ctx : Counted Attempt Shape).run.run
        count = .ok (answer, count)) ∧
    (∀ calls, (answers program settings calls : StateT Nat Attempt _).run 0 =
      .ok (calls.map fun call => fresh (call.answer program settings), 0)) := by
  intro s t
  -- The two limits are compared level by level, and the groups only put such answers
  -- together.
  refine ⟨describe_cutOff rfl hle, describeMember_cutOff rfl hle, fun options => ?_,
    Extraction.application_cutOff program rfl rfl hle, ?_, answers_run program settings⟩
  · have h : Extractor.Deeper ⟨program, s, options⟩ ⟨program, t, options⟩ := ⟨rfl, rfl, rfl, hle⟩
    exact ⟨Extractor.models_cutOff h, Extractor.inputs_cutOff h, Extractor.operations_cutOff h,
      Extractor.actions_cutOff h, Extractor.selections_cutOff h⟩
  · intro levels count node ctx hcount hlevels
    exact ⟨_, describeCounted_run program settings node ctx hcount hlevels⟩

/-- The type `{ a: { b: number } }`, whose innermost type is the fifth node. -/
def nestedObjects : TypeNode :=
  let property (name : String) (type : TypeNode) : TypeNode :=
    ⟨.object [⟨name, .signature (some type), false, {}, {}⟩], {}⟩
  property "a" (property "b" ⟨.keyword .number, {}⟩)

/-- Of four nested nodes in place of five, the last one is refused. -/
theorem depthLimit_cuts_off_nestedObjects :
    4 ≤ 5 ∧
    Expansion.describe ⟨#[]⟩ (({} : Settings).allowing 4) (.type nestedObjects) (.root "T") =
      (.error (.depthExceeded 4 {}) : Attempt Shape) ∧
    CutOff 4
      (Expansion.describe ⟨#[]⟩ (({} : Settings).allowing 4) (.type nestedObjects) (.root "T"))
      (Expansion.describe ⟨#[]⟩ (({} : Settings).allowing 5) (.type nestedObjects) (.root "T")) :=
  ⟨by decide, rfl, (depthLimit_cuts_off ⟨#[]⟩ {} (by decide)).1 _ _⟩

end AppMetadata
