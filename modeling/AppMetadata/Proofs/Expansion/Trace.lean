import AppMetadata.Proofs.Expansion.Rules
import Mathlib.Control.Monad.Writer

/-!
# `AppMetadata.Proofs.Expansion.Trace`: the sites that a description comes to

A site is a node together with the context in which it is described, so it
also says at which path. The functions of `Walker` run in any computation,
and here they run in one that writes down every site (`Traced`). What they
answer is the same (`run_describeTraced`).

Statements about a whole description that ask something of its sites are
proved by cases on `Walker.Made`, where the walker below is confined to the
sites that are allowed (`walkerConfined`).

* `run_of_describe`: the description of a node, with the sites that it visits.
* `made_of_run`: one level of a walk whose sites are all allowed.
-/

set_option autoImplicit false

namespace AppMetadata.Expansion

/-- A node, and the context in which it is described. -/
structure Site where
  node : Node
  ctx : Context

/-- An attempt that lists the sites it comes to. -/
abbrev Traced := WriterT (List Site) Attempt

/-- A failure forgets the sites before it. -/
instance : MonadExceptOf ExtractionError Traced where
  throw e := WriterT.mk (throw e)
  tryCatch x handle := WriterT.mk (tryCatch x.run fun e => (handle e).run)

/-- No notes are kept. -/
instance : Journal Traced where
  note _ := pure ()

/-- Describes a node if it is nested at most `levels` deep, and lists the
sites, its own first. -/
def describeTraced (program : Program) (settings : Settings) :
    (levels : Nat) → Node → Context → Traced Shape
  | 0, node, _ => throw (ExtractionError.depthExceeded settings.maxDepth node.location)
  | levels + 1, node, ctx => do
    tell [⟨node, ctx⟩]
    let walker : Walker Traced :=
      { program, settings, describe := describeTraced program settings levels }
    return placed ctx (← walker.describeNode node ctx)

/-- The walker that lists the sites. -/
def walkerTraced (program : Program) (settings : Settings) (levels : Nat) : Walker Traced where
  program := program
  settings := settings
  describe := describeTraced program settings levels

/-- The sites that the description of a node visits, that of the node first;
none if it fails. -/
def visited (program : Program) (settings : Settings) (node : Node) (ctx : Context) :
    List Site :=
  match (describeTraced program settings settings.maxDepth node ctx).run with
  | .ok (_, sites) => sites
  | .error _ => []

/-! ### Runs of traced computations -/

namespace Traced

variable {α β : Type}

/-- Of two steps the sites of the first are written down before those of the
second. -/
theorem run_bind_eq_ok {x : Traced α} {f : α → Traced β} {b : β} {sites : List Site} :
    (x >>= f).run = .ok (b, sites) ↔
      ∃ a before after, x.run = .ok (a, before) ∧ (f a).run = .ok (b, after) ∧
        sites = before ++ after := by
  show (x.run >>= fun step => (fun rest => (rest.1, step.2 ++ rest.2)) <$> (f step.1).run) =
    .ok (b, sites) ↔ _
  cases x.run with
  | error e => exact ⟨nofun, nofun⟩
  | ok step =>
    obtain ⟨a, before⟩ := step
    show (fun rest : β × List Site => (rest.1, before ++ rest.2)) <$> (f a).run = .ok (b, sites) ↔ _
    cases hf : (f a).run with
    | error e =>
      constructor
      · exact nofun
      · rintro ⟨_, _, _, ⟨⟩, h, -⟩
        rw [hf] at h
        cases h
    | ok rest =>
      obtain ⟨b', after⟩ := rest
      constructor
      · rintro ⟨⟩
        exact ⟨a, before, after, rfl, hf, rfl⟩
      · rintro ⟨_, _, after', ⟨⟩, h, rfl⟩
        rw [hf] at h
        cases h
        rfl

end Traced

/-- Runs that answer alike, with and without a list of sites. -/
def tracing : Simulation Traced Attempt where
  Related x y := (Prod.fst <$> x.run : Attempt _) = y
  pure _ := rfl
  throw _ := rfl
  note _ := rfl
  bind {_ _ x y f g} hx hf := by
    subst hx
    show Prod.fst <$> (x.run >>= fun step =>
      (fun rest => (rest.1, step.2 ++ rest.2)) <$> (f step.1).run) = _
    cases x.run with
    | error e => rfl
    | ok step =>
      show Prod.fst <$> ((fun rest => (rest.1, step.2 ++ rest.2)) <$> (f step.1).run) = g step.1
      rw [← hf step.1]
      cases (f step.1).run <;> rfl

/-- A second run that answers as the first one does, as long as the first one
keeps to the sites that are allowed. -/
def confining (allowed : Site → Prop) : Simulation Traced Attempt where
  Related x y := ∀ a sites, x.run = .ok (a, sites) → (∀ site ∈ sites, allowed site) → y = .ok a
  pure a := by
    rintro _ _ ⟨⟩ -
    rfl
  throw e := nofun
  note event := by
    rintro _ _ ⟨⟩ -
    rfl
  bind {_ _ x y f g} hx hf := by
    intro b sites h hallowed
    obtain ⟨a, before, after, hbefore, hafter, rfl⟩ := Traced.run_bind_eq_ok.mp h
    rw [List.forall_mem_append] at hallowed
    rw [hx a before hbefore hallowed.1]
    exact hf a b after hafter hallowed.2

variable {program : Program} {settings : Settings} {levels : Nat} {node : Node} {ctx : Context}
  {s : Shape} {sites : List Site}

/-- Listing the sites changes no answer. -/
theorem run_describeTraced (program : Program) (settings : Settings) (levels : Nat) (node : Node)
    (ctx : Context) :
    (Prod.fst <$> (describeTraced program settings levels node ctx).run : Attempt Shape) =
      describeWithin program settings levels node ctx := by
  induction levels generalizing node ctx with
  | zero => rfl
  | succ levels ih =>
    have hsimilar : Walker.Similar tracing (walkerTraced program settings levels)
        (walkerWithin program settings levels) :=
      { program := rfl
        wrapper := rfl
        describe := ih }
    have htell : tracing.Related (tell [⟨node, ctx⟩] : Traced PUnit) (pure ⟨⟩) := rfl
    exact tracing.bind htell fun _ =>
      tracing.bind (tracing.describeNode hsimilar node ctx) fun _ => tracing.pure _

/-- The traced run of a whole description gives the same shape, and the sites
that `visited` lists. -/
theorem run_of_describe
    (h : (describe program settings node ctx : Attempt Shape) = .ok s) :
    (describeTraced program settings settings.maxDepth node ctx).run =
      .ok (s, visited program settings node ctx) := by
  rw [describe_eq_describeWithin, ← run_describeTraced] at h
  unfold visited
  cases hrun : (describeTraced program settings settings.maxDepth node ctx).run with
  | error e =>
    rw [hrun] at h
    cases h
  | ok answer =>
    rw [hrun] at h
    cases h
    rfl

/-- The sites apart, a traced run answers as the plain one does. -/
theorem describeWithin_of_run
    (h : (describeTraced program settings levels node ctx).run = .ok (s, sites)) :
    describeWithin program settings levels node ctx = .ok s := by
  rw [← run_describeTraced, h]
  rfl

/-! ### Walkers that keep to some sites -/

open Classical in
/-- The walker that fails at a node if its description comes to a site that is
not allowed. -/
noncomputable def walkerConfined (allowed : Site → Prop) (program : Program) (settings : Settings)
    (levels : Nat) : Walker Attempt where
  program := program
  settings := settings
  describe node ctx := do
    let (s, sites) ← (describeTraced program settings levels node ctx).run
    if ∀ site ∈ sites, allowed site then return s
    else throw (ExtractionError.depthExceeded settings.maxDepth node.location)

variable {allowed : Site → Prop}

/-- A confined walker answers where the traced run keeps to the allowed sites. -/
theorem walkerConfined_eq_ok :
    (walkerConfined allowed program settings levels).describe node ctx = .ok s ↔
      ∃ sites, (describeTraced program settings levels node ctx).run = .ok (s, sites) ∧
        ∀ site ∈ sites, allowed site := by
  unfold walkerConfined
  simp only [Attempt.bind_eq_ok, Prod.exists]
  constructor
  · rintro ⟨t, sites, hrun, h⟩
    split at h
    · next hallowed =>
      cases Attempt.pure_eq_ok.mp h
      exact ⟨sites, hrun, hallowed⟩
    · cases h
  · rintro ⟨sites, hrun, hallowed⟩
    exact ⟨s, sites, hrun, if_pos hallowed⟩

/-- A description that keeps to the allowed sites makes its shape out of
descriptions that do. -/
theorem made_of_run
    (h : (describeTraced program settings (levels + 1) node ctx).run = .ok (s, sites))
    (hallowed : ∀ site ∈ sites, allowed site) :
    allowed ⟨node, ctx⟩ ∧
      ∃ t, (walkerConfined allowed program settings levels).Made node ctx t ∧ s = placed ctx t := by
  have hsimilar : Walker.Similar (confining allowed) (walkerTraced program settings levels)
      (walkerConfined allowed program settings levels) :=
    { program := rfl
      wrapper := rfl
      describe := fun _ _ _ sites hrun hallowed => walkerConfined_eq_ok.mpr ⟨sites, hrun, hallowed⟩ }
  -- First the site of the node itself is written down, then those below it.
  obtain ⟨_, first, rest, hfirst, hnode, rfl⟩ := Traced.run_bind_eq_ok.mp h
  cases hfirst
  obtain ⟨t, below, last, hbelow, hlast, rfl⟩ := Traced.run_bind_eq_ok.mp hnode
  cases hlast
  obtain ⟨hown, hrest⟩ := List.forall_mem_append.mp hallowed
  have ht := (confining allowed).describeNode hsimilar node ctx t below hbelow
    (List.forall_mem_append.mp hrest).1
  exact ⟨hown _ (List.mem_singleton_self _), t, Walker.made_of_describeNode ht, rfl⟩

end AppMetadata.Expansion
