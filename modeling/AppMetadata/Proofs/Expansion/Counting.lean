import AppMetadata.Proofs.Expansion.Simulation

/-!
# `AppMetadata.Proofs.Expansion.Counting`: what the count of nested nodes does

`Expansion.describe` counts the nodes that it is inside of in a state, and
compares the count with the limit. `describeWithin` has no state: it is told
how many levels are left. The theorems of other modules speak about
`describe` and are proved about `describeWithin`.

* `describeCounted_run`: a walker that is inside of `count` nodes answers as
  `describeWithin` does with the levels that are left, and leaves the count
  as it was, whether it succeeds or fails.
* `describe_eq_describeWithin`: the same for a walker of its own.
* `agreeThroughout_succ`: walkers of two programs that agree on one level agree
  on the next one.
* `answers_run`: so every call on a shared walker is answered as if it were
  the first.
-/

set_option autoImplicit false

namespace AppMetadata.Expansion

/-! ### The run of a counted computation -/

section
variable {α β : Type} {count : Nat}

/-- After a first part that succeeds, the rest runs. -/
theorem Counted.run_bind_ok {x : Counted Attempt α} {a : α} {left : Nat}
    (h : x.run.run count = .ok (.ok a, left)) (f : α → Counted Attempt β) :
    (x >>= f).run.run count = (f a).run.run left := by
  -- The failure is inside of the state, so the count of `x` is handed on first.
  show (x.run.run count >>= fun step => (ExceptT.bindCont f step.1).run step.2) = _
  rw [h]
  rfl

/-- After a first part that fails, nothing runs and the count stays. -/
theorem Counted.run_bind_error {x : Counted Attempt α} {e : ExtractionError} {left : Nat}
    (h : x.run.run count = .ok (.error e, left)) (f : α → Counted Attempt β) :
    (x >>= f).run.run count = .ok (.error e, left) := by
  show (x.run.run count >>= fun step => (ExceptT.bindCont f step.1).run step.2) = _
  rw [h]
  rfl

variable (count) in
/-- A computation without a state that gives the answers of a counted one,
which leaves the count at `count`. -/
def counting : Simulation (Counted Attempt) Attempt where
  Related x y := x.run.run count = .ok (y, count)
  pure a := rfl
  throw e := rfl
  note event := rfl
  bind {_ _ x y f g} hx hf := by
    cases y with
    | ok a => exact (Counted.run_bind_ok hx f).trans (hf a)
    | error e => exact Counted.run_bind_error hx f

/-- At the limit nothing is described, and the count stays. -/
theorem nested_run_of_le {limit : Nat} (location : Location) (description : Counted Attempt α)
    (h : limit ≤ count) :
    (nested limit location description).run.run count
      = .ok (.error (.depthExceeded limit location), count) := by
  show (if limit ≤ count then _ else _ :
    StateT Nat Attempt (Except ExtractionError α)).run count = _
  rw [if_pos h]
  rfl

/-- What is described inside of a node finds one node more, and the count is
taken back whatever the answer is. -/
theorem nested_run_of_lt {limit : Nat} (location : Location) {description : Counted Attempt α}
    {answer : Attempt α} (h : count < limit)
    (hrun : description.run.run (count + 1) = .ok (answer, count + 1)) :
    (nested limit location description).run.run count = .ok (answer, count) := by
  show (if limit ≤ count then _ else _ :
    StateT Nat Attempt (Except ExtractionError α)).run count = _
  rw [if_neg (by omega)]
  show (description.run.run (count + 1) >>= fun step => Except.ok (step.1, step.2 - 1)) = _
  rw [hrun]
  rfl

end

/-! ### Levels instead of a count -/

/-- Describes a node if it is nested at most `levels` deep. -/
def describeWithin (program : Program) (settings : Settings) :
    (levels : Nat) → Node → Context → Attempt Shape
  | 0, node, _ => .error (.depthExceeded settings.maxDepth node.location)
  | levels + 1, node, ctx => do
    let walker : Walker Attempt :=
      { program, settings, describe := describeWithin program settings levels }
    return placed ctx (← walker.describeNode node ctx)

/-- The walker with `levels` levels below the node that it describes. -/
def walkerWithin (program : Program) (settings : Settings) (levels : Nat) : Walker Attempt where
  program := program
  settings := settings
  describe := describeWithin program settings levels

variable (program : Program) (settings : Settings)

/-- With one level more a node is described by the walker of the level below. -/
theorem describeWithin_succ (levels : Nat) (node : Node) (ctx : Context) :
    describeWithin program settings (levels + 1) node ctx
      = (do return placed ctx (← (walkerWithin program settings levels).describeNode node ctx)) :=
  rfl

/-- Walkers that agree about the nodes below agree about nodes one level
higher, if they agree about names and about the targets of aliases. -/
theorem agreeThroughout_succ {S : Simulation Attempt Attempt} {R : TypeNode → TypeNode → Prop}
    {M : Member → Member → Prop} {D : Declaration → Declaration → Prop} {program' : Program}
    {settings' : Settings} {levels more : Nat}
    (hbelow : (walkerWithin program settings levels).AgreeThroughout S R M D
      (walkerWithin program' settings' more))
    (hname : ∀ {type type' : TypeNode}, R type type' → type.form.IsName → type'.form.IsName →
      ∀ ctx, S.Related ((walkerWithin program settings levels).describeType type ctx)
        ((walkerWithin program' settings' more).describeType type' ctx))
    (halike : ∀ {declaration declaration' : Declaration}, D declaration declaration' →
      declaration.Alike R M declaration')
    (htarget : ∀ {declaration declaration' : Declaration}, D declaration declaration' →
      ∀ {target target' : TypeNode}, declaration.form = .typeAlias target →
        declaration'.form = .typeAlias target' →
          (walkerWithin program settings levels).TargetsAgree R
            (walkerWithin program' settings' more) target target') :
    (walkerWithin program settings (levels + 1)).AgreeThroughout S R M D
      (walkerWithin program' settings' (more + 1)) := by
  have hlikeness := hbelow.likeness
  -- On either side a node is described one level lower and then put at its place.
  have hplaced {node node' : Node} {ctx : Context}
      (hnode : S.Related ((walkerWithin program settings levels).describeNode node ctx)
        ((walkerWithin program' settings' more).describeNode node' ctx)) :
      S.Related (describeWithin program settings (levels + 1) node ctx)
        (describeWithin program' settings' (more + 1) node' ctx) :=
    S.bind hnode fun _ => S.pure _
  refine ⟨⟨hlikeness, hbelow.wrapper, fun htype ctx => hplaced ?type, fun hmember ctx =>
    hplaced ?member⟩, fun hdeclaration ctx => hplaced ?declaration⟩
  case type =>
    rcases hlikeness.form htype with hform | ⟨hfirst, hsecond⟩
    · exact S.describeType_of_form hbelow.toAgree (hlikeness.location htype) hform ctx
    · exact hname htype hfirst hsecond ctx
  case member => exact S.describeMemberType hbelow.toAgree (hlikeness.member hmember) ctx
  case declaration =>
    exact S.describeDeclaration hbelow.toAgree (halike hdeclaration) (htarget hdeclaration) ctx

/-- A counted run is a run with as many levels as the count leaves, and gives
the count back as it was. -/
theorem describeCounted_run {levels count : Nat} (node : Node) (ctx : Context)
    (hcount : count ≤ settings.maxDepth) (hlevels : settings.maxDepth < levels + count) :
    (describeCounted program settings levels node ctx : Counted Attempt Shape).run.run count
      = .ok (describeWithin program settings (settings.maxDepth - count) node ctx, count) := by
  induction levels generalizing count node ctx with
  | zero => omega
  | succ levels ih =>
    -- The count is at the limit, or there is a level left.
    cases Nat.lt_or_ge count settings.maxDepth with
    | inr hge =>
      have hleft : settings.maxDepth - count = 0 := by omega
      have hrefused := nested_run_of_le node.location
        ((({ program, settings, describe := describeCounted program settings levels } :
          Walker (Counted Attempt)).describeNode node ctx)) hge
      rw [hleft]
      exact Counted.run_bind_error hrefused _
    | inl hlt =>
      have hleft : settings.maxDepth - count = settings.maxDepth - (count + 1) + 1 := by omega
      have hsimilar : Walker.Similar (counting (count + 1))
          ({ program, settings, describe := describeCounted program settings levels } :
            Walker (Counted Attempt))
          (walkerWithin program settings (settings.maxDepth - (count + 1))) :=
        { program := rfl
          wrapper := rfl
          describe := fun node ctx => ih node ctx (by omega) (by omega) }
      have hnode := (counting (count + 1)).describeNode hsimilar node ctx
      have hentered := nested_run_of_lt node.location hlt hnode
      rw [hleft, describeWithin_succ]
      cases hanswer : (walkerWithin program settings (settings.maxDepth - (count + 1))).describeNode
        node ctx with
      | ok shape => exact Counted.run_bind_ok (hanswer ▸ hentered) _
      | error e => exact Counted.run_bind_error (hanswer ▸ hentered) _

/-! ### Walkers of their own, and one walker for many calls -/

/-- A counted computation that starts with no node. -/
theorem fresh_eq {α : Type} {run : Counted Attempt α} {answer : Attempt α}
    (h : run.run.run 0 = .ok (answer, 0)) : fresh run = answer := by
  show (run.run.run 0 >>= fun step => MonadExcept.ofExcept step.1) = _
  rw [h]
  cases answer <;> rfl

/-- The walker that the settings give agrees with the one that has all
levels. -/
theorem walker_similar :
    Walker.Similar (counting 0) (walker program settings)
      (walkerWithin program settings settings.maxDepth) where
  program := rfl
  wrapper := rfl
  describe node ctx := describeCounted_run program settings node ctx (by omega) (by omega)

/-- A whole description has as many levels as the limit says. -/
theorem describe_eq_describeWithin (node : Node) (ctx : Context) :
    (describe program settings node ctx : Attempt Shape)
      = describeWithin program settings settings.maxDepth node ctx :=
  fresh_eq ((walker_similar program settings).describe node ctx)

/-- So has the description of a member. -/
theorem describeMember_eq_walkerWithin (member : Member) (base : String)
    (owner : Option String) :
    (describeMember program settings member base owner : Attempt Shape)
      = (walkerWithin program settings settings.maxDepth).describeMember base owner member :=
  fresh_eq ((counting 0).describeMember (walker_similar program settings).agree base owner rfl)

/-- The answer to a call without a count. -/
def Call.answerWithin (w : Walker Attempt) : Call → Attempt Shape
  | node target ctx => w.describe target ctx
  | plain target parentPath flattens => w.describe target { parentPath, flattens }
  | member target base owner => w.describeMember base owner target

/-- A call on a walker leaves its count at zero, so the next one starts afresh. -/
theorem Call.answer_run (call : Call) :
    (call.answer program settings : Counted Attempt Shape).run.run 0
      = .ok (call.answerWithin (walkerWithin program settings settings.maxDepth), 0) := by
  have hsimilar := walker_similar program settings
  cases call with
  | node target ctx => exact hsimilar.describe target ctx
  | plain target parentPath flattens => exact hsimilar.describe target _
  | member target base owner => exact (counting 0).describeMember hsimilar.agree base owner rfl

/-- A shared walker answers every call as a walker of its own would, and is
inside of no node after the last. -/
theorem answers_run (calls : List Call) :
    (answers program settings calls : StateT Nat Attempt _).run 0
      = .ok (calls.map fun call => fresh (call.answer program settings), 0) := by
  induction calls with
  | nil => rfl
  | cons call calls ih =>
    have hcall := Call.answer_run program settings call
    have hfresh : fresh (call.answer program settings) = call.answerWithin _ := fresh_eq hcall
    unfold answers at ih ⊢
    rw [List.mapM_cons, List.map_cons, hfresh]
    -- The first call runs from 0 and leaves 0 to the rest, which is the induction
    -- hypothesis. A failure is among the answers and does not end the list.
    show (((call.answer program settings).run.run 0) >>= fun step =>
      (((calls.mapM fun call => (call.answer program settings).run) :
        StateT Nat Attempt _).run step.2 >>= fun rest => Except.ok (step.1 :: rest.1, rest.2))) = _
    rw [hcall]
    show ((((calls.mapM fun call => (call.answer program settings).run) :
        StateT Nat Attempt _).run 0 >>= fun rest => Except.ok (_ :: rest.1, rest.2))) = _
    rw [ih]
    rfl

end AppMetadata.Expansion
