import AppMetadata.Event

/-!
# `AppMetadata.Expansion.Nesting`: how deep a description is

One walker describes many nodes, and counts the nodes that it is inside of.
`nested` enters a node and leaves it again, also when the description of the
node fails, so the count that a call leaves behind is the one that it found.
A call that would enter a node beyond the limit is refused.
-/

set_option autoImplicit false

namespace AppMetadata.Expansion

/-- A computation with a count of the nodes that it is inside of. The count
is still there when the computation fails. -/
abbrev Counted (m : Type → Type) := ExceptT ExtractionError (StateT Nat m)

variable {m : Type → Type} [Monad m] {α : Type}

/-- Notes are those of the computation below. -/
instance [Journal m] : Journal (Counted m) where
  note event := ExceptT.lift (StateT.lift (note event))

/-- `description` inside one node more, unless `limit` nodes are open; the
refusal names the node at `location`. -/
def nested (limit : Nat) (location : Location) (description : Counted m α) : Counted m α :=
  ExceptT.mk do
    if limit ≤ (← get) then
      return .error (.depthExceeded limit location)
    modify (· + 1)
    let answer ← description.run
    modify (· - 1)
    return answer

/-- A computation with a count of its own, which starts with no node. -/
def fresh [MonadExceptOf ExtractionError m] (run : Counted m α) : m α := do
  let (answer, _) ← run.run.run 0
  MonadExcept.ofExcept answer

end AppMetadata.Expansion
