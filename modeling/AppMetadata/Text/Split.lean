/-!
# `AppMetadata.Text.Split`: cutting a text at separators

`splitWhere p` cuts at every character that satisfies `p` and drops those
characters, so there is always one piece more than there are separators.

The main statements: no piece holds a separator (`not_of_mem_splitWhere`),
without separators the text is its only piece (`splitWhere_of_all_not`), and
the first separator ends the first piece (`splitWhere_append_cons`).
-/

set_option autoImplicit false

namespace AppMetadata.Text

/-- Puts `c` in front of the first piece. -/
def consHead (c : Char) : List (List Char) → List (List Char)
  | [] => [[c]]
  | piece :: pieces => (c :: piece) :: pieces

/-- The pieces of a text between the characters that satisfy `p`. -/
def splitWhere (p : Char → Bool) : List Char → List (List Char)
  | [] => [[]]
  | c :: cs => if p c then [] :: splitWhere p cs else consHead c (splitWhere p cs)

/-- The pieces joined again, with `separator` between them. -/
def join (separator : List Char) (pieces : List (List Char)) : List Char :=
  pieces.intersperse separator |>.flatten

/-- There is always a piece, if only an empty one. -/
theorem splitWhere_ne_nil {p : Char → Bool} {cs : List Char} : splitWhere p cs ≠ [] := by
  induction cs with
  | nil => simp [splitWhere]
  | cons c cs ih =>
    unfold splitWhere
    split
    · simp
    · cases h : splitWhere p cs with
      | nil => exact absurd h ih
      | cons _ _ => simp [consHead]

/-- No piece holds a separator. -/
theorem not_of_mem_splitWhere {p : Char → Bool} {cs piece : List Char}
    (h : piece ∈ splitWhere p cs) {c : Char} (hc : c ∈ piece) : p c = false := by
  induction cs generalizing piece with
  | nil => simp_all [splitWhere]
  | cons d cs ih =>
    unfold splitWhere at h
    split at h
    · rcases List.mem_cons.mp h with rfl | h
      · simp at hc
      · exact ih h hc
    · next hd =>
      cases hs : splitWhere p cs with
      | nil => exact absurd hs splitWhere_ne_nil
      | cons first rest =>
        rw [hs] at h ih
        rcases List.mem_cons.mp h with rfl | h
        · rcases List.mem_cons.mp hc with rfl | hc
          · simpa using hd
          · exact ih (List.mem_cons_self ..) hc
        · exact ih (List.mem_cons_of_mem _ h) hc

/-- A text without separators is its own only piece. -/
theorem splitWhere_of_all_not {p : Char → Bool} {cs : List Char}
    (h : ∀ c ∈ cs, p c = false) : splitWhere p cs = [cs] := by
  induction cs with
  | nil => rfl
  | cons c cs ih =>
    have hc : p c = false := h c (List.mem_cons_self ..)
    have hcs : splitWhere p cs = [cs] := ih fun d hd => h d (List.mem_cons_of_mem _ hd)
    simp [splitWhere, hc, hcs, consHead]

/-- The first separator ends the first piece. -/
theorem splitWhere_append_cons {p : Char → Bool} {c : Char} {before : List Char}
    (hbefore : ∀ d ∈ before, p d = false) (hc : p c = true) (after : List Char) :
    splitWhere p (before ++ c :: after) = before :: splitWhere p after := by
  induction before with
  | nil => simp [splitWhere, hc]
  | cons d before ih =>
    obtain ⟨hd, hbefore⟩ := List.forall_mem_cons.mp hbefore
    rw [List.cons_append, splitWhere, if_neg (by simp [hd]), ih hbefore]
    rfl

end AppMetadata.Text
