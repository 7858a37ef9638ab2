import AppMetadata.Text.Alphanumeric
import AppMetadata.Text.LetterCase
import AppMetadata.Text.Split

/-!
# `AppMetadata.Text.Words`: words and upper camel case

A text falls into runs of letters and digits, and each run into words at its
changes of case: `fooBar` is two words, `HTTPServer` is `HTTP` and `Server`,
and `v2` is one. `upperCamel` writes every word with a capital and joins
them.

The main statement is `flatten_words`: the words of a run, put together,
are the run, so that nothing is lost or moved.
-/

set_option autoImplicit false

namespace AppMetadata.Text

/-- The case of the word read so far. Characters without case keep it. -/
inductive WordCase
  /-- Nothing with a case was read yet. -/
  | none
  /-- The last character with a case was lower case. -/
  | lower
  /-- The last character with a case was upper case. -/
  | upper
deriving DecidableEq

/-- The case of a word after `c` was added to it. -/
def WordCase.after (state : WordCase) (c : Char) : WordCase :=
  if isLower c then .lower else if isUpper c then .upper else state

/-- Cuts a run into words: a word ends after a character that leaves it in
lower case if a capital follows, and before a capital of an upper-case word
if a lower-case letter follows. The first word of the answer continues the
one read so far. -/
def words (state : WordCase) : List Char → List (List Char)
  | [] => []
  | [c] => [[c]]
  | c :: d :: cs =>
    if state.after c = .lower ∧ isUpper d = true then
      [c] :: words .none (d :: cs)
    else if state = .upper ∧ isUpper c = true ∧ isLower d = true then
      [] :: consHead c (words .none (d :: cs))
    else
      consHead c (words (state.after c) (d :: cs))

/-- The lower case of a word's end; a last `Σ` is written `ς`. -/
def lowerTail : List Char → List Char
  | [] => []
  | [c] => if c = 'Σ' then ['ς'] else lower c
  | c :: d :: cs => lower c ++ lowerTail (d :: cs)

/-- A word with its first character in upper case and the others in lower
case. -/
def capitalize : List Char → List Char
  | [] => []
  | c :: cs => upper c ++ lowerTail cs

/-- The words of all runs of letters and digits, capitalized and joined. -/
def upperCamel (cs : List Char) : List Char :=
  (splitWhere (!isAlphanumeric ·) cs).flatMap fun run => (words .none run).flatMap capitalize

/-- A character in front of the first piece is in front of all of them. -/
theorem flatten_consHead (c : Char) (pieces : List (List Char)) :
    (consHead c pieces).flatten = c :: pieces.flatten := by
  cases pieces <;> simp [consHead]

/-- The words of a run are the run, cut. -/
theorem flatten_words (state : WordCase) (run : List Char) :
    (words state run).flatten = run := by
  fun_induction words state run with
  | case1 => rfl
  | case2 => rfl
  | case3 state c d cs _ ih => simp [ih]
  | case4 state c d cs _ _ ih => simp [flatten_consHead, ih]
  | case5 state c d cs _ _ ih => simp [flatten_consHead, ih]

end AppMetadata.Text
