/-!
# `AppMetadata.Text.Blank`: blank characters

The Unicode property `White_Space`, and texts without blanks at their ends.

The main statements: exactly the blank texts trim to nothing
(`trim_eq_nil_iff`), and blanks around a text do not change what it trims to
(`trim_blank_append`, `trim_append_blank`, `trim_trim`).
-/

set_option autoImplicit false

namespace AppMetadata.Text

/-- Whether `c` has the property `White_Space`. -/
def isBlank (c : Char) : Bool :=
  let n := c.toNat
  (0x09 ≤ n && n ≤ 0x0D) || n == 0x20 || n == 0x85 || n == 0xA0 || n == 0x1680 ||
    (0x2000 ≤ n && n ≤ 0x200A) || n == 0x2028 || n == 0x2029 || n == 0x202F ||
    n == 0x205F || n == 0x3000

/-- `cs` without the blanks before its first other character. -/
def trimStart (cs : List Char) : List Char :=
  cs.dropWhile isBlank

/-- `cs` without the blanks after its last other character. -/
def trimEnd (cs : List Char) : List Char :=
  (cs.reverse.dropWhile isBlank).reverse

/-- `cs` without blanks at either end. -/
def trim (cs : List Char) : List Char :=
  trimEnd (trimStart cs)

/-- A text is its trimmed start behind some blanks. -/
theorem exists_trimStart_eq (cs : List Char) :
    ∃ blanks, (∀ c ∈ blanks, isBlank c = true) ∧ cs = blanks ++ trimStart cs :=
  ⟨cs.takeWhile isBlank, List.all_eq_true.mp List.all_takeWhile,
    List.takeWhile_append_dropWhile.symm⟩

/-- A text is its trimmed end in front of some blanks. -/
theorem exists_trimEnd_eq (cs : List Char) :
    ∃ blanks, (∀ c ∈ blanks, isBlank c = true) ∧ cs = trimEnd cs ++ blanks := by
  refine ⟨(cs.reverse.takeWhile isBlank).reverse, fun c hc => ?_, ?_⟩
  · exact List.all_eq_true.mp List.all_takeWhile c (List.mem_reverse.mp hc)
  · rw [trimEnd, ← List.reverse_append, List.takeWhile_append_dropWhile, List.reverse_reverse]

/-- Nothing is left at the start exactly if there are blanks only. -/
theorem trimStart_eq_nil_iff {cs : List Char} :
    trimStart cs = [] ↔ ∀ c ∈ cs, isBlank c = true := by
  induction cs with
  | nil => simp [trimStart]
  | cons c cs ih =>
    unfold trimStart at ih ⊢
    by_cases h : isBlank c = true <;> simp [h, ih]

/-- The same holds of the end. -/
theorem trimEnd_eq_nil_iff {cs : List Char} :
    trimEnd cs = [] ↔ ∀ c ∈ cs, isBlank c = true := by
  rw [trimEnd, List.reverse_eq_nil_iff]
  exact trimStart_eq_nil_iff.trans (by simp)

/-- A text trims to nothing exactly if it is blank throughout. -/
theorem trim_eq_nil_iff {cs : List Char} : trim cs = [] ↔ ∀ c ∈ cs, isBlank c = true := by
  rw [trim, trimEnd_eq_nil_iff]
  constructor
  · intro h
    obtain ⟨blanks, hblanks, hcs⟩ := exists_trimStart_eq cs
    rw [hcs]
    exact List.forall_mem_append.mpr ⟨hblanks, h⟩
  · intro h
    have hnone : trimStart cs = [] := trimStart_eq_nil_iff.mpr h
    simp [hnone]

/-! ### Blanks around a text -/

/-- Blanks in front are trimmed at the start. -/
theorem trimStart_blank_append {blanks : List Char} (h : ∀ c ∈ blanks, isBlank c = true)
    (cs : List Char) : trimStart (blanks ++ cs) = trimStart cs :=
  List.dropWhile_append_of_pos h

/-- Blanks behind are trimmed at the end. -/
theorem trimEnd_append_blank {blanks : List Char} (h : ∀ c ∈ blanks, isBlank c = true)
    (cs : List Char) : trimEnd (cs ++ blanks) = trimEnd cs := by
  unfold trimEnd
  rw [List.reverse_append, List.dropWhile_append_of_pos fun c hc => h c (List.mem_reverse.mp hc)]

/-- Blanks in front do not change what a text trims to. -/
theorem trim_blank_append {blanks : List Char} (h : ∀ c ∈ blanks, isBlank c = true)
    (cs : List Char) : trim (blanks ++ cs) = trim cs := by
  rw [trim, trimStart_blank_append h, trim]

/-- Nor do blanks behind. -/
theorem trim_append_blank {blanks : List Char} (h : ∀ c ∈ blanks, isBlank c = true)
    (cs : List Char) : trim (cs ++ blanks) = trim cs := by
  unfold trim trimStart
  rw [List.dropWhile_append]
  split
  · next hempty =>
    -- Both texts are blank throughout, so nothing is left of either.
    have hnone : blanks.dropWhile isBlank = [] := trimStart_eq_nil_iff.mpr h
    rw [List.isEmpty_iff.mp hempty, hnone]
  · exact trimEnd_append_blank h _

/-- To trim the end first makes no difference. -/
theorem trim_trimEnd (cs : List Char) : trim (trimEnd cs) = trim cs := by
  obtain ⟨blanks, hblanks, hcs⟩ := exists_trimEnd_eq cs
  conv => rhs; rw [hcs]
  exact (trim_append_blank hblanks _).symm

/-- A trimmed text has no blanks left to trim. -/
theorem trim_trim (cs : List Char) : trim (trim cs) = trim cs := by
  obtain ⟨blanks, hblanks, hcs⟩ := exists_trimStart_eq cs
  calc trim (trim cs)
      = trim (trimStart cs) := trim_trimEnd _
    _ = trim (blanks ++ trimStart cs) := (trim_blank_append hblanks _).symm
    _ = trim cs := by rw [← hcs]

/-- A visible first character stays, and only the other end is trimmed. -/
theorem trim_cons_of_not_blank {c : Char} (hc : isBlank c = false) (cs : List Char) :
    trim (c :: cs) = c :: trimEnd cs := by
  have hstart : trimStart (c :: cs) = c :: cs := List.dropWhile_cons_of_neg (by simp [hc])
  rw [trim, hstart, trimEnd, List.reverse_cons, List.dropWhile_append]
  split
  · next hempty => simp [trimEnd, List.isEmpty_iff.mp hempty, hc]
  · simp [trimEnd]

end AppMetadata.Text
