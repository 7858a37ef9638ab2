import Mathlib
import AppMetadata.Naming

/-!
# `AppMetadata.Proofs.Naming`: made names keep the characters of their paths

A name is made of a path by cutting it into words and writing these one after
the other with capitals. The cuts fall between characters, so the words are
the letters and digits of the path in their order (`Text.flatten_wordsOf`),
and only their case changes (`Text.map_toLower_upperCamel`).

* `Text.upperCamel_eq_nil_iff`: nothing is left only of a text without letters
  and digits.
* `toList_baseName`: the dots of a path divide words like everything else that
  is no letter or digit.
* `baseName_joinPath`: the name of a joined path is that of its parts.
* `baseName_keeps_characters`: the laws of paths and of the names made from
  them.
-/

set_option autoImplicit false

namespace AppMetadata

namespace Text

/-! ### Cutting -/

section
variable {p : Char → Bool}

/-- A character in front of the first piece does not touch the pieces behind. -/
theorem consHead_append (c : Char) {pieces : List (List Char)} (h : pieces ≠ [])
    (others : List (List Char)) : consHead c pieces ++ others = consHead c (pieces ++ others) := by
  cases pieces with
  | nil => exact absurd rfl h
  | cons piece pieces => rfl

/-- A separator ends what is in front of it. -/
theorem splitWhere_append_separator {c : Char} (hc : p c = true) (before after : List Char) :
    splitWhere p (before ++ c :: after) = splitWhere p before ++ splitWhere p after := by
  induction before with
  | nil => simp [splitWhere, hc]
  | cons d before ih =>
    rw [List.cons_append, splitWhere, splitWhere, ih]
    split
    · rfl
    · rw [consHead_append d splitWhere_ne_nil]

/-- The pieces, put together, are the text without its separators. -/
theorem flatten_splitWhere (cs : List Char) : (splitWhere p cs).flatten = cs.filter (!p ·) := by
  induction cs with
  | nil => rfl
  | cons c cs ih =>
    rw [splitWhere]
    cases hc : p c with
    | true => simpa [hc] using ih
    | false => simp [hc, flatten_consHead, ih]

/-- What treats the two sides of a separator apart treats all pieces apart. -/
theorem flatMap_splitWhere {f : List Char → List Char}
    (hf : ∀ before c after, p c = true → f (before ++ c :: after) = f before ++ f after)
    (cs : List Char) : (splitWhere p cs).flatMap f = f cs := by
  -- `opening` is the part of the first piece that is read already.
  suffices h : ∀ opening : List Char, (∀ c ∈ opening, p c = false) →
      (splitWhere p (opening ++ cs)).flatMap f = f (opening ++ cs) from h [] nofun
  induction cs with
  | nil =>
    intro opening hopening
    rw [List.append_nil, splitWhere_of_all_not hopening]
    exact List.flatMap_singleton ..
  | cons c cs ih =>
    intro opening hopening
    cases hc : p c with
    | true =>
      rw [splitWhere_append_cons hopening hc, List.flatMap_cons, hf _ _ _ hc]
      congr 1
      exact ih [] nofun
    | false =>
      have hnext : ∀ d ∈ opening ++ [c], p d = false := by
        intro d hd
        rcases List.mem_append.mp hd with hd | hd
        · exact hopening d hd
        · rwa [List.mem_singleton.mp hd]
      simpa using ih (opening ++ [c]) hnext

end

/-! ### Words -/

/-- The words of all runs of letters and digits. -/
def wordsOf (cs : List Char) : List (List Char) :=
  (splitWhere (!isAlphanumeric ·) cs).flatMap (words .none)

/-- A name is made of the words of a text, each with a capital. -/
theorem upperCamel_eq (cs : List Char) : upperCamel cs = (wordsOf cs).flatMap capitalize := by
  rw [wordsOf, List.flatMap_assoc]
  rfl

/-- The words, put together, are all letters and digits in their order. -/
theorem flatten_wordsOf (cs : List Char) : (wordsOf cs).flatten = cs.filter isAlphanumeric := by
  have hruns (runs : List (List Char)) : (runs.flatMap (words .none)).flatten = runs.flatten := by
    induction runs with
    | nil => rfl
    | cons run runs ih => simp [flatten_words, ih]
  rw [wordsOf, hruns, flatten_splitWhere]
  simp

/-- What is no letter or digit divides words, so the name is made of the two
sides on their own. -/
theorem upperCamel_append {c : Char} (hc : isAlphanumeric c = false) (before after : List Char) :
    upperCamel (before ++ c :: after) = upperCamel before ++ upperCamel after := by
  unfold upperCamel
  rw [splitWhere_append_separator (by simp [hc]), List.flatMap_append]

/-! ### Capitals -/

/-- Each character has an upper case of one character at least. -/
theorem upper_ne_nil (c : Char) : upper c ≠ [] := by
  have himages : ∀ entry ∈ upperExpansions, entry.2 ≠ [] := by decide
  unfold upper mapCase
  split
  · simp
  · split
    · next image himage =>
      obtain ⟨before, after, htable, -⟩ := List.lookup_eq_some_iff.mp himage
      have hentry : (c.toNat, image) ∈ upperExpansions := by simp [htable]
      simpa using himages _ hentry
    · split <;> simp

/-- So a capital never makes a word vanish. -/
theorem capitalize_eq_nil_iff {word : List Char} : capitalize word = [] ↔ word = [] := by
  cases word with
  | nil => simp [capitalize]
  | cons c cs => simp [capitalize, upper_ne_nil]

/-- A text without letters and digits is all that leads to nothing. -/
theorem upperCamel_eq_nil_iff {cs : List Char} :
    upperCamel cs = [] ↔ ∀ c ∈ cs, isAlphanumeric c = false := by
  rw [upperCamel_eq, List.flatMap_eq_nil_iff]
  simp only [capitalize_eq_nil_iff]
  rw [← List.flatten_eq_nil_iff, flatten_wordsOf, List.filter_eq_nil_iff]
  simp

/-- In ASCII, the letters behind the first one are put into lower case one by
one. -/
theorem lowerTail_of_ascii {cs : List Char} (h : ∀ c ∈ cs, c.toNat < 0x80) :
    lowerTail cs = cs.map Char.toLower := by
  induction cs with
  | nil => rfl
  | cons c cs ih =>
    obtain ⟨hc, hcs⟩ := List.forall_mem_cons.mp h
    have hsigma : c ≠ 'Σ' := by
      rintro rfl
      exact absurd hc (by decide)
    cases cs with
    | nil => simp [lowerTail, hsigma, lower_of_ascii hc]
    | cons d cs => rw [lowerTail, lower_of_ascii hc, ih hcs]; rfl

/-- And the first one becomes one capital. -/
theorem capitalize_of_ascii {c : Char} {cs : List Char} (h : ∀ d ∈ c :: cs, d.toNat < 0x80) :
    capitalize (c :: cs) = c.toUpper :: cs.map Char.toLower := by
  obtain ⟨hc, hcs⟩ := List.forall_mem_cons.mp h
  rw [capitalize, upper_of_ascii hc, lowerTail_of_ascii hcs]
  rfl

/-- Up to the case of its letters, a word is left as it was. -/
theorem map_toLower_capitalize {word : List Char} (h : ∀ c ∈ word, c.toNat < 0x80) :
    (capitalize word).map Char.toLower = word.map Char.toLower := by
  cases word with
  | nil => rfl
  | cons c cs =>
    rw [capitalize_of_ascii h, List.map_cons, List.map_cons, List.map_map,
      Char.toLower_toUpper_eq_toLower]
    congr 1
    exact List.map_congr_left fun d _ => Char.toLower_toLower_eq_toLower d

/-- Whether a character is a letter or digit does not depend on its case. -/
theorem isAlphanum_toLower (c : Char) : c.toLower.isAlphanum = c.isAlphanum := by
  by_cases hupper : c.isUpper
  · have halpha : c.isAlpha = true := by simp [Char.isAlpha, hupper]
    simp [Char.isAlphanum, halpha]
  · rw [Char.toLower_eq_of_not_isUpper hupper]

/-- An ASCII text keeps its letters and digits, apart from their case. -/
theorem map_toLower_upperCamel {cs : List Char} (h : ∀ c ∈ cs, c.toNat < 0x80) :
    (upperCamel cs).map Char.toLower = (cs.filter Char.isAlphanum).map Char.toLower := by
  have hword : ∀ word ∈ wordsOf cs, (capitalize word).map Char.toLower = word.map Char.toLower := by
    intro word hword
    refine map_toLower_capitalize fun c hc => ?_
    have hmem : c ∈ (wordsOf cs).flatten := List.mem_flatten_of_mem hword hc
    rw [flatten_wordsOf] at hmem
    exact h c (List.mem_of_mem_filter hmem)
  calc (upperCamel cs).map Char.toLower
      = (wordsOf cs).flatMap fun word => (capitalize word).map Char.toLower := by
        rw [upperCamel_eq, List.map_flatMap]
    _ = (wordsOf cs).flatMap fun word => word.map Char.toLower := by
        rw [List.flatMap_def, List.flatMap_def, List.map_congr_left hword]
    _ = (wordsOf cs).flatten.map Char.toLower := by
        rw [List.map_flatten, List.flatMap_def]
    _ = (cs.filter Char.isAlphanum).map Char.toLower := by
        rw [flatten_wordsOf, List.filter_congr fun c hc => isAlphanumeric_of_ascii (h c hc)]

/-- A name that is made of ASCII has nothing but letters and digits. -/
theorem isAlphanum_of_mem_upperCamel {cs : List Char} (h : ∀ c ∈ cs, c.toNat < 0x80) {c : Char}
    (hc : c ∈ upperCamel cs) : c.isAlphanum = true := by
  have hlower := List.mem_map_of_mem (f := Char.toLower) hc
  rw [map_toLower_upperCamel h] at hlower
  obtain ⟨d, hd, heq⟩ := List.mem_map.mp hlower
  rw [← isAlphanum_toLower, ← heq, isAlphanum_toLower]
  exact (List.mem_filter.mp hd).2

end Text

open Text (isAlphanumeric wordsOf capitalize)

/-! ### Names -/

/-- The name of a path is made of the path as a whole: the dots divide words as
all other separators do. -/
theorem toList_baseName (path : String) :
    (baseName path).toList = Text.upperCamel path.toList := by
  rw [baseName, String.toList_ofList]
  refine Text.flatMap_splitWhere (fun before c after hc => ?_) path.toList
  -- A dot is no part of a word.
  obtain rfl : c = '.' := by simpa using hc
  exact Text.upperCamel_append (by decide) before after

/-- So the parts on both sides of a dot come to their own names. -/
theorem baseName_append_dot (parent segment : String) :
    baseName (parent ++ "." ++ segment) = baseName parent ++ baseName segment := by
  have hdot : (parent ++ "." ++ segment).toList = parent.toList ++ '.' :: segment.toList := by
    simp
  rw [← String.toList_inj, String.toList_append]
  simp only [toList_baseName]
  rw [hdot]
  exact Text.upperCamel_append (by decide) _ _

/-- Nothing comes of the empty path. -/
theorem baseName_empty : baseName "" = "" := by decide

/-- Joining paths puts their names together, also where one of them is empty. -/
theorem baseName_joinPath (parent segment : String) :
    baseName (joinPath parent segment) = baseName parent ++ baseName segment := by
  by_cases hparent : parent = ""
  · rw [hparent, joinPath_empty_left, baseName_empty, String.empty_append]
  by_cases hsegment : segment = ""
  · rw [hsegment, joinPath_empty_right, baseName_empty, String.append_empty]
  rw [joinPath_of_ne_empty hparent hsegment, baseName_append_dot]

/-- The name is empty exactly if the path has no letter and no digit. -/
theorem isEmpty_baseName (path : String) :
    (baseName path).isEmpty = !path.toList.any isAlphanumeric := by
  rw [Bool.eq_iff_iff, String.isEmpty_iff, ← String.toList_eq_nil_iff, toList_baseName,
    Text.upperCamel_eq_nil_iff]
  simp

/-- A made name is the base name and the suffix; there is none only for a path
without letters and digits. -/
theorem syntheticName?_eq (suffix path : String) :
    syntheticName? suffix path =
      if path.toList.any isAlphanumeric then some (baseName path ++ suffix) else none := by
  unfold syntheticName?
  rw [isEmpty_baseName]
  cases path.toList.any isAlphanumeric <;> rfl

/-- Paths are joined associatively, and the empty path is neutral. The base
name of a joined path is made of the base names of its parts. The name of an
enum or union is the base name with its ending, and is missing exactly for a
path without letters and digits. A base name is the letters and digits of the
path in their order, cut into words that are capitalized, so that for an ASCII
path it differs from them in case alone. -/
theorem baseName_keeps_characters :
    (∀ a b c, joinPath (joinPath a b) c = joinPath a (joinPath b c)) ∧
    (∀ path, joinPath "" path = path ∧ joinPath path "" = path) ∧
    (∀ parent segment,
      baseName (joinPath parent segment) = baseName parent ++ baseName segment) ∧
    (∀ path,
      enumName? path =
        (if path.toList.any isAlphanumeric then some (baseName path ++ "Enum") else none) ∧
      unionName? path =
        (if path.toList.any isAlphanumeric then some (baseName path ++ "Union") else none)) ∧
    (∀ path, (baseName path).toList = (wordsOf path.toList).flatMap capitalize ∧
      (wordsOf path.toList).flatten = path.toList.filter isAlphanumeric) ∧
    (∀ path, (∀ c ∈ path.toList, c.toNat < 0x80) →
      (∀ c ∈ (baseName path).toList, c.isAlphanum = true) ∧
      (baseName path).toList.map Char.toLower =
        (path.toList.filter Char.isAlphanum).map Char.toLower) := by
  -- A base name is the words of its path, so the last two parts are about words alone.
  refine ⟨joinPath_assoc, fun path => ⟨joinPath_empty_left path, joinPath_empty_right path⟩,
    baseName_joinPath, fun path => ⟨syntheticName?_eq .., syntheticName?_eq ..⟩,
    fun path => ⟨?_, Text.flatten_wordsOf _⟩, fun path hpath => ⟨fun c hc => ?_, ?_⟩⟩
  · rw [toList_baseName, Text.upperCamel_eq]
  · rw [toList_baseName] at hc
    exact Text.isAlphanum_of_mem_upperCamel hpath hc
  · rw [toList_baseName]
    exact Text.map_toLower_upperCamel hpath

/-- The name of a union in a route: its blanks, slashes and colons are gone. -/
theorem baseName_keeps_characters_route :
    let path := "Action.GET /users/:id"
    (∀ c ∈ path.toList, c.toNat < 0x80) ∧
      (∀ c ∈ (baseName path).toList, c.isAlphanum = true) ∧
      (baseName path).toList.map Char.toLower = "actiongetusersid".toList ∧
      baseName (joinPath path "HTTPServer") = "ActionGetUsersIdHttpServer" ∧
      unionName? path = some "ActionGetUsersIdUnion" ∧ unionName? ". /:" = none := by
  intro path
  have hall : path.toList.all (decide <| ·.toNat < 0x80) = true := by decide +kernel
  have hascii : ∀ c ∈ path.toList, c.toNat < 0x80 := by
    intro c hc
    exact of_decide_eq_true (List.all_eq_true.mp hall c hc)
  have hbase : baseName path = "ActionGetUsersId" := by decide +kernel
  obtain ⟨-, -, hjoin, hnames, -, hkept⟩ := baseName_keeps_characters
  refine ⟨hascii, (hkept path hascii).1, (hkept path hascii).2.trans (by decide +kernel), ?_, ?_,
    (hnames ". /:").2.trans (if_neg (by decide +kernel))⟩
  · rw [hjoin, hbase]
    decide +kernel
  · rw [(hnames path).2, if_pos (by decide +kernel), hbase]
    decide +kernel

end AppMetadata
