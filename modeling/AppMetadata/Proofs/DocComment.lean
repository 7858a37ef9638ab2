import AppMetadata.Doc
import Mathlib.Data.List.Forall2
import Mathlib.Logic.Relation

/-!
# `AppMetadata.Proofs.DocComment`: what of a doc comment has a meaning

A comment is read line by line, and of a line only the text between the
blanks around it and without one leading star is read. So the layout says
nothing, the summary is told by the lines before the first tag alone, and a
`@deprecated` line counts wherever it stands.

* `line_eq_of_relaid`, `read_eq_of_relaid`: the layout of one line, and of all.
* `summary_eq_of_before`: the summary and the lines before the first tag.
* `visible_summary`: the summary has all the visible text of these lines.
* `deprecation?_eq_some_iff`, `deprecated_eq_some_iff`: the `@deprecated` lines.
* `read_independent_of_layout`: all of this about one comment.
-/

set_option autoImplicit false

namespace AppMetadata.DocComment

open Text

/-- The lines of a comment as they are written. -/
def rawLines (text : String) : List (List Char) :=
  splitWhere (· == '\n') text.toList

/-! ### Layout -/

/-- A change in the layout of a line. A carriage return before the line feed
is a blank at the end of the line. -/
inductive Relaid : List Char → List Char → Prop
  /-- More blanks before the line. -/
  | indent (blanks raw : List Char) : (∀ c ∈ blanks, isBlank c = true) → Relaid raw (blanks ++ raw)
  /-- More blanks after the line. -/
  | pad (blanks raw : List Char) : (∀ c ∈ blanks, isBlank c = true) → Relaid raw (raw ++ blanks)
  /-- A star before a line that has none. -/
  | star (raw : List Char) : (trim raw).head? ≠ some '*' → Relaid raw ('*' :: raw)

/-- Only what is left between the blanks counts. -/
theorem line_eq_of_trim_eq {raw other : List Char} (h : trim raw = trim other) :
    line raw = line other := by
  unfold line
  rw [h]

/-- A line that has no star in front is trimmed, and that is all. -/
theorem line_of_no_star {raw : List Char} (h : (trim raw).head? ≠ some '*') :
    line raw = trim raw := by
  unfold line
  split
  · next rest hstar => simp [hstar] at h
  · exact trim_trim raw

/-- A change in the layout of a line is not seen. -/
theorem line_eq_of_relaid {raw other : List Char} (h : Relaid raw other) :
    line other = line raw := by
  cases h with
  | indent blanks raw hblanks => exact line_eq_of_trim_eq (trim_blank_append hblanks raw)
  | pad blanks raw hblanks => exact line_eq_of_trim_eq (trim_append_blank hblanks raw)
  | star raw hstar =>
    rw [line_of_no_star hstar]
    unfold line
    rw [trim_cons_of_not_blank (by decide)]
    exact trim_trimEnd raw

/-- Nor are several changes, there and back. -/
theorem line_eq_of_eqvGen {raw other : List Char} (h : Relation.EqvGen Relaid raw other) :
    line raw = line other := by
  induction h with
  | rel raw other h => exact (line_eq_of_relaid h).symm
  | refl raw => rfl
  | symm raw other _ ih => exact ih.symm
  | trans raw next other _ _ ih ih' => exact ih.trans ih'

/-- Each line is read on its own. -/
theorem lines_eq_map (text : String) : lines text = (rawLines text).map line := rfl

/-- A comment is read from its lines alone. -/
theorem read_eq_of_lines_eq {text other : String} (h : lines text = lines other) :
    read text = read other := by
  unfold read
  rw [h]

/-- So a comment with another layout is read alike. -/
theorem read_eq_of_relaid {text other : String}
    (h : List.Forall₂ (Relation.EqvGen Relaid) (rawLines text) (rawLines other)) :
    read text = read other := by
  refine read_eq_of_lines_eq ?_
  rw [lines_eq_map, lines_eq_map, ← List.forall₂_eq_eq_eq, List.forall₂_map_left_iff,
    List.forall₂_map_right_iff]
  exact h.imp fun _ _ => line_eq_of_eqvGen

/-- A text with a carriage return before each line feed. -/
def withReturns (text : String) : String :=
  String.ofList (text.toList.flatMap fun c => if c = '\n' then ['\r', '\n'] else [c])

/-- Carriage returns come to the ends of all lines but the last one, where they
are blanks. -/
theorem rawLines_withReturns (text : String) :
    List.Forall₂ (Relation.EqvGen Relaid) (rawLines text) (rawLines (withReturns text)) := by
  unfold rawLines withReturns
  rw [String.toList_ofList]
  generalize text.toList = cs
  -- `opening` is the part of the first line that is read already.
  suffices h : ∀ opening : List Char, '\n' ∉ opening →
      List.Forall₂ (Relation.EqvGen Relaid) (splitWhere (· == '\n') (opening ++ cs))
        (splitWhere (· == '\n')
          (opening ++ cs.flatMap fun c => if c = '\n' then ['\r', '\n'] else [c])) by
    exact h [] List.not_mem_nil
  have hsplit {opening : List Char} (hopening : '\n' ∉ opening) (rest : List Char) :
      splitWhere (· == '\n') (opening ++ '\n' :: rest) =
        opening :: splitWhere (· == '\n') rest :=
    splitWhere_append_cons
      (fun c hc => beq_eq_false_iff_ne.mpr (ne_of_mem_of_not_mem hc hopening))
      (beq_self_eq_true _) rest
  induction cs with
  | nil => exact fun opening _ => List.forall₂_same.mpr fun raw _ => .refl raw
  | cons c cs ih =>
    intro opening hopening
    by_cases hc : c = '\n'
    · subst hc
      have hreturn : '\n' ∉ opening ++ ['\r'] := by simp [hopening]
      have hother (rest : List Char) :
          splitWhere (· == '\n') (opening ++ (['\r', '\n'] ++ rest)) =
            (opening ++ ['\r']) :: splitWhere (· == '\n') rest := by
        simpa using hsplit hreturn rest
      rw [hsplit hopening, List.flatMap_cons, if_pos rfl, hother]
      exact .cons (.rel _ _ (.pad ['\r'] opening (List.forall_mem_singleton.mpr rfl)))
        (ih [] List.not_mem_nil)
    · have hnext := ih (opening ++ [c]) (by simp [hopening, Ne.symm hc])
      simpa [hc] using hnext

/-! ### The summary -/

/-- Lines that are over, or of which the first starts a tag. -/
def AtTag (raws : List (List Char)) : Prop :=
  ∀ raw ∈ raws.head?, (line raw).head? = some '@'

/-- A line is a tag if its text starts with an at sign. -/
theorem isTag_eq_true_iff {cs : List Char} : isTag cs = true ↔ cs.head? = some '@' := by
  unfold isTag
  split
  · simp
  · next hother =>
    cases cs with
    | nil => simp
    | cons c cs =>
      have hc : c ≠ '@' := fun heq => hother cs (heq ▸ rfl)
      simp [hc]

/-- What stands before the first tag is not changed by what follows from there
on. -/
theorem takeWhile_append_atTag (before : List (List Char)) {rest : List (List Char)}
    (h : AtTag rest) :
    ((before ++ rest).map line).takeWhile (!isTag ·) =
      (before.map line).takeWhile (!isTag ·) := by
  induction before with
  | nil =>
    cases rest with
    | nil => rfl
    | cons raw rest =>
      have htag : isTag (line raw) = true := isTag_eq_true_iff.mpr (h raw rfl)
      simp [htag]
  | cons raw before ih =>
    cases htag : isTag (line raw) with
    | true => simp [htag]
    | false => simpa [htag] using ih

/-- The summary of a comment is made of its lines. -/
theorem read_summary (text : String) : (read text).summary = summaryOf (lines text) := by
  rw [read]

/-- Two comments with the same lines before the first tag have the same
summary. -/
theorem summary_eq_of_before {text other : String} {before rest rest' : List (List Char)}
    (htext : rawLines text = before ++ rest) (hother : rawLines other = before ++ rest')
    (hrest : AtTag rest) (hrest' : AtTag rest') :
    (read text).summary = (read other).summary := by
  have hlines : (lines text).takeWhile (!isTag ·) = (lines other).takeWhile (!isTag ·) := by
    rw [lines_eq_map, lines_eq_map, htext, hother, takeWhile_append_atTag before hrest,
      takeWhile_append_atTag before hrest']
  rw [read_summary, read_summary, summaryOf, summaryOf, hlines]

/-- The summary joins the lines before the first tag with spaces. Empty lines
in front are left out, and no summary counts as an empty one. -/
theorem toList_summaryOf (lines : List (List Char)) :
    ((summaryOf lines).getD "").toList =
      trim (join [' '] ((lines.takeWhile (!isTag ·)).dropWhile List.isEmpty)) := by
  dsimp only [summaryOf]
  split
  · next hempty => simpa using (List.isEmpty_iff.mp hempty).symm
  · simp

/-- A summary is not empty, and has no blanks at its ends. -/
theorem summary_trimmed {text summary : String} (h : (read text).summary = some summary) :
    summary ≠ "" ∧ trim summary.toList = summary.toList := by
  rw [read_summary] at h
  have hlist := toList_summaryOf (lines text)
  rw [h, Option.getD_some] at hlist
  constructor
  · rintro rfl
    -- An empty summary is left out.
    dsimp only [summaryOf] at h
    rw [← hlist] at h
    exact nomatch h
  · rw [hlist, trim_trim]

/-- The characters of a text that are not blank. -/
def visible (cs : List Char) : List Char :=
  cs.filter (!isBlank ·)

/-- What is visible in two texts, one after the other. -/
theorem visible_append (cs ds : List Char) : visible (cs ++ ds) = visible cs ++ visible ds :=
  List.filter_append ..

/-- Nothing is visible in blanks. -/
theorem visible_of_blank {blanks : List Char} (h : ∀ c ∈ blanks, isBlank c = true) :
    visible blanks = [] :=
  List.filter_eq_nil_iff.mpr fun c hc => by simp [h c hc]

/-- Trimming takes only what is not visible. -/
theorem visible_trim (cs : List Char) : visible (trim cs) = visible cs := by
  obtain ⟨before, hbefore, hstart⟩ := exists_trimStart_eq cs
  obtain ⟨after, hafter, hend⟩ := exists_trimEnd_eq (trimStart cs)
  calc visible (trim cs)
      = visible (before ++ (trim cs ++ after)) := by
        simp [visible_append, visible_of_blank hbefore, visible_of_blank hafter]
    _ = visible cs := by rw [trim, ← hend, ← hstart]

/-- Neither are the spaces that join lines. -/
theorem visible_join (lines : List (List Char)) :
    visible (join [' '] lines) = visible lines.flatten := by
  induction lines with
  | nil => rfl
  | cons line lines ih =>
    cases lines with
    | nil => rfl
    | cons next lines =>
      have hspace : visible [' '] = [] := by decide
      unfold join at ih ⊢
      rw [List.intersperse_cons_cons, List.flatten_cons, List.flatten_cons, List.flatten_cons,
        visible_append, visible_append, visible_append, hspace, ih, List.nil_append]

/-- Empty lines in front have no characters. -/
theorem flatten_dropWhile_isEmpty (lines : List (List Char)) :
    (lines.dropWhile List.isEmpty).flatten = lines.flatten := by
  induction lines with
  | nil => rfl
  | cons line lines ih =>
    cases line with
    | nil => simpa using ih
    | cons c cs => rfl

/-- The summary is made of the lines before the first tag: nothing visible of
them is left out, and nothing is added. -/
theorem visible_summary (text : String) :
    visible ((read text).summary.getD "").toList =
      visible ((lines text).takeWhile (!isTag ·)).flatten := by
  rw [read_summary, toList_summaryOf, visible_trim, visible_join, flatten_dropWhile_isEmpty]

/-! ### The tag that matters -/

/-- A line whose tag is exactly `@deprecated`, with the text after it. -/
def MarksDeprecated (raw : List Char) (payload : String) : Prop :=
  ∃ rest, line raw = '@' :: ("deprecated".toList ++ rest) ∧
    (∀ c ∈ rest.head?, isBlank c = true) ∧ payload.toList = trim rest

/-- A tag says that something is deprecated if it has just this name, and what
follows after blanks is the reason. -/
theorem deprecation?_eq_some_iff {cs payload : List Char} :
    deprecation? cs = some payload ↔
      ∃ rest, cs = '@' :: ("deprecated".toList ++ rest) ∧
        (∀ c ∈ rest.head?, isBlank c = true) ∧ payload = trim rest := by
  constructor
  · intro h
    unfold deprecation? at h
    split at h
    · next rest =>
      split at h
      · next htag =>
        refine ⟨rest.dropWhile (!isBlank ·), ?_, fun c hc => ?_, (Option.some.inj h).symm⟩
        · rw [← htag, List.takeWhile_append_dropWhile]
        · have := List.head?_dropWhile_not (!isBlank ·) rest
          rw [Option.mem_def.mp hc] at this
          simpa using this
      · exact nomatch h
    · exact nomatch h
  · rintro ⟨rest, rfl, hrest, rfl⟩
    have hword : ∀ c ∈ "deprecated".toList, (!isBlank c) = true :=
      List.all_eq_true.mp rfl
    -- The word ends where the tag does: the rest is empty or starts with a blank.
    have hnext : rest.takeWhile (!isBlank ·) = [] ∧ rest.dropWhile (!isBlank ·) = rest := by
      cases rest with
      | nil => exact ⟨rfl, rfl⟩
      | cons c rest =>
        have hc : isBlank c = true := hrest c rfl
        simp [hc]
    simp only [deprecation?]
    rw [List.takeWhile_append_of_pos hword, List.dropWhile_append_of_pos hword, hnext.1, hnext.2,
      List.append_nil, if_pos rfl]

/-- The same for a line as it is written. -/
theorem marksDeprecated_iff {raw : List Char} {payload : String} :
    MarksDeprecated raw payload ↔ deprecation? (line raw) = some payload.toList :=
  deprecation?_eq_some_iff.symm

/-- And for a line that does not say so. -/
theorem not_marksDeprecated_iff {raw : List Char} :
    (∀ payload, ¬ MarksDeprecated raw payload) ↔ deprecation? (line raw) = none := by
  constructor
  · intro h
    cases hpayload : deprecation? (line raw) with
    | none => rfl
    | some payload =>
      exact absurd (marksDeprecated_iff.mpr (by simp [hpayload])) (h (String.ofList payload))
  · intro h payload hmarks
    rw [marksDeprecated_iff, h] at hmarks
    exact nomatch hmarks

/-- The last line that says so decides, so the lines are searched from the end. -/
theorem deprecated_eq (text : String) :
    (read text).deprecated =
      ((rawLines text).reverse.findSome? fun raw => deprecation? (line raw)).map String.ofList := by
  rw [read]
  dsimp only
  rw [lines_eq_map, List.filterMap_map, List.getLast?_filterMap]
  rfl

/-- The last line with the tag decides. -/
theorem deprecated_eq_some_iff {text payload : String} :
    (read text).deprecated = some payload ↔
      ∃ before raw after, rawLines text = before ++ raw :: after ∧
        MarksDeprecated raw payload ∧ ∀ later ∈ after, ∀ other, ¬ MarksDeprecated later other := by
  rw [deprecated_eq, Option.map_eq_some_iff]
  constructor
  · rintro ⟨cs, hfound, rfl⟩
    obtain ⟨after, raw, before, hlines, hraw, hafter⟩ := List.findSome?_eq_some_iff.mp hfound
    refine ⟨before.reverse, raw, after.reverse, ?_, ?_, fun later hlater => ?_⟩
    · simpa using congrArg List.reverse hlines
    · rw [marksDeprecated_iff, hraw, String.toList_ofList]
    · exact not_marksDeprecated_iff.mpr (hafter later (List.mem_reverse.mp hlater))
  · rintro ⟨before, raw, after, hlines, hraw, hafter⟩
    refine ⟨payload.toList, List.findSome?_eq_some_iff.mpr ?_, String.ofList_toList⟩
    refine ⟨after.reverse, raw, before.reverse, ?_, marksDeprecated_iff.mp hraw,
      fun later hlater => ?_⟩
    · simp [hlines]
    · exact not_marksDeprecated_iff.mp (hafter later (List.mem_reverse.mp hlater))

/-- Nothing is deprecated if no line says so. -/
theorem deprecated_eq_none_iff {text : String} :
    (read text).deprecated = none ↔
      ∀ raw ∈ rawLines text, ∀ payload, ¬ MarksDeprecated raw payload := by
  rw [deprecated_eq, Option.map_eq_none_iff, List.findSome?_eq_none_iff]
  simp only [List.mem_reverse, not_marksDeprecated_iff]

/-- A payload is trimmed, so it is blank only if it is empty. -/
theorem toDoc_deprecated (text : String) :
    (read text).toDoc.deprecated =
      match (read text).deprecated with
      | none => .no
      | some payload =>
        if payload.toList.all isBlank then .flag true else .reason payload := by
  unfold toDoc
  cases hdeprecated : (read text).deprecated with
  | none => rfl
  | some payload =>
    obtain ⟨_, raw, _, -, ⟨rest, -, -, hpayload⟩, -⟩ := deprecated_eq_some_iff.mp hdeprecated
    have hblank : payload.toList.all isBlank = payload.isEmpty := by
      rw [Bool.eq_iff_iff, List.all_eq_true, ← trim_eq_nil_iff, hpayload, trim_trim, ← hpayload,
        String.toList_eq_nil_iff, String.isEmpty_iff]
    simp [hblank]

/-! ### One comment -/

/-- A doc comment reads the same in every layout: with other blanks around its
lines, with carriage returns or without, with stars before the lines or
without. Two comments with the same lines before the first tag have the same
summary, which is trimmed, not empty, and has all that is visible of these
lines. The text after the last `@deprecated`, wherever it stands, makes the
mark, or the reason if it is not blank. -/
theorem read_independent_of_layout (text : String) :
    (∀ other, List.Forall₂ (Relation.EqvGen Relaid) (rawLines text) (rawLines other) →
      read text = read other) ∧
    read (withReturns text) = read text ∧
    (∀ other before rest rest', rawLines text = before ++ rest →
      rawLines other = before ++ rest' → AtTag rest → AtTag rest' →
      (read text).summary = (read other).summary) ∧
    (∀ summary, (read text).summary = some summary →
      summary ≠ "" ∧ trim summary.toList = summary.toList) ∧
    visible ((read text).summary.getD "").toList =
      visible ((lines text).takeWhile (!isTag ·)).flatten ∧
    (∀ payload, (read text).deprecated = some payload ↔
      ∃ before raw after, rawLines text = before ++ raw :: after ∧
        MarksDeprecated raw payload ∧ ∀ later ∈ after, ∀ other, ¬ MarksDeprecated later other) ∧
    ((read text).deprecated = none ↔
      ∀ raw ∈ rawLines text, ∀ payload, ¬ MarksDeprecated raw payload) ∧
    (read text).toDoc.deprecated =
      (match (read text).deprecated with
      | none => .no
      | some payload =>
        if payload.toList.all isBlank then .flag true else .reason payload) := by
  -- Carriage returns are one of the changes of layout, so they are a case of the first
  -- part.
  refine ⟨fun other h => read_eq_of_relaid h, ?_, ?_, fun summary h => summary_trimmed h,
    visible_summary text, fun payload => deprecated_eq_some_iff, deprecated_eq_none_iff,
    toDoc_deprecated text⟩
  · exact (read_eq_of_relaid (rawLines_withReturns text)).symm
  · intro other before rest rest' htext hother hrest hrest'
    exact summary_eq_of_before htext hother hrest hrest'

/-- A comment with stars and carriage returns is read as the one without, and
as it has a tag line its summary is that of its first line. -/
theorem read_with_stars :
    let plain := "Old name.\n@see title\n@deprecated use title\nrest"
    let starred := "*Old name. \r\n *@see title\n@deprecated use title\r\n rest"
    List.Forall₂ (Relation.EqvGen Relaid) (rawLines plain) (rawLines starred) ∧
      read plain = read starred ∧
      AtTag ((rawLines plain).drop 1) ∧
      (read plain).summary = (read "Old name.").summary ∧
      (read plain).summary = some "Old name." ∧
      (read plain).toDoc.deprecated = .reason "use title" := by
  intro plain starred
  have hplain : rawLines plain =
      ["Old name.".toList, "@see title".toList, "@deprecated use title".toList, "rest".toList] := by
    decide +kernel
  have hstarred : rawLines starred = ["*Old name. \r".toList, " *@see title".toList,
      "@deprecated use title\r".toList, " rest".toList] := by
    decide +kernel
  have hlayout : List.Forall₂ (Relation.EqvGen Relaid) (rawLines plain) (rawLines starred) := by
    rw [hplain, hstarred]
    -- Line by line: a star goes, then the blanks at the end or in front.
    refine .cons (.trans _ "*Old name.".toList _ (.rel _ _ (.star _ (by decide))) ?_)
      (.cons (.trans _ "*@see title".toList _ (.rel _ _ (.star _ (by decide))) ?_)
        (.cons (.rel _ _ (.pad ['\r'] _ (List.forall_mem_singleton.mpr rfl)))
          (.cons (.rel _ _ (.indent [' '] _ (List.forall_mem_singleton.mpr rfl))) .nil)))
    · exact .rel _ _ (.pad [' ', '\r'] _ (List.all_eq_true.mp rfl))
    · exact .rel _ _ (.indent [' '] _ (List.forall_mem_singleton.mpr rfl))
  have htag : AtTag ((rawLines plain).drop 1) := by
    rw [hplain]
    rintro raw ⟨⟩
    decide
  have hlaws := read_independent_of_layout plain
  refine ⟨hlayout, hlaws.1 starred hlayout, htag, ?_, by decide +kernel, by decide +kernel⟩
  have hfirst : rawLines plain = ["Old name.".toList] ++ (rawLines plain).drop 1 := by
    rw [hplain]
    rfl
  exact hlaws.2.2.1 "Old name." _ _ [] hfirst (by decide +kernel) htag nofun

end AppMetadata.DocComment
