import AppMetadata.Path
import Mathlib.Data.List.Basic

/-!
# `AppMetadata.Proofs.Path`: cleaned paths and what is made of them

A path that is read from a text has segments without slashes, none of them
empty (`Path.Proper`). Cleaning such a path leaves the ways up first and then
names alone (`Path.Cleaned`), and changes nothing the second time.

The paths of source files are made from cleaned paths in three ways: by
another extension, by one more extension, and by one more name. All of them
are cleaned again, with one exception: a name that is put after the path `.`
keeps the dot (`cleaned_join_or`).

* `cleaned_clean`, `Cleaned.clean_eq`: cleaning makes cleaned paths, and they
  are the ones that it leaves alone.
* `append_eq_extended`: what appending an extension does to the segments.
-/

set_option autoImplicit false

namespace AppMetadata.Path

/-- A part of a path between slashes. -/
def IsSegment (segment : String) : Prop :=
  segment ≠ "" ∧ '/' ∉ segment.toList

/-- A segment that is the name of a file or directory, and not a way to one. -/
def IsName (segment : String) : Prop :=
  IsSegment segment ∧ segment ≠ "." ∧ segment ≠ ".."

/-- A path as it is read from a text. -/
def Proper (path : Path) : Prop :=
  ∀ segment ∈ path.segments, IsSegment segment

/-- Ways up, unless the path starts at the root, and then names. -/
def Settled (rooted : Bool) (segments : List String) : Prop :=
  ∃ ups names, segments = List.replicate ups ".." ++ names ∧
    (∀ name ∈ names, IsName name) ∧ (rooted = true → ups = 0)

/-- A path as cleaning leaves it. -/
def Cleaned (path : Path) : Prop :=
  path = ⟨false, ["."]⟩ ∨
    Settled path.rooted path.segments ∧ (path.rooted = false → path.segments ≠ [])

/-- A path to a place below the root. -/
def BelowRoot (path : Path) : Prop :=
  path.rooted = true ∧ path.segments ≠ []

variable {path : Path} {rooted : Bool} {segments : List String}

/-! ### Segments -/

/-- Three characters are enough to be neither a dot nor two. -/
theorem isName_of_length {segment : String} (hlength : 3 ≤ segment.length)
    (hslash : '/' ∉ segment.toList) : IsName segment := by
  refine ⟨⟨?_, hslash⟩, ?_, ?_⟩ <;> rintro rfl <;> exact absurd hlength (by decide)

/-- What stands between two slashes has no slash in it. -/
theorem isSegment_of_mem_split {text : String} {piece : List Char}
    (h : piece ∈ Text.splitWhere (· == '/') text.toList) (hne : piece ≠ []) :
    IsSegment (String.ofList piece) := by
  refine ⟨fun hempty => hne ?_, fun hslash => ?_⟩
  · simpa using congrArg String.toList hempty
  · have hnot := Text.not_of_mem_splitWhere h (by simpa using hslash : '/' ∈ piece)
    simp at hnot

/-- A path that is read from a text leaves empty segments out, so it is proper. -/
theorem proper_ofText (text : String) : (ofText text).Proper := by
  -- Every segment is a piece of the text, and empty pieces are dropped.
  have hpieces (segment : String) (hmem : segment ∈
      (Text.splitWhere (· == '/') text.toList).map String.ofList) (hne : segment ≠ "") :
      IsSegment segment := by
    obtain ⟨piece, hpiece, rfl⟩ := List.mem_map.mp hmem
    exact isSegment_of_mem_split hpiece fun hempty => hne (by simp [hempty])
  intro segment hmem
  unfold ofText at hmem
  dsimp only at hmem
  split at hmem
  · next rest hsegments =>
    rw [hsegments] at hpieces
    rcases List.mem_cons.mp hmem with rfl | hmem
    · exact hpieces _ (List.mem_cons_self ..) (by decide)
    · obtain ⟨hmem, hkept⟩ := List.mem_filter.mp hmem
      exact hpieces _ (List.mem_cons_of_mem _ hmem) (by simp_all)
  · obtain ⟨hmem, hkept⟩ := List.mem_filter.mp hmem
    exact hpieces _ hmem (by simp_all)

/-- The directory of a proper path is proper: a segment less. -/
theorem Proper.parent (h : path.Proper) : path.parent.Proper := by
  intro segment hmem
  unfold Path.parent at hmem
  split at hmem
  · cases hmem
  · exact h segment (List.dropLast_subset _ hmem)

/-- Two proper paths in a row are proper. -/
theorem Proper.join {other : Path} (h : path.Proper) (hother : other.Proper) :
    (path.join other).Proper := by
  intro segment hmem
  unfold Path.join at hmem
  split at hmem
  · exact hother segment hmem
  · rcases List.mem_append.mp hmem with hmem | hmem
    · exact h segment hmem
    · exact hother segment (List.mem_filter.mp hmem).1

/-! ### Cleaning -/

/-- No segments at all. -/
theorem Settled.nil : Settled rooted [] :=
  ⟨0, [], rfl, by simp, fun _ => rfl⟩

/-- One more name at the end. -/
theorem Settled.concat {name : String} (h : Settled rooted segments) (hname : IsName name) :
    Settled rooted (segments ++ [name]) := by
  obtain ⟨ups, names, rfl, hnames, hups⟩ := h
  refine ⟨ups, names ++ [name], List.append_assoc .., fun other hmem => ?_, hups⟩
  rcases List.mem_append.mp hmem with hmem | hmem
  · exact hnames other hmem
  · exact List.mem_singleton.mp hmem ▸ hname

/-- The last segment may be dropped, be it a name or a way up. -/
theorem Settled.dropLast (h : Settled rooted segments) : Settled rooted segments.dropLast := by
  obtain ⟨ups, names, rfl, hnames, hups⟩ := h
  by_cases hnone : names = []
  · -- The last segment is a way up.
    refine ⟨ups - 1, [], ?_, by simp, fun hrooted => by simp [hups hrooted]⟩
    simp [hnone, List.dropLast_replicate]
  · refine ⟨ups, names.dropLast, List.dropLast_append_of_ne_nil hnone, fun name hmem => ?_, hups⟩
    exact hnames name (List.dropLast_subset _ hmem)

/-- Settled segments are those of a cleaned path, if there are any. -/
theorem Settled.cleaned (h : Settled rooted segments) (hne : segments ≠ []) :
    Cleaned ⟨rooted, segments⟩ :=
  .inr ⟨h, fun _ => hne⟩

/-- A dot is neither a way up nor a name. -/
theorem Settled.ne_dot {segment : String} (h : Settled rooted segments)
    (hmem : segment ∈ segments) : segment ≠ "." := by
  obtain ⟨ups, names, rfl, hnames, -⟩ := h
  rcases List.mem_append.mp hmem with hmem | hmem
  · obtain rfl := List.eq_of_mem_replicate hmem
    decide
  · exact (hnames segment hmem).2.1

/-- What a step of cleaning keeps of the segments so far. -/
theorem settled_cleanStep {segment : String} {done : List String}
    (h : Settled rooted done.reverse) (hsegment : IsSegment segment) :
    Settled rooted (cleanStep rooted done segment).reverse := by
  unfold cleanStep
  split
  · exact h
  · next hdot =>
    split
    · -- A way up takes the last name away, or is one more way up.
      split
      · split
        · exact .nil
        · next hrooted => exact ⟨1, [], rfl, by simp, fun hrooted' => absurd hrooted' hrooted⟩
      · next last before =>
        split
        · next hlast =>
          subst hlast
          obtain ⟨ups, names, heq, hnames, hups⟩ := h
          -- The last segment is no name, so there are no names.
          obtain rfl : names = [] := by
            refine List.eq_nil_iff_forall_not_mem.mpr fun name hmem => ?_
            have hlast := congrArg List.getLast? heq
            rw [List.getLast?_append_of_ne_nil _ (List.ne_nil_of_mem hmem),
              List.getLast?_reverse, List.head?_cons] at hlast
            exact (hnames _ (List.mem_of_getLast? hlast.symm)).2.2 rfl
          refine ⟨ups + 1, [], ?_, by simp, fun hrooted => ?_⟩
          · rw [List.reverse_cons, heq, List.append_nil, List.append_nil,
              List.replicate_succ']
          · rw [hups hrooted] at heq
            simp at heq
        · have hdropped := h.dropLast
          simpa using hdropped
    · next hup =>
      rw [List.reverse_cons]
      exact h.concat ⟨hsegment, hdot, hup⟩

/-- Cleaning a proper path settles its segments one by one. Where none is left,
the path is a dot. -/
theorem cleaned_clean (h : path.Proper) : path.clean.Cleaned := by
  have hsettled : Settled path.rooted
      (path.segments.foldl (cleanStep path.rooted) []).reverse :=
    List.foldlRecOn path.segments
      (motive := fun done : List String => Settled path.rooted done.reverse)
      _ .nil fun _ hdone segment hmem => settled_cleanStep hdone (h segment hmem)
  unfold clean
  dsimp only
  split
  · exact .inl rfl
  · next hsome => exact .inr ⟨hsettled, fun hrooted hnone => hsome ⟨hnone, hrooted⟩⟩

/-- Ways up are kept where nothing else comes before them. -/
theorem foldl_cleanStep_ups (ups before : Nat) :
    (List.replicate ups "..").foldl (cleanStep false) (List.replicate before "..") =
      List.replicate (before + ups) ".." := by
  induction ups generalizing before with
  | zero => rfl
  | succ ups ih =>
    have hstep : cleanStep false (List.replicate before "..") ".." =
        List.replicate (before + 1) ".." := by
      cases before <;> rfl
    rw [List.replicate_succ, List.foldl_cons, hstep, ih, Nat.add_assoc, Nat.add_comm 1]

/-- Names are kept after anything. -/
theorem foldl_cleanStep_names {names : List String} (h : ∀ name ∈ names, IsName name)
    (done : List String) :
    names.foldl (cleanStep rooted) done = names.reverse ++ done := by
  induction names generalizing done with
  | nil => rfl
  | cons name names ih =>
    obtain ⟨hname, hnames⟩ := List.forall_mem_cons.mp h
    have hstep : cleanStep rooted done name = name :: done := by
      simp [cleanStep, hname.2.1, hname.2.2]
    rw [List.foldl_cons, hstep, ih hnames, List.reverse_cons, List.append_assoc]
    rfl

/-- Settled segments are all kept: the ways up have nothing to go up from, and
the names are put after them. -/
theorem Settled.foldl_cleanStep (h : Settled rooted segments) :
    (segments.foldl (cleanStep rooted) []).reverse = segments := by
  obtain ⟨ups, names, rfl, hnames, hups⟩ := h
  have hfirst : (List.replicate ups "..").foldl (cleanStep rooted) [] =
      List.replicate ups ".." := by
    cases rooted with
    | true => simp [hups rfl]
    | false => simpa using foldl_cleanStep_ups ups 0
  rw [List.foldl_append, hfirst, foldl_cleanStep_names hnames]
  simp

/-- Cleaning leaves a cleaned path alone. -/
theorem Cleaned.clean_eq (h : path.Cleaned) : path.clean = path := by
  rcases h with rfl | ⟨hsettled, hsome⟩
  · decide
  · unfold clean
    dsimp only
    rw [hsettled.foldl_cleanStep, if_neg fun hnone => hsome hnone.2 hnone.1]

/-- A cleaned path is proper. -/
theorem Cleaned.proper (h : path.Cleaned) : path.Proper := by
  rcases h with rfl | ⟨⟨ups, names, hsegments, hnames, -⟩, -⟩
  · intro segment hmem
    obtain rfl := List.mem_singleton.mp hmem
    exact ⟨by decide, by decide⟩
  · intro segment hmem
    rw [hsegments] at hmem
    rcases List.mem_append.mp hmem with hmem | hmem
    · obtain rfl := List.eq_of_mem_replicate hmem
      exact ⟨by decide, by decide⟩
    · exact (hnames segment hmem).1

/-! ### The paths of source files -/

/-- The path `.` is the only cleaned one that a name cannot be put after. -/
theorem cleaned_join_or {name : String} (h : path.Cleaned) (hname : IsName name) :
    (path.join ⟨false, [name]⟩).Cleaned ∨
      path = ⟨false, ["."]⟩ ∧ path.join ⟨false, [name]⟩ = ⟨false, [".", name]⟩ := by
  have hjoin : path.join ⟨false, [name]⟩ = ⟨path.rooted, path.segments ++ [name]⟩ := by
    simp [join, hname.2.1]
  rw [hjoin]
  rcases h with rfl | ⟨hsettled, -⟩
  · exact .inr ⟨rfl, rfl⟩
  · exact .inl ((hsettled.concat hname).cleaned (by simp))

/-- Another name at the end of a cleaned path. -/
theorem Cleaned.rename {name : String} (h : path.Cleaned) (hname : IsName name) :
    Settled path.rooted (path.segments.dropLast ++ [name]) := by
  rcases h with rfl | ⟨hsettled, -⟩
  · exact Settled.nil.concat hname
  · exact hsettled.dropLast.concat hname

/-- The name of a file is a segment, without slashes. -/
theorem Proper.not_mem_fileName {name : String} (h : path.Proper)
    (hname : path.fileName? = some name) : '/' ∉ name.toList := by
  unfold fileName? at hname
  split at hname
  · next hlast =>
    split at hname
    · cases hname
    · cases hname
      exact (h name (List.mem_of_getLast? hlast)).2
  · cases hname

/-- A name without its extension has no slash either. -/
theorem not_mem_stem {name : String} (h : '/' ∉ name.toList) :
    '/' ∉ (((stemAndExtension? name).map (·.1)).getD name).toList := by
  unfold stemAndExtension?
  dsimp only
  split
  · next before hdrop =>
    -- What is left in front of the last dot are characters of the name.
    intro hmem
    have hmem : '/' ∈ name.toList.reverse.dropWhile (· != '.') := by
      rw [hdrop]
      exact List.mem_cons_of_mem _ (List.mem_reverse.mp (by simpa using hmem))
    exact h (List.mem_reverse.mp ((List.dropWhile_sublist _).subset hmem))
  · exact h

/-- Another extension makes another name out of the last one. It has three
characters at least, so it is no way up. -/
theorem Cleaned.withExtension {extension : String} (h : path.Cleaned)
    (hlength : 2 ≤ extension.length) (hslash : '/' ∉ extension.toList) :
    (path.withExtension extension).Cleaned := by
  unfold Path.withExtension
  split
  · exact h
  · next name hname =>
    have hstem := not_mem_stem (h.proper.not_mem_fileName hname)
    refine (h.rename (isName_of_length ?_ ?_)).cleaned (by simp)
    · have hdot : ".".length = 1 := rfl
      simp only [String.length_append]
      omega
    · simp [hstem, hslash]

/-! ### Places below the root -/

/-- A path starts at the root if its text starts with a slash. -/
theorem rooted_ofText (text : String) : (ofText text).rooted = (text.toList.head? == some '/') := by
  unfold ofText
  dsimp only
  split <;> rfl

/-- A path that is put after another one starts where this one does. -/
theorem rooted_join {other : Path} (h : other.rooted = false) :
    (path.join other).rooted = path.rooted := by
  simp [join, h]

/-- Cleaning does not move the start of a path. -/
theorem rooted_clean (h : path.rooted = true) : path.clean.rooted = true := by
  simp [clean, h]

/-- A place below the root has a directory, which may be the root itself. -/
theorem BelowRoot.rooted_parent (h : path.BelowRoot) : path.parent.rooted = true := by
  unfold Path.parent
  split
  · next hnone => exact absurd hnone h.2
  · exact h.1

/-- A path from the root with a file name leads below the root. -/
theorem belowRoot_of_fileName? (hrooted : path.rooted = true) (h : path.fileName?.isSome) :
    path.BelowRoot := by
  refine ⟨hrooted, fun hnone => ?_⟩
  simp [fileName?, hnone] at h

/-- So it does with another extension. -/
theorem belowRoot_withExtension (hrooted : path.rooted = true) (h : path.fileName?.isSome)
    (extension : String) : (path.withExtension extension).BelowRoot := by
  unfold Path.withExtension
  split
  · next hnone => simp [hnone] at h
  · exact ⟨hrooted, by simp⟩

/-! ### Extensions -/

/-- The path with `suffix` at the end of its text. -/
def extended (path : Path) (suffix : String) : Path :=
  ⟨path.rooted, path.segments.dropLast ++ [path.segments.getLast?.getD "" ++ suffix]⟩

/-- What is appended to the last of several texts is appended to all of them
joined. -/
theorem intercalate_concat (separator last suffix : String) (before : List String) :
    separator.intercalate (before ++ [last ++ suffix]) =
      separator.intercalate (before ++ [last]) ++ suffix := by
  induction before with
  | nil => simp
  | cons first before ih =>
    cases before with
    | nil => simp [String.intercalate_cons_cons, String.append_assoc]
    | cons second before =>
      simp only [List.cons_append, String.intercalate_cons_cons] at ih ⊢
      rw [ih, String.append_assoc, String.append_assoc, String.append_assoc]

/-- Extending the last segment appends to the text of the path. -/
theorem text_extended (path : Path) (suffix : String) :
    (path.extended suffix).text = path.text ++ suffix := by
  unfold extended text
  dsimp only
  rw [intercalate_concat, String.append_assoc]
  rcases List.eq_nil_or_concat path.segments with hnone | ⟨before, last, hsegments⟩
  · simp [hnone]
  · simp [hsegments]

/-- The segments of a text are found again between its slashes. -/
theorem splitWhere_intercalate {segments : List String} (hne : segments ≠ [])
    (h : ∀ segment ∈ segments, '/' ∉ segment.toList) :
    Text.splitWhere (· == '/') ("/".intercalate segments).toList = segments.map String.toList := by
  have hpiece {segment : String} (hslash : '/' ∉ segment.toList) :
      ∀ c ∈ segment.toList, (c == '/') = false := by
    intro c hc
    exact beq_eq_false_iff_ne.mpr fun heq => hslash (heq ▸ hc)
  induction segments with
  | nil => exact absurd rfl hne
  | cons first rest ih =>
    obtain ⟨hfirst, hrest⟩ := List.forall_mem_cons.mp h
    cases rest with
    | nil => simpa using Text.splitWhere_of_all_not (hpiece hfirst)
    | cons second rest =>
      have hslash : "/".toList = ['/'] := rfl
      rw [String.intercalate_cons_cons, String.toList_append, String.toList_append, hslash,
        List.append_assoc, List.singleton_append, Text.splitWhere_append_cons (hpiece hfirst) rfl,
        ih (by simp) hrest]
      rfl

/-- A path without dots in it is read back from its text. -/
theorem ofText_text (hne : path.segments ≠ [])
    (h : ∀ segment ∈ path.segments, IsSegment segment ∧ segment ≠ ".") :
    ofText path.text = path := by
  obtain ⟨rooted, segments⟩ := path
  dsimp only at hne h
  have hkept : significant segments = segments :=
    List.filter_eq_self.mpr fun segment hmem => by simp [(h segment hmem).1.1, (h segment hmem).2]
  have hsplit := splitWhere_intercalate hne fun segment hmem => (h segment hmem).1.2
  have hpieces : (segments.map String.toList).map String.ofList = segments := by simp
  unfold ofText
  dsimp only
  cases rooted with
  | true =>
    -- The slash in front makes one more piece, which is empty.
    have htext :
      (text ⟨true, segments⟩).toList = [] ++ '/' :: ("/".intercalate segments).toList := by
      simp [text]
    rw [htext, Text.splitWhere_append_cons (by simp) rfl, hsplit, List.map_cons, hpieces]
    simp [significant] at hkept ⊢
    exact hkept
  | false =>
    have htext : (text ⟨false, segments⟩).toList = ("/".intercalate segments).toList := by
      simp [text]
    -- Nor does the text start with a slash, since the first segment is not empty.
    have hhead : (("/".intercalate segments).toList.head? == some '/') = false := by
      cases hchars : ("/".intercalate segments).toList with
      | nil => rfl
      | cons c cs =>
        refine beq_eq_false_iff_ne.mpr fun hc => ?_
        obtain rfl := Option.some.inj hc
        rw [hchars, Text.splitWhere, if_pos (by decide)] at hsplit
        rw [← hsplit] at hpieces
        exact (h "" (hpieces ▸ List.mem_cons_self ..)).1.1 rfl
    rw [htext, hsplit, hpieces, hhead]
    split
    · exact absurd rfl (h "." (List.mem_cons_self ..)).2
    · rw [hkept]

/-- An extension is put to the last segment, or is the only one. -/
theorem append_eq_extended {extension : String} (h : path.Cleaned) (hlength : 2 ≤ extension.length)
    (hslash : '/' ∉ extension.toList) :
    path.append extension = path.extended ("." ++ extension) ∧
      (path.extended ("." ++ extension)).Cleaned := by
  have hlast : '/' ∉ (path.segments.getLast?.getD "").toList := by
    cases hlast : path.segments.getLast? with
    | none => simp
    | some last => exact (h.proper last (List.mem_of_getLast? hlast)).2
  have hname : IsName (path.segments.getLast?.getD "" ++ ("." ++ extension)) := by
    refine isName_of_length ?_ ?_
    · have hdot : ".".length = 1 := rfl
      simp only [String.length_append]
      omega
    · simp [hlast, hslash]
  have hsettled := h.rename hname
  refine ⟨?_, hsettled.cleaned (by simp)⟩
  unfold append
  rw [String.append_assoc, ← text_extended]
  refine ofText_text (by simp [extended]) fun segment hmem => ?_
  exact ⟨(hsettled.cleaned (by simp)).proper segment hmem, hsettled.ne_dot hmem⟩

end AppMetadata.Path
