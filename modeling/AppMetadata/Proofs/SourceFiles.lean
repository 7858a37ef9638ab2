import AppMetadata.Proofs.Path
import AppMetadata.SourceFiles

/-!
# `AppMetadata.Proofs.SourceFiles`: the paths that specifiers stand for

What a specifier stands for is one of a few paths made from a cleaned one, and
there is a file at it. All of these paths are cleaned, but for the index of
the directory in which a relative path starts: it is called `./index.ts`, and
cleaned it would be `index.ts` (`SourceFiles.resolve?_spelled`).

* `resolve?_eq_some`, `resolve?_spelled`: the path that is found.
* `resolve?_belowRoot`: below the root of the file system there is no exception.
-/

set_option autoImplicit false

namespace AppMetadata

namespace Path

/-- The index file of the directory in which relative paths start. -/
def index (extension : String) : Path :=
  ⟨false, ["index." ++ extension]⟩

/-- The same file by a path that starts with a dot. -/
def dotIndex (extension : String) : Path :=
  ⟨false, [".", "index." ++ extension]⟩

/-- A path by which a program may know a file: a cleaned one, or that of an
index file with a dot in front. -/
def Spelled (path : Path) : Prop :=
  path.Cleaned ∨ ∃ extension ∈ SourceFiles.extensions, path = dotIndex extension

variable {path : Path}

/-- Cleaning takes the dot away. -/
theorem clean_dotIndex {extension : String} (h : extension ∈ SourceFiles.extensions) :
    (dotIndex extension).clean = index extension := by
  revert h
  revert extension
  decide

/-- Both spellings have proper segments. -/
theorem Spelled.proper (h : path.Spelled) : path.Proper := by
  rcases h with hcleaned | ⟨extension, hextension, rfl⟩
  · exact hcleaned.proper
  · have hslash : ∀ extension ∈ SourceFiles.extensions,
        '/' ∉ ("index." ++ extension).toList := by decide
    intro segment hmem
    rcases List.mem_cons.mp hmem with rfl | hmem
    · exact ⟨by decide, by decide⟩
    · obtain rfl := List.mem_singleton.mp hmem
      refine ⟨fun hempty => ?_, hslash extension hextension⟩
      simp at hempty

/-- Two paths of a file are equal, or one of them has a dot in front. -/
theorem Spelled.clean_eq_iff {other : Path} (h : path.Spelled) (hother : other.Spelled) :
    path.clean = other.clean ↔
      path = other ∨ ∃ extension ∈ SourceFiles.extensions,
        path = dotIndex extension ∧ other = index extension ∨
          path = index extension ∧ other = dotIndex extension := by
  constructor
  · intro heq
    -- Two cleaned paths are equal, and so are two with dots; a cleaned one beside one
    -- with a dot is the index file itself.
    rcases h with hcleaned | ⟨extension, hextension, rfl⟩ <;>
      rcases hother with hcleaned' | ⟨extension', hextension', rfl⟩
    · exact .inl (hcleaned.clean_eq.symm.trans (heq.trans hcleaned'.clean_eq))
    · rw [hcleaned.clean_eq, clean_dotIndex hextension'] at heq
      exact .inr ⟨extension', hextension', .inr ⟨heq, rfl⟩⟩
    · rw [hcleaned'.clean_eq, clean_dotIndex hextension] at heq
      exact .inr ⟨extension, hextension, .inl ⟨rfl, heq.symm⟩⟩
    · rw [clean_dotIndex hextension, clean_dotIndex hextension'] at heq
      have hname : "index." ++ extension = "index." ++ extension' := by simpa [index] using heq
      exact .inl (by simp [dotIndex, hname])
  · have hindex : ∀ extension ∈ SourceFiles.extensions,
      (index extension).clean = index extension := by
      decide
    rintro (rfl | ⟨extension, hextension, ⟨rfl, rfl⟩ | ⟨rfl, rfl⟩⟩)
    · rfl
    · rw [clean_dotIndex hextension, hindex extension hextension]
    · rw [clean_dotIndex hextension, hindex extension hextension]

/-- A path that starts at the root has no other spelling. -/
theorem Spelled.cleaned (h : path.Spelled) (hrooted : path.rooted = true) : path.Cleaned := by
  rcases h with hcleaned | ⟨extension, -, rfl⟩
  · exact hcleaned
  · cases hrooted

end Path

namespace SourceFiles

variable {files : SourceFiles} {specifier : String} {importer path : Path}

/-- Extensions are too long to make a name a way up. -/
theorem extension_text {extension : String} (h : extension ∈ extensions) :
    2 ≤ extension.length ∧ '/' ∉ extension.toList := by
  revert h
  revert extension
  decide

/-- The source of a script has one of the known extensions. -/
theorem sourceExtension?_mem {script extension : String}
    (h : sourceExtension? script = some extension) : extension ∈ extensions := by
  unfold sourceExtension? at h
  split at h
  · cases h; decide
  · cases h; decide
  · cases h; decide
  · cases h

/-- An index file has one segment, which is a name. -/
theorem ofText_index {extension : String} (h : extension ∈ extensions) :
    Path.ofText s!"index.{extension}" = ⟨false, ["index." ++ extension]⟩ ∧
      Path.IsName ("index." ++ extension) := by
  have htext : ∀ extension ∈ extensions,
      Path.ofText s!"index.{extension}" = ⟨false, ["index." ++ extension]⟩ ∧
        3 ≤ ("index." ++ extension).length ∧ '/' ∉ ("index." ++ extension).toList := by
    decide
  obtain ⟨hofText, hlength, hslash⟩ := htext extension h
  exact ⟨hofText, Path.isName_of_length hlength hslash⟩

/-- The directory or file that a specifier names, before any extension. -/
def target (specifier : String) (importer : Path) : Path :=
  (importer.parent.join (Path.ofText specifier)).clean

/-- The four ways from the target of a specifier to a candidate; the first two
are for files that have an extension. -/
theorem mem_candidates (h : path ∈ candidates specifier importer) :
    (path = target specifier importer ∧ (target specifier importer).fileName?.isSome) ∨
    (∃ extension ∈ extensions, path = (target specifier importer).withExtension extension ∧
      (target specifier importer).fileName?.isSome) ∨
    (∃ extension ∈ extensions, path = (target specifier importer).append extension) ∨
    ∃ extension ∈ extensions,
      path = (target specifier importer).join ⟨false, ["index." ++ extension]⟩ := by
  have hfileName {present : Option String} (hsome : (target specifier importer).extension? = present)
      (hpresent : present.isSome) : (target specifier importer).fileName?.isSome := by
    rw [← hsome] at hpresent
    exact Option.isSome_of_isSome_bind hpresent
  -- The candidates are listed in four parts, the first two of which are empty for a
  -- target without an extension.
  unfold candidates at h
  simp only [List.mem_append, Option.mem_toList, List.mem_map] at h
  rcases h with ((h | h) | ⟨extension, hextension, rfl⟩) | ⟨extension, hextension, rfl⟩
  · split at h
    · next hany =>
      refine .inl ⟨List.mem_singleton.mp h, hfileName rfl ?_⟩
      cases hextension : (target specifier importer).extension? with
      | none =>
        replace hany : (target specifier importer).extension?.any _ = true := hany
        simp [hextension] at hany
      | some extension => rfl
    · cases h
  · obtain ⟨extension, hextension, rfl⟩ := Option.map_eq_some_iff.mp h
    obtain ⟨script, hscript, hsource⟩ := Option.bind_eq_some_iff.mp hextension
    exact .inr (.inl ⟨extension, sourceExtension?_mem hsource, rfl, hfileName hscript rfl⟩)
  · exact .inr (.inr (.inl ⟨extension, hextension, rfl⟩))
  · refine .inr (.inr (.inr ⟨extension, hextension, ?_⟩))
    rw [(ofText_index hextension).1]
    rfl

/-- The target of a specifier is cleaned. -/
theorem cleaned_target (himporter : importer.Proper) : (target specifier importer).Cleaned :=
  Path.cleaned_clean (himporter.parent.join (Path.proper_ofText specifier))

/-- What a specifier stands for is a candidate at which there is a file; other
specifiers than relative ones stand for nothing. -/
theorem resolve?_eq_some (h : files.resolve? specifier importer = some path) :
    isRelative specifier = true ∧ path ∈ candidates specifier importer ∧
      files.isFile path = true := by
  unfold resolve? at h
  split at h
  · next hrelative =>
    exact ⟨hrelative, List.mem_of_find?_eq_some h, List.find?_some h⟩
  · cases h

/-- The path that a specifier stands for is cleaned, or that of an index file
with a dot in front. -/
theorem resolve?_spelled (himporter : importer.Proper)
    (h : files.resolve? specifier importer = some path) : path.Spelled := by
  have htarget : (target specifier importer).Cleaned := cleaned_target himporter
  rcases mem_candidates (resolve?_eq_some h).2.1 with
    ⟨heq, -⟩ | ⟨extension, hextension, heq, -⟩ | ⟨extension, hextension, heq⟩ |
    ⟨extension, hextension, heq⟩
  · exact .inl (heq ▸ htarget)
  · obtain ⟨hlength, hslash⟩ := extension_text hextension
    rw [heq]
    exact .inl (htarget.withExtension hlength hslash)
  · obtain ⟨hlength, hslash⟩ := extension_text hextension
    obtain ⟨happend, hcleaned⟩ := Path.append_eq_extended htarget hlength hslash
    rw [heq, happend]
    exact .inl hcleaned
  · rcases Path.cleaned_join_or htarget (ofText_index hextension).2 with hcleaned | ⟨-, hjoin⟩
    · exact .inl (heq ▸ hcleaned)
    · exact .inr ⟨extension, hextension, heq.trans hjoin⟩

/-- A relative specifier does not start at the root of the file system. -/
theorem rooted_ofText_of_isRelative (h : isRelative specifier = true) :
    (Path.ofText specifier).rooted = false := by
  rw [Path.rooted_ofText]
  rcases Bool.or_eq_true_iff.mp h with h | h <;>
    obtain ⟨rest, hrest⟩ := String.startsWith_string_iff.mp h <;>
    rw [← hrest] <;> rfl

/-- What stands below the root mentions only what stands there too. -/
theorem resolve?_belowRoot (himporter : importer.Proper) (hbelow : importer.BelowRoot)
    (h : files.resolve? specifier importer = some path) : path.BelowRoot := by
  obtain ⟨hrelative, hcandidate, -⟩ := resolve?_eq_some h
  have hrooted : (target specifier importer).rooted = true := by
    refine Path.rooted_clean ?_
    rw [Path.rooted_join (rooted_ofText_of_isRelative hrelative), hbelow.rooted_parent]
  rcases mem_candidates hcandidate with
    ⟨heq, hname⟩ | ⟨extension, hextension, heq, hname⟩ | ⟨extension, hextension, heq⟩ |
    ⟨extension, hextension, heq⟩
  · exact heq ▸ Path.belowRoot_of_fileName? hrooted hname
  · exact heq ▸ Path.belowRoot_withExtension hrooted hname extension
  · obtain ⟨hlength, hslash⟩ := extension_text hextension
    rw [heq, (Path.append_eq_extended (cleaned_target himporter) hlength hslash).1]
    exact ⟨hrooted, by simp [Path.extended]⟩
  · rw [heq]
    refine ⟨(Path.rooted_join rfl).trans hrooted, ?_⟩
    simp [Path.join, (ofText_index hextension).2.2.1]

end SourceFiles

end AppMetadata
