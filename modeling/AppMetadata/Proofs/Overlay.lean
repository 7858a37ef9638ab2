import AppMetadata.Extraction
import AppMetadata.Proofs.Program.Closure

/-!
# `AppMetadata.Proofs.Overlay`: a root file that is given as a text

The root file of an application can be given as a text. It is then put in
front of the files (`SourceFiles.overlay`), and hides the one that is stored
at its path. The extraction gives the same answer as for files in which the
text is stored at that path.

Loading asks its files a single question, what is stored at a path, and it
asks it for paths as they are written: with a dot in front, or leading through
a directory and out of it again. Two collections that answer this question
alike (`SourceFiles.Alike`) may still differ as lists, and the list that hides
a file is longer than the one that replaces it. So the two loops have
different bounds on their steps, which is why the proof goes through the loop
without a bound.

* `content?_overlay`, `content?_insert`: what is stored at a path after a
  file is hidden, and after it is replaced.
* `Closes.of_alike`, `Loads.of_alike`: the loop asks for nothing else.
* `load_of_alike`: so the program is the same.
* `fromSource_eq_fromFiles`: and so is the application.
-/

set_option autoImplicit false

namespace AppMetadata

/-! ### Collections of files -/

namespace SourceFiles

variable {files other : SourceFiles}

/-- A file in front of the others is what is found at every spelling of its
path, and nothing else changes. -/
theorem content?_overlay (files : SourceFiles) (path : Path) (content : FileContent)
    (asked : Path) :
    (files.overlay path content).content? asked =
      if asked.clean = path.clean then some content else files.content? asked := by
  unfold content? overlay
  by_cases hpath : asked.clean = path.clean
  · rw [if_pos hpath, hpath, List.lookup_cons_self]
  · have hne : (asked.clean == path.clean) = false := beq_eq_false_iff_ne.mpr hpath
    rw [if_neg hpath, List.lookup_cons, hne]

/-- Entries at other paths are found with and without those at `path`. -/
theorem lookup_filter_ne {path asked : Path} (hne : asked ≠ path)
    (entries : List (Path × FileContent)) :
    (entries.filter (·.1 != path)).lookup asked = entries.lookup asked := by
  induction entries with
  | nil => rfl
  | cons entry entries ih =>
    obtain ⟨stored, content⟩ := entry
    by_cases hstored : stored = path
    · -- The entry is dropped, and it is none that is asked for.
      have hasked : (asked == stored) = false := beq_eq_false_iff_ne.mpr (hstored ▸ hne)
      rw [List.filter_cons_of_neg (by simp [hstored]), ih, List.lookup_cons, hasked]
    · rw [List.filter_cons_of_pos (by simp [hstored]), List.lookup_cons, List.lookup_cons, ih]

/-- A file that is stored replaces the one at its path. -/
theorem content?_insert (files : SourceFiles) (path : Path) (content : FileContent)
    (asked : Path) :
    (files.insert path content).content? asked =
      if asked.clean = path.clean then some content else files.content? asked := by
  by_cases hpath : asked.clean = path.clean
  · have hself := files.content?_insert_self path content
    unfold content? at hself ⊢
    rw [if_pos hpath, hpath, hself]
  · have hne : (asked.clean == path.clean) = false := beq_eq_false_iff_ne.mpr hpath
    unfold content? insert
    rw [if_neg hpath, List.lookup_cons, hne]
    exact lookup_filter_ne hpath files.entries

/-- At every path the same is stored. -/
def Alike (files other : SourceFiles) : Prop :=
  ∀ path, files.content? path = other.content? path

/-- It makes no difference whether a file is hidden or replaced, nor how its
path is spelled. -/
theorem overlay_alike_insert (files : SourceFiles) {path spelling : Path}
    (hspelling : spelling.clean = path.clean) (content : FileContent) :
    (files.overlay path content).Alike (files.insert spelling content) := by
  intro asked
  rw [content?_overlay, content?_insert, hspelling]

namespace Alike

variable (h : files.Alike other)
include h

/-- The same paths have files. -/
theorem isFile_eq : files.isFile = other.isFile := by
  funext path
  unfold isFile
  rw [h path]

/-- The same is read at each path. -/
theorem read_eq : files.read = other.read := by
  funext path
  unfold read
  rw [h path]

/-- So specifiers stand for the same paths. -/
theorem resolve?_eq : files.resolve? = other.resolve? := by
  funext specifier importer
  unfold resolve?
  rw [h.isFile_eq]

end Alike

end SourceFiles

/-! ### Loading -/

namespace Program

variable {files other : SourceFiles} (h : files.Alike other)
include h

/-- A module is read from what is stored at its path. -/
theorem readModule_of_alike :
    (readModule files : ModuleId → Path → Attempt Module) = readModule other := by
  funext id path
  unfold readModule
  rw [h.read_eq]

/-- To follow a specifier is to find a file and to read it. -/
theorem follow_of_alike :
    (follow files : ModuleId → Path → Program → String → Attempt Program) = follow other := by
  funext id importer program specifier
  unfold follow
  rw [h.resolve?_eq, readModule_of_alike h]

/-- The loop takes the same steps. -/
theorem Closes.of_alike {id : ModuleId} {program : Program} {answer : Attempt Program}
    (hcloses : Closes files id program answer) : Closes other id program answer := by
  induction hcloses with
  | last hend => exact .last hend
  | next hscope hfollow _ ih =>
    rw [follow_of_alike h] at hfollow
    exact .next hscope hfollow ih
  | failed hscope hfollow =>
    rw [follow_of_alike h] at hfollow
    exact .failed hscope hfollow

/-- The root is found and read alike, and then the loop takes the same steps. -/
theorem Loads.of_alike {root : Path} {answer : Attempt Program}
    (hloads : Loads files root answer) : Loads other root answer := by
  cases hloads with
  | missing hfile =>
    rw [h.isFile_eq] at hfile
    exact .missing hfile
  | unreadable hfile hread =>
    rw [h.isFile_eq] at hfile
    rw [readModule_of_alike h] at hread
    exact .unreadable hfile hread
  | closes hfile hread hcloses =>
    rw [h.isFile_eq] at hfile
    rw [readModule_of_alike h] at hread
    exact .closes hfile hread (hcloses.of_alike h)

/-- A program depends on what is stored at each path and not on how the files
are listed. -/
theorem load_of_alike {root : Path} (hroot : root.Proper) :
    (load files root : Attempt Program) = load other root := by
  -- The bounds on the steps differ, but neither of them is met.
  have hloads : Loads files root (load files root) := loads_load hroot
  have hother : Loads other root (load other root) := loads_load hroot
  exact (hloads.of_alike h).unique hother

end Program

/-! ### The application -/

namespace Extraction

/-- The application depends on the files by the program alone. -/
theorem fromFiles_of_alike {files other : SourceFiles} (h : files.Alike other)
    (settings : Settings) {root : Path} (hroot : root.Proper) :
    (fromFiles settings files root : Attempt Application) = fromFiles settings other root := by
  unfold fromFiles
  rw [Program.load_of_alike h hroot]

/-- A root file that is given as a text is as good as one that is stored. The
application of the text at `root`, with all other files as they are, is that of
the files in which the text is stored at `root`, in this or in any other
spelling of the path; and where one of the two fails, the other fails for the
same reason. Other files may import the root file, in whatever spelling. -/
theorem fromSource_eq_fromFiles (settings : Settings) (files : SourceFiles)
    (root spelling source : String)
    (hspelling : (Path.ofText spelling).clean = (Path.ofText root).clean) :
    (fromSource settings files (Path.ofText root) source : Attempt Application) =
      fromFiles settings (files.insert (Path.ofText spelling) (.text source))
        (Path.ofText root) := by
  have halike : (files.overlay (Path.ofText root) (.text source)).Alike
      (files.insert (Path.ofText spelling) (.text source)) :=
    files.overlay_alike_insert hspelling (.text source)
  exact fromFiles_of_alike halike settings (Path.proper_ofText root)

/-- A root file, and a module that imports it back on a way through another
directory. -/
def labelled : SourceFiles where
  entries :=
    [ (⟨true, ["app.ts"]⟩, .text "export const app = 1;"),
      (⟨true, ["models.ts"]⟩,
        .text "import { Label } from \"./desk/../app\"; export interface Tag { label: Label }")]

/-- What is to be read in place of the root file. -/
def labelSource : String :=
  "import { Tag } from \"./models\"; export type Label = string; " ++
    "export const app = createApp<\x7b models: \x7b Tag: Tag \x7d \x7d>();"

/-- The names of the models, and the paths and kinds of their properties. -/
def modelsOutline (answer : Attempt Application) :
    Option (List (Option String × List (String × Kind))) :=
  answer.toOption.map fun app => app.models.map fun model =>
    (model.typeName, model.properties.map fun property => (property.propertyPath, property.kind))

/-- The module finds `Label`, which only the text has. -/
theorem fromSource_eq_fromFiles_labelled :
    (Path.ofText "/app.ts").clean = (Path.ofText "/desk/../app.ts").clean ∧
    modelsOutline (fromSource {} labelled (Path.ofText "/desk/../app.ts") labelSource) =
      some [(some "Tag", [("Tag.label", .string)])] ∧
    (fromSource {} labelled (Path.ofText "/desk/../app.ts") labelSource : Attempt Application) =
      fromFiles {} (labelled.insert (Path.ofText "/app.ts") (.text labelSource))
        (Path.ofText "/desk/../app.ts") := by
  have hspelling : (Path.ofText "/app.ts").clean = (Path.ofText "/desk/../app.ts").clean := by
    decide
  refine ⟨hspelling, by decide +kernel, ?_⟩
  exact fromSource_eq_fromFiles {} labelled "/desk/../app.ts" "/app.ts" labelSource hspelling

end Extraction

end AppMetadata
