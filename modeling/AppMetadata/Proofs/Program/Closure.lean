import AppMetadata.Proofs.Program.Growth
import AppMetadata.Proofs.SourceFiles
import Mathlib.Data.List.Nodup
import Mathlib.Data.List.Perm.Subperm

/-!
# `AppMetadata.Proofs.Program.Closure`: a program is the closure of its imports

Loading follows the specifiers of one module after the other, and the modules
that it adds on the way come after those. The loop without a bound on its
steps is the relation `Closes`; it ends because the modules have different
paths, and there are at most two paths to a file (`Progress.size_le`).

* `Advancing`: the invariant of the loop, and `Advancing.step` that one module
  keeps it.
* `load_closure`: loading gives the answer of the loop without a bound, and a
  program that it answers is the closure of its imports (`Closure`).
* `same_file_iff`: when a file is loaded twice.
-/

set_option autoImplicit false

namespace AppMetadata

namespace Module

/-- The ways in which a file mentions a specifier. -/
inductive Mentions (module : Module) : String → Prop
  | imported {name : String} {binding : ImportBinding} (hentry : (name, binding) ∈ module.imports) :
    Mentions module binding.specifier
  | reexported {name : String} {binding : ImportBinding}
    (hentry : (name, binding) ∈ module.reexports) : Mentions module binding.specifier
  | star {specifier : String} (hentry : specifier ∈ module.starExports) : Mentions module specifier
  | typeImport {specifier : String} (hentry : specifier ∈ module.typeImports) :
    Mentions module specifier

/-- The specifiers that are followed are those that the file mentions. -/
theorem mem_specifiers {module : Module} {specifier : String} :
    specifier ∈ module.specifiers ↔ module.Mentions specifier := by
  simp only [specifiers, List.mem_eraseDups, List.mem_mergeSort, List.mem_append, Table.values,
    List.map_map, List.mem_map, Prod.exists, Function.comp_apply]
  constructor
  · rintro (((⟨name, binding, hentry, rfl⟩ | ⟨name, binding, hentry, rfl⟩) | hentry) | hentry)
    · exact .imported hentry
    · exact .reexported hentry
    · exact .star hentry
    · exact .typeImport hentry
  · rintro (hentry | hentry | hentry | hentry)
    · exact .inl (.inl (.inl ⟨_, _, hentry, rfl⟩))
    · exact .inl (.inl (.inr ⟨_, _, hentry, rfl⟩))
    · exact .inl (.inr hentry)
    · exact .inr hentry

end Module

namespace Program

variable {files : SourceFiles} {program more : Program} {id : ModuleId} {root : Path}

/-! ### The loop without a bound -/

/-- What comes of following the specifiers of the modules from `id` on until
no module is left. -/
inductive Closes (files : SourceFiles) : ModuleId → Program → Attempt Program → Prop
  | last {id : ModuleId} {program : Program} (hend : program.module? id = none) :
    Closes files id program (.ok program)
  | next {id : ModuleId} {program more : Program} {scope : LinkedModule}
    {answer : Attempt Program} (hscope : program.module? id = some scope)
    (hfollow : scope.specifiers.foldlM (follow files id scope.path) program =
      (.ok more : Attempt Program))
    (hmore : Closes files (id + 1) more answer) : Closes files id program answer
  | failed {id : ModuleId} {program : Program} {scope : LinkedModule} {error : ExtractionError}
    (hscope : program.module? id = some scope)
    (hfollow : scope.specifiers.foldlM (follow files id scope.path) program =
      (.error error : Attempt Program)) : Closes files id program (.error error)

/-- What comes of loading a root file and then all that is mentioned. -/
inductive Loads (files : SourceFiles) (root : Path) : Attempt Program → Prop
  | missing (hfile : files.isFile root.clean = false) :
    Loads files root (.error (.invalidApplication root.clean))
  | unreadable {error : ExtractionError} (hfile : files.isFile root.clean = true)
    (hread : (readModule files rootId root.clean : Attempt Module) = .error error) :
    Loads files root (.error error)
  | closes {module : Module} {answer : Attempt Program} (hfile : files.isFile root.clean = true)
    (hread : (readModule files rootId root.clean : Attempt Module) = .ok module)
    (hcloses : Closes files rootId (push ⟨#[]⟩ module) answer) : Loads files root answer

/-- The loop has one outcome at most, as each of its steps has. -/
theorem Closes.unique {first second : Attempt Program} (h : Closes files id program first)
    (hsecond : Closes files id program second) : first = second := by
  -- A module is there or not, and following its specifiers has one answer.
  induction h with
  | last hend =>
    cases hsecond with
    | last => rfl
    | next hscope | failed hscope => simp [hend] at hscope
  | next hscope hfollow _ ih =>
    cases hsecond with
    | last hend => simp [hend] at hscope
    | next hscope' hfollow' hmore =>
      cases hscope.symm.trans hscope'
      cases hfollow.symm.trans hfollow'
      exact ih hmore
    | failed hscope' hfollow' =>
      cases hscope.symm.trans hscope'
      cases hfollow.symm.trans hfollow'
  | failed hscope hfollow =>
    cases hsecond with
    | last hend => simp [hend] at hscope
    | next hscope' hfollow' =>
      cases hscope.symm.trans hscope'
      cases hfollow.symm.trans hfollow'
    | failed hscope' hfollow' =>
      cases hscope.symm.trans hscope'
      cases hfollow.symm.trans hfollow'
      rfl

/-- So has loading. -/
theorem Loads.unique {first second : Attempt Program} (h : Loads files root first)
    (hsecond : Loads files root second) : first = second := by
  cases h with
  | missing hfile =>
    cases hsecond with
    | missing => rfl
    | unreadable hfile' | closes hfile' => simp [hfile] at hfile'
  | unreadable hfile hread =>
    cases hsecond with
    | missing hfile' => simp [hfile] at hfile'
    | unreadable _ hread' =>
      cases hread.symm.trans hread'
      rfl
    | closes _ hread' => cases hread.symm.trans hread'
  | closes hfile hread hcloses =>
    cases hsecond with
    | missing hfile' => simp [hfile] at hfile'
    | unreadable _ hread' => cases hread.symm.trans hread'
    | closes _ hread' hcloses' =>
      cases hread.symm.trans hread'
      exact hcloses.unique hcloses'

/-! ### The number of modules -/

/-- The two paths under which a program may know a file. -/
theorem mem_spellings {path : Path} (h : path.Spelled) (hfile : files.isFile path = true) :
    path ∈ files.entries.flatMap fun entry => [entry.1, ⟨false, "." :: entry.1.segments⟩] := by
  obtain ⟨content, hcontent⟩ := Option.isSome_iff_exists.mp hfile
  obtain ⟨before, after, hentries, -⟩ := List.lookup_eq_some_iff.mp hcontent
  obtain ⟨cleaned, hcleaned⟩ : ∃ cleaned, cleaned = path.clean := ⟨_, rfl⟩
  have hentry : (cleaned, content) ∈ files.entries := by simp [hentries, hcleaned]
  refine List.mem_flatMap.mpr ⟨_, hentry, ?_⟩
  rcases h with hclean | ⟨extension, hextension, rfl⟩
  · rw [hclean.clean_eq] at hcleaned
    simp [hcleaned]
  · rw [Path.clean_dotIndex hextension] at hcleaned
    simp [hcleaned, Path.dotIndex, Path.index]

/-- There are no more modules than paths to files. -/
theorem Progress.size_le {followed : ModuleId → String → Prop}
    (h : Progress files root followed program) (hreached : program.Reached)
    (hroot : root.Spelled) (hfile : files.isFile root = true) :
    program.modules.size ≤ 2 * files.entries.length := by
  have hpath (id : Nat) (hid : id < program.modules.size) :
      program.pathOf? id = some program.modules[id].path := by
    simp [pathOf?, contentOf?, module?, hid]
  have hnodup : (program.modules.toList.map (·.path)).Nodup := by
    refine List.nodup_iff_injective_getElem.mpr fun i j heq => ?_
    have hi : i.1 < program.modules.size := by simpa using i.2
    have hj : j.1 < program.modules.size := by simpa using j.2
    refine Fin.ext (h.distinct (hpath i hi) ?_)
    rw [hpath j hj]
    simpa using heq.symm
  have hsubset : program.modules.toList.map (·.path) ⊆
      files.entries.flatMap fun entry => [entry.1, ⟨false, "." :: entry.1.segments⟩] := by
    intro path hmem
    obtain ⟨scope, hscope, rfl⟩ := List.mem_map.mp hmem
    obtain ⟨id, hid, rfl⟩ := Array.mem_iff_getElem.mp (Array.mem_def.mpr hscope)
    -- Specifiers stand for files by such paths alone.
    have hlocated := h.path_induction (P := fun path => path.Spelled ∧ files.isFile path = true)
      hreached ⟨hroot, hfile⟩ (fun importer specifier path himporter hfound =>
        ⟨SourceFiles.resolve?_spelled himporter.1.proper hfound,
          (SourceFiles.resolve?_eq_some hfound).2.2⟩) (hpath id hid)
    exact mem_spellings hlocated.1 hlocated.2
  have hlength := (hnodup.subperm hsubset).length_le
  simpa [List.length_flatMap, Nat.mul_comm] using hlength

/-! ### The loop -/

/-- The specifiers of the modules before `id`. -/
def followedBefore (program : Program) (id i : ModuleId) (specifier : String) : Prop :=
  i < id ∧ ∃ module, program.contentOf? i = some module ∧ specifier ∈ module.specifiers

/-- What holds when all modules before `id` have their specifiers followed. -/
structure Advancing (files : SourceFiles) (root : Path) (id : ModuleId) (program : Program) :
    Prop where
  progress : Progress files root (program.followedBefore id) program
  reached : program.Reached
  le_size : id ≤ program.modules.size

/-- One module after its specifiers were followed. -/
theorem followedBefore_succ {scope : LinkedModule} (hextends : Extends more program)
    (hscope : program.module? id = some scope) (i : ModuleId) (specifier : String) :
    more.followedBefore (id + 1) i specifier ↔
      program.followedBefore id i specifier ∨ i = id ∧ specifier ∈ scope.specifiers := by
  have hcontent := contentOf?_of_module? hscope
  constructor
  · rintro ⟨hi, module, hmodule, hspecifier⟩
    rcases Nat.lt_or_eq_of_le (Nat.le_of_lt_succ hi) with hi | rfl
    · -- The module was there before, with the same content.
      obtain ⟨old, hold⟩ := Option.isSome_iff_exists.mp
        (contentOf?_isSome.mpr (Nat.lt_trans hi (lt_size_of_contentOf? hcontent)))
      obtain rfl := Option.some.inj (hmodule.symm.trans (hextends i old hold))
      exact .inl ⟨hi, module, hold, hspecifier⟩
    · obtain rfl := Option.some.inj (hmodule.symm.trans (hextends i _ hcontent))
      exact .inr ⟨rfl, hspecifier⟩
  · rintro (⟨hi, module, hmodule, hspecifier⟩ | ⟨rfl, hspecifier⟩)
    · exact ⟨Nat.lt_succ_of_lt hi, module, hextends i module hmodule, hspecifier⟩
    · exact ⟨Nat.lt_succ_self i, _, hextends i _ hcontent, hspecifier⟩

/-- Following the specifiers of one module keeps the invariant, with the next
module in its turn. -/
theorem Advancing.step {scope : LinkedModule} (h : Advancing files root id program)
    (hscope : program.module? id = some scope)
    (hfollow : scope.specifiers.foldlM (follow files id scope.path) program =
      (.ok more : Attempt Program)) : Advancing files root (id + 1) more := by
  obtain ⟨hprogress, hreached, hextends⟩ :=
    h.progress.followEach h.reached (pathOf?_of_module? hscope) hfollow
  have hfollowed : more.followedBefore (id + 1) =
      fun i s => program.followedBefore id i s ∨ i = id ∧ s ∈ scope.specifiers := by
    funext i s
    exact propext (followedBefore_succ hextends hscope i s)
  exact ⟨hfollowed ▸ hprogress, hreached,
    lt_size_of_contentOf? (hextends id _ (contentOf?_of_module? hscope))⟩

/-- The loop keeps the invariant up to its end. -/
theorem Closes.advancing {answer : Attempt Program} (h : Closes files id program answer)
    (hstart : Advancing files root id program) {last : Program} (hlast : answer = .ok last) :
    Advancing files root last.modules.size last := by
  induction h with
  | @last id program hend =>
    obtain rfl := Except.ok.inj hlast
    have hsize : program.modules.size ≤ id := by simpa [module?] using hend
    exact Nat.le_antisymm hstart.le_size hsize ▸ hstart
  | next hscope hfollow _ ih => exact ih (hstart.step hscope hfollow) hlast
  | failed => cases hlast

/-- With a step for every module that there can be, the bound on the steps is
never met. -/
theorem followAll_closes {steps : Nat} (h : Advancing files root id program)
    (hroot : root.Spelled) (hfile : files.isFile root = true)
    (hsteps : 2 * files.entries.length < steps + id) :
    Closes files id program (followAll files steps id program) := by
  induction steps generalizing id program with
  | zero =>
    have hsize := h.progress.size_le h.reached hroot hfile
    exact absurd (Nat.le_trans h.le_size hsize) (by omega)
  | succ steps ih =>
    unfold followAll
    split
    · next hend => exact .last hend
    · next scope hscope =>
      cases hfollow : (scope.specifiers.foldlM (follow files id scope.path) program :
        Attempt Program) with
      | error error => exact .failed hscope hfollow
      | ok more => exact .next hscope hfollow (ih (h.step hscope hfollow) (by omega))

/-! ### Loading -/

/-- The invariant holds when only the root is there. -/
theorem advancing_start {module : Module}
    (hread : (readModule files rootId root : Attempt Module) = .ok module) :
    Advancing files root rootId (push ⟨#[]⟩ module) := by
  obtain ⟨hprogress, hreached⟩ := progress_start hread
  have hnone : (push ⟨#[]⟩ module).followedBefore rootId = fun _ _ => False := by
    funext i specifier
    exact eq_false fun hfollowed => Nat.not_lt_zero i hfollowed.1
  exact ⟨hnone ▸ hprogress, hreached, Nat.zero_le _⟩

/-- Loading with its bound is loading without one. -/
theorem loads_load (hroot : root.Proper) :
    Loads files root (load files root : Attempt Program) := by
  cases hfile : files.isFile root.clean with
  | false =>
    rw [load_of_missing hfile]
    exact .missing hfile
  | true =>
    rw [load_of_isFile hfile]
    cases hread : (readModule files rootId root.clean : Attempt Module) with
    | error error => exact .unreadable hfile hread
    | ok module =>
      exact .closes hfile hread (followAll_closes (advancing_start hread)
        (.inl (Path.cleaned_clean hroot)) hfile (Nat.lt_succ_self _))

/-- A program that was loaded has all specifiers of its modules followed. -/
theorem Loads.advancing {program : Program} (h : Loads files root (.ok program)) :
    Advancing files root.clean program.modules.size program := by
  cases h with
  | closes hfile hread hcloses =>
    exact hcloses.advancing (advancing_start hread) rfl

/-- The same for the function that loads. -/
theorem advancing_of_load (hroot : root.Proper)
    (h : (load files root : Attempt Program) = .ok program) :
    Advancing files root.clean program.modules.size program := by
  have hloads : Loads files root (load files root) := loads_load hroot
  rw [h] at hloads
  exact hloads.advancing

/-- A program that is closed under the imports of its files, and holds none
but what the file at `root` leads to. -/
structure Closure (files : SourceFiles) (root : Path) (program : Program) : Prop where
  root : ∃ scope, program.module? rootId = some scope ∧ scope.path = root
  /-- A module is what its file says, as the module at its position. -/
  read : ∀ id scope, program.module? id = some scope →
    ∃ source statements, files.read scope.path = .ok source ∧
      TypeScript.statements? scope.path id source = some statements ∧
      scope.toModule = Module.ofStatements scope.path statements
  distinct : ∀ i j first second, program.module? i = some first →
    program.module? j = some second → first.path = second.path → i = j
  linked_iff : ∀ id scope specifier, program.module? id = some scope →
    ((scope.links.lookup specifier).isSome ↔ SourceFiles.isRelative specifier = true ∧
      scope.Mentions specifier ∧ (files.resolve? specifier scope.path).isSome)
  /-- A link leads to the module of the file that the specifier stands for. -/
  links : ∀ id scope specifier target, program.module? id = some scope →
    scope.links.lookup specifier = some target →
      ∃ linked, program.module? target = some linked ∧
        files.resolve? specifier scope.path = some linked.path
  reached : ∀ id scope, program.module? id = some scope → id ≠ rootId →
    ∃ earlier importer specifier, earlier < id ∧ program.module? earlier = some importer ∧
      importer.links.lookup specifier = some id

/-- In the end the specifiers that were followed are those that a module
mentions. -/
theorem followedBefore_size {scope : LinkedModule} (hscope : program.module? id = some scope)
    (specifier : String) :
    program.followedBefore program.modules.size id specifier ↔ scope.Mentions specifier := by
  have hcontent := contentOf?_of_module? hscope
  rw [← Module.mem_specifiers]
  constructor
  · rintro ⟨-, module, hmodule, hspecifier⟩
    obtain rfl := Option.some.inj (hmodule.symm.trans hcontent)
    exact hspecifier
  · exact fun hspecifier => ⟨lt_size_of_contentOf? hcontent, _, hcontent, hspecifier⟩

/-- A link of a module was mentioned in it, and leads to the module of the file
that its specifier stands for. -/
theorem Advancing.link (h : Advancing files root program.modules.size program)
    {scope : LinkedModule} (hscope : program.module? id = some scope) {specifier : String}
    {target : ModuleId} (hsome : scope.links.lookup specifier = some target) :
    scope.Mentions specifier ∧
      ∃ linked, program.module? target = some linked ∧
        files.resolve? specifier scope.path = some linked.path := by
  rw [← linkOf?_of_module? hscope] at hsome
  obtain ⟨hmentioned, hsize⟩ := h.progress.bounded hsome
  have hresolved := h.progress.links (pathOf?_of_module? hscope) hmentioned
  rw [hsome, Option.bind_some] at hresolved
  obtain ⟨content, hcontent⟩ := Option.isSome_iff_exists.mp (contentOf?_isSome.mpr hsize)
  have hpath : program.pathOf? target = some content.path :=
    pathOf?_eq_some.mpr ⟨content, hcontent, rfl⟩
  obtain ⟨linked, hlinked, heq⟩ := exists_module?_of_pathOf? hpath
  refine ⟨(followedBefore_size hscope specifier).mp hmentioned, linked, hlinked, ?_⟩
  rw [← hresolved, hpath, heq]

/-- Where all specifiers were followed, the invariant says that the program is
closed. -/
theorem Advancing.closure (h : Advancing files root program.modules.size program) :
    Closure files root program where
  root := exists_module?_of_pathOf? h.progress.root
  read id scope hscope := readModule_eq_ok.mp (h.progress.read (contentOf?_of_module? hscope))
  distinct i j first second hfirst hsecond heq :=
    h.progress.distinct (pathOf?_of_module? hfirst) (heq ▸ pathOf?_of_module? hsecond)
  linked_iff id scope specifier hscope := by
    constructor
    · intro hsome
      obtain ⟨target, htarget⟩ := Option.isSome_iff_exists.mp hsome
      obtain ⟨hmentioned, linked, -, hresolved⟩ := h.link hscope htarget
      exact ⟨(SourceFiles.resolve?_eq_some hresolved).1, hmentioned, by simp [hresolved]⟩
    · rintro ⟨-, hmentioned, hfound⟩
      have hresolved := h.progress.links (pathOf?_of_module? hscope)
        ((followedBefore_size hscope specifier).mpr hmentioned)
      rw [← hresolved, linkOf?_of_module? hscope] at hfound
      exact Option.isSome_of_isSome_bind hfound
  links id scope specifier target hscope hsome := (h.link hscope hsome).2
  reached id scope hscope hid := by
    obtain ⟨earlier, hearlier, specifier, hsome⟩ :=
      h.reached id (Nat.pos_of_ne_zero hid) (lt_size_of_contentOf? (contentOf?_of_module? hscope))
    obtain ⟨importer, himporter, hlookup⟩ := Option.bind_eq_some_iff.mp hsome
    exact ⟨earlier, importer, specifier, hearlier, himporter, hlookup⟩

/-- Loading gives the answer of the loop without a bound, which therefore
ends, and the program that it answers is the closure of its imports. -/
theorem load_closure (files : SourceFiles) (root : String) :
    (∀ answer, Loads files (Path.ofText root) answer ↔
        (load files (Path.ofText root) : Attempt Program) = answer) ∧
      ∀ program, (load files (Path.ofText root) : Attempt Program) = .ok program →
        Closure files (Path.ofText root).clean program := by
  have hroot := Path.proper_ofText root
  have hloads : Loads files (Path.ofText root) (load files (Path.ofText root)) := loads_load hroot
  exact ⟨fun answer => ⟨hloads.unique, fun h => h ▸ hloads⟩,
    fun program h => (advancing_of_load hroot h).closure⟩

/-- Two files that export all of one another. -/
def mirrors : SourceFiles where
  entries :=
    [ (⟨true, ["left.ts"]⟩, .text "export * from \"./right\""),
      (⟨true, ["right.ts"]⟩, .text "export * from \"./left\"")]

/-- The loop goes round once, and then there is no module left. -/
theorem mirrors_loads :
    ∃ program, (load mirrors (Path.ofText "/left.ts") : Attempt Program) = .ok program ∧
      program.modules.toList.map (·.links) = [[("./right", 1)], [("./left", 0)]] := by
  have hlinks : (load mirrors (Path.ofText "/left.ts") : Attempt Program).toOption.map
      (fun program => program.modules.toList.map (·.links)) =
        some [[("./right", 1)], [("./left", 0)]] := by
    decide +kernel
  exact Attempt.exists_of_toOption_map hlinks

/-- Two modules that mention each other are the closure of either. -/
theorem load_closure_mirrors :
    ∃ program, (load mirrors (Path.ofText "/left.ts") : Attempt Program) = .ok program ∧
      program.modules.toList.map (·.links) = [[("./right", 1)], [("./left", 0)]] ∧
      Closure mirrors (Path.ofText "/left.ts").clean program := by
  obtain ⟨program, hload, hlinks⟩ := mirrors_loads
  exact ⟨program, hload, hlinks, (load_closure mirrors "/left.ts").2 program hload⟩

/-! ### Two modules of one file -/

/-- Two modules have the same file if they are the same, or if one of them is
the index file of the directory in which relative paths start and the other
one is this file with a dot in front of its path. Below the root of the file
system no file has two modules. -/
theorem same_file_iff (files : SourceFiles) (root : String) {program : Program}
    (h : (load files (Path.ofText root) : Attempt Program) = .ok program) :
    (∀ i j first second, program.module? i = some first → program.module? j = some second →
      (first.path.clean = second.path.clean ↔
        i = j ∨ ∃ extension ∈ SourceFiles.extensions,
          first.path = Path.dotIndex extension ∧ second.path = Path.index extension ∨
            first.path = Path.index extension ∧ second.path = Path.dotIndex extension)) ∧
    ((Path.ofText root).clean.BelowRoot →
      ∀ i j first second, program.module? i = some first → program.module? j = some second →
        first.path.clean = second.path.clean → i = j) := by
  have hroot := Path.proper_ofText root
  have hcleaned := Path.cleaned_clean hroot
  obtain ⟨hprogress, hreached, -⟩ := advancing_of_load hroot h
  -- What is known of every path that a program can have: it is cleaned, or has a dot in
  -- front.
  have hspelled {id : ModuleId} {scope : LinkedModule} (hscope : program.module? id = some scope) :
      scope.path.Spelled :=
    hprogress.path_induction hreached (.inl hcleaned)
      (fun _ _ _ himporter hfound => SourceFiles.resolve?_spelled himporter.proper hfound)
      (pathOf?_of_module? hscope)
  have hdistinct {i j : ModuleId} {first second : LinkedModule}
      (hfirst : program.module? i = some first) (hsecond : program.module? j = some second) :
      first.path = second.path ↔ i = j := by
    constructor
    · intro heq
      exact hprogress.distinct (pathOf?_of_module? hfirst) (heq ▸ pathOf?_of_module? hsecond)
    · rintro rfl
      cases hfirst.symm.trans hsecond
      rfl
  refine ⟨fun i j first second hfirst hsecond => ?_,
    fun hbelow i j first second hfirst hsecond heq => ?_⟩
  · rw [(hspelled hfirst).clean_eq_iff (hspelled hsecond), hdistinct hfirst hsecond]
  · -- Below the root the second of these is excluded, so the paths are cleaned and
    -- equal.
    have hall {id : ModuleId} {scope : LinkedModule} (hscope : program.module? id = some scope) :
        scope.path.Cleaned :=
      (hprogress.path_induction (P := fun path => path.Cleaned ∧ path.BelowRoot) hreached
        ⟨hcleaned, hbelow⟩ (fun _ _ _ himporter hfound =>
          have hfoundBelow := SourceFiles.resolve?_belowRoot himporter.1.proper himporter.2 hfound
          have hfoundSpelled := SourceFiles.resolve?_spelled himporter.1.proper hfound
          ⟨hfoundSpelled.cleaned hfoundBelow.1, hfoundBelow⟩)
        (pathOf?_of_module? hscope)).1
    rw [(hall hfirst).clean_eq, (hall hsecond).clean_eq] at heq
    exact (hdistinct hfirst hsecond).mp heq

/-- The mirrors are two files, so none of them has two modules. -/
theorem same_file_iff_mirrors :
    ∃ program, (load mirrors (Path.ofText "/left.ts") : Attempt Program) = .ok program ∧
      ∀ i j first second, program.module? i = some first → program.module? j = some second →
        first.path.clean = second.path.clean → i = j := by
  obtain ⟨program, hload, -⟩ := mirrors_loads
  exact ⟨program, hload, (same_file_iff mirrors "/left.ts" hload).2 ⟨by decide, by decide⟩⟩

/-- An index file, from which another file imports one name by the directory and
one by the name of the file. -/
def indexed : SourceFiles where
  entries :=
    [ (⟨false, ["app.ts"]⟩, .text
        "import \x7b A \x7d from \"./\";\nimport \x7b B \x7d from \"./index\";\n"),
      (⟨false, ["index.ts"]⟩, .text
        "export interface A \x7b x: number \x7d\nexport interface B \x7b y: number \x7d\n")]

/-- The specifiers are followed in the order in which they are sorted. -/
theorem indexed_app : ∃ app : Module,
    (readModule indexed 0 ⟨false, ["app.ts"]⟩ : Attempt Module) = .ok app ∧
      app.specifiers = ["./", "./index"] := by
  have hmentioned : (readModule indexed 0 ⟨false, ["app.ts"]⟩ : Attempt Module).toOption.map
      (fun app => app.imports.values.map (·.specifier) ++ app.reexports.values.map (·.specifier) ++
        app.starExports ++ app.typeImports) = some ["./", "./index"] := by
    decide +kernel
  obtain ⟨app, hread, happ⟩ := Attempt.exists_of_toOption_map hmentioned
  refine ⟨app, hread, ?_⟩
  have hsorted : List.Pairwise (fun a b : String => decide (a ≤ b) = true) ["./", "./index"] := by
    simp only [List.pairwise_cons]
    decide +kernel
  rw [Module.specifiers, happ, List.mergeSort_of_pairwise hsorted]
  decide +kernel

/-- The index file is loaded under both of its paths: with a dot in front for
the directory, and without one for its name. -/
theorem index_loads_twice :
    ∃ program first second, (load indexed (Path.ofText "app.ts") : Attempt Program) = .ok program ∧
      program.module? 1 = some first ∧ program.module? 2 = some second ∧
      first.path.clean = second.path.clean := by
  obtain ⟨app, happ, hspecifiers⟩ := indexed_app
  obtain ⟨first, hfirst, hfirstNone⟩ : ∃ first : Module,
      (readModule indexed 1 (Path.dotIndex "ts") : Attempt Module) = .ok first ∧
        first.specifiers = [] := Attempt.exists_of_toOption_map (by decide +kernel)
  obtain ⟨second, hsecond, hsecondNone⟩ : ∃ second : Module,
      (readModule indexed 2 (Path.index "ts") : Attempt Module) = .ok second ∧
        second.specifiers = [] := Attempt.exists_of_toOption_map (by decide +kernel)
  -- The program after each of the two specifiers. The first one leads to a path with a
  -- dot in front, under which no module is known, and so does the second one without
  -- the dot.
  have happPath := path_readModule happ
  have hfirstPath := path_readModule hfirst
  have hsecondPath := path_readModule hsecond
  let start := push ⟨#[]⟩ app
  let middle := (start.push first).link 0 "./" 1
  let finish := (middle.push second).link 0 "./index" 2
  have hfollowFirst : (follow indexed 0 app.path start "./" : Attempt Program) = .ok middle := by
    refine follow_eq_ok.mpr (.inr (.inr ⟨Path.dotIndex "ts", first, ?_, ?_, hfirst, rfl⟩))
    · rw [happPath]
      decide +kernel
    · simp only [start, idOfPath?, push, List.push_toArray, List.nil_append,
        List.findIdx?_toArray, List.findIdx?_singleton, happPath]
      decide
  have hfollowSecond :
      (follow indexed 0 app.path middle "./index" : Attempt Program) = .ok finish := by
    refine follow_eq_ok.mpr (.inr (.inr ⟨Path.index "ts", second, ?_, ?_, hsecond, rfl⟩))
    · rw [happPath]
      decide +kernel
    · simp [middle, start, idOfPath?, link, push, happPath, hfirstPath]
      decide
  have hfollows : (app.specifiers.foldlM (follow indexed 0 app.path) start : Attempt Program) =
      .ok finish := by
    rw [hspecifiers, List.foldlM_cons, hfollowFirst]
    show (follow indexed 0 app.path middle "./index" >>= pure : Attempt Program) = _
    rw [hfollowSecond]
    rfl
  have hfirstScope : finish.module? 1 = some { first with } := rfl
  have hsecondScope : finish.module? 2 = some { second with } := rfl
  -- The modules that were added mention nothing, so the loop ends after them.
  have hcloses : Closes indexed 0 start (.ok finish) := by
    refine .next rfl hfollows (.next hfirstScope ?_ (.next hsecondScope ?_ (.last rfl)))
    · show (first.specifiers.foldlM _ finish : Attempt Program) = _
      rw [hfirstNone]
      rfl
    · show (second.specifiers.foldlM _ finish : Attempt Program) = _
      rw [hsecondNone]
      rfl
  have hloads : Loads indexed (Path.ofText "app.ts") (.ok finish) :=
    .closes (by decide) happ hcloses
  refine ⟨finish, _, _, (loads_load (Path.proper_ofText "app.ts")).unique hloads, hfirstScope,
    hsecondScope, ?_⟩
  show first.path.clean = second.path.clean
  rw [hfirstPath, hsecondPath]
  decide

end Program

end AppMetadata
