import AppMetadata.Program.Loading
import AppMetadata.Proofs.Expansion.Inversion

/-!
# `AppMetadata.Proofs.Program.Growth`: what loading keeps

Loading does two things to the modules that it has: it adds the module of a
file that it meets for the first time, and it links a specifier to a module.
What a program has at a position is looked at in three ways, as the content
of a module (`contentOf?`), its path (`pathOf?`) and its links (`linkOf?`),
and each way has one equation for `push` and one for `link`.

* `follow_eq_ok`: all that following a specifier can do.
* `Progress`: the invariant of loading, with the specifiers that were
  followed so far as a parameter.
* `Progress.follow`, `Progress.followEach`: one specifier, and all of one
  module.
-/

set_option autoImplicit false

namespace AppMetadata

/-! ### The path of a module -/

namespace Module

/-- An item of an export clause changes the tables of a module, never its path. -/
theorem path_enterSpecifier (source : Option String) (module : Module) (item : ExportSpecifier) :
    (module.enterSpecifier source item).path = module.path := by
  unfold enterSpecifier
  split
  · rfl
  · split <;> rfl

/-- Neither does any statement. -/
theorem path_enter (module : Module) (statement : Statement) :
    (module.enter statement).path = module.path := by
  cases statement with
  | exportClause specifiers source =>
    exact List.foldlRecOn specifiers (motive := fun more => more.path = module.path) _ rfl
      fun more h item _ => (path_enterSpecifier source more item).trans h
  | imports | declare | exportDeclaration | exportFunction | exportVariables | exportOther
  | exportAll | exportNamespace | exportDefault | other => rfl

/-- So the module of a file has the path that the file was read at. -/
theorem path_ofStatements (path : Path) (statements : List Statement) :
    (ofStatements path statements).path = path :=
  List.foldlRecOn statements (motive := fun module => module.path = path) _ rfl
    fun module h statement _ => (path_enter module statement).trans h

end Module

namespace Program

variable {files : SourceFiles} {program more : Program} {id target : ModuleId} {path : Path}
  {module : Module} {specifier : String}

/-! ### Modules by position -/

/-- The module at a position without its links. -/
def contentOf? (program : Program) (id : ModuleId) : Option Module :=
  (program.module? id).map (·.toModule)

/-- The path of the module at a position. -/
def pathOf? (program : Program) (id : ModuleId) : Option Path :=
  (program.contentOf? id).map (·.path)

/-- The position of the module that a specifier is linked to. -/
def linkOf? (program : Program) (id : ModuleId) (specifier : String) : Option ModuleId :=
  (program.module? id).bind (·.links.lookup specifier)

/-- The positions of a program are those below its size. -/
theorem contentOf?_isSome : (program.contentOf? id).isSome ↔ id < program.modules.size := by
  simp [contentOf?, module?]

/-- A position with a content is one of them. -/
theorem lt_size_of_contentOf? (h : program.contentOf? id = some module) :
    id < program.modules.size :=
  contentOf?_isSome.mp (Option.isSome_of_eq_some h)

/-- A path at a position is that of the module there. -/
theorem pathOf?_eq_some :
    program.pathOf? id = some path ↔
      ∃ module, program.contentOf? id = some module ∧ module.path = path :=
  Option.map_eq_some_iff

/-- Exactly the positions of a program have paths. -/
theorem pathOf?_isSome : (program.pathOf? id).isSome ↔ id < program.modules.size := by
  simp only [pathOf?, Option.isSome_map, contentOf?_isSome]

/-- A position with a path is one of the program. -/
theorem lt_size_of_pathOf? (h : program.pathOf? id = some path) : id < program.modules.size :=
  pathOf?_isSome.mp (Option.isSome_of_eq_some h)

/-! ### Adding and linking -/

/-- A module that is added gets the first free position; the others keep their
contents. -/
theorem contentOf?_push (program : Program) (module : Module) (id : ModuleId) :
    (program.push module).contentOf? id =
      if id = program.modules.size then some module else program.contentOf? id := by
  simp only [contentOf?, module?, push, Array.getElem?_push]
  split <;> rfl

/-- A module that is added has no links yet, and adds none to the others. -/
theorem linkOf?_push (program : Program) (module : Module) (id : ModuleId) (specifier : String) :
    (program.push module).linkOf? id specifier = program.linkOf? id specifier := by
  by_cases hid : id = program.modules.size
  · subst hid
    simp [linkOf?, module?, push]
  · simp [linkOf?, module?, push, Array.getElem?_push, hid]

/-- A link is kept beside the content of a module, which stays. -/
theorem contentOf?_link (program : Program) (source target : ModuleId) (specifier : String)
    (id : ModuleId) :
    (program.link source specifier target).contentOf? id = program.contentOf? id := by
  simp only [contentOf?, module?, link, Array.getElem?_modify]
  split
  · cases program.modules[id]? <;> rfl
  · rfl

/-- So all paths stay. -/
theorem pathOf?_link (program : Program) (source target : ModuleId) (specifier : String) :
    (program.link source specifier target).pathOf? = program.pathOf? := by
  funext id
  simp only [pathOf?, contentOf?_link]

/-- Linking adds no module. -/
theorem size_link (program : Program) (source target : ModuleId) (specifier : String) :
    (program.link source specifier target).modules.size = program.modules.size := by
  simp [link]

/-- A link is set for one specifier of one module. It takes the place of an
older one, and all other links stay. -/
theorem linkOf?_link {source : ModuleId} (hsource : source < program.modules.size)
    (specifier other : String) (target id : ModuleId) :
    (program.link source specifier target).linkOf? id other =
      if id = source ∧ other = specifier then some target else program.linkOf? id other := by
  by_cases hid : id = source
  · subst hid
    have hmodule : (program.link id specifier target).module? id =
        (program.module? id).map fun scope =>
          { scope with links := scope.links.put specifier target } := by
      simp [module?, link, Array.getElem?_modify]
    obtain ⟨scope, hscope⟩ : ∃ scope, program.module? id = some scope :=
      ⟨_, Array.getElem?_eq_getElem hsource⟩
    rw [linkOf?, linkOf?, hmodule, hscope]
    by_cases hother : other = specifier
    · subst hother
      simp [Table.lookup_put_self]
    · simp [hother, Table.lookup_put_of_ne hother]
  · have hmodule : (program.link source specifier target).module? id = program.module? id := by
      have hne : source ≠ id := fun heq => hid heq.symm
      simp [module?, link, Array.getElem?_modify, hne]
    rw [if_neg fun hboth => hid hboth.1, linkOf?, linkOf?, hmodule]

/-! ### Modules by path -/

/-- A position that is found for a path has this path. -/
theorem idOfPath?_eq_some (h : program.idOfPath? path = some id) :
    program.pathOf? id = some path := by
  obtain ⟨hid, hpath, -⟩ := Array.findIdx?_eq_some_iff_getElem.mp h
  simp only [pathOf?, contentOf?, module?, Array.getElem?_eq_getElem hid, Option.map_some]
  exact congrArg some (eq_of_beq hpath)

/-- If none is found then no position has it. -/
theorem idOfPath?_eq_none (h : program.idOfPath? path = none) : program.pathOf? id ≠ some path := by
  intro hpath
  have hid := lt_size_of_pathOf? hpath
  have hnot := Array.findIdx?_eq_none_iff.mp h _ (Array.getElem_mem hid)
  simp only [pathOf?, contentOf?, module?, Array.getElem?_eq_getElem hid, Option.map_some,
    Option.some.injEq] at hpath
  simp [hpath] at hnot

/-! ### Reading and following -/

/-- A file becomes a module exactly if it can be read and its text is
well-formed. The module is that of its statements. -/
theorem readModule_eq_ok :
    (readModule files id path : Attempt Module) = .ok module ↔
      ∃ source statements, files.read path = .ok source ∧
        TypeScript.statements? path id source = some statements ∧
        module = Module.ofStatements path statements := by
  unfold readModule
  split
  · simp [*]
  · next source hsource =>
    split
    · simp [*]
    · next statements hstatements =>
      simp only [Attempt.bind_eq_ok, Attempt.pure_eq_ok, hsource, hstatements, Except.ok.injEq,
        Option.some.injEq, exists_and_left, exists_eq_left']
      constructor
      · rintro ⟨_, -, h⟩
        exact h
      · exact fun h => ⟨(), rfl, h⟩

/-- Following a specifier that stands for no file does nothing; otherwise it
links the module of the file, which is added if it is not there yet. -/
theorem follow_eq_ok :
    (follow files id path program specifier : Attempt Program) = .ok more ↔
      (files.resolve? specifier path = none ∧ more = program) ∨
      (∃ found known, files.resolve? specifier path = some found ∧
        program.idOfPath? found = some known ∧ more = program.link id specifier known) ∨
      ∃ found module, files.resolve? specifier path = some found ∧
        program.idOfPath? found = none ∧
        (readModule files program.modules.size found : Attempt Module) = .ok module ∧
        more = (program.push module).link id specifier program.modules.size := by
  unfold follow
  cases hrelative : SourceFiles.isRelative specifier with
  | false =>
    -- A package is left alone, and stands for no file.
    have hnone : files.resolve? specifier path = none := by simp [SourceFiles.resolve?, hrelative]
    simp [hnone]
  | true =>
    cases hfound : files.resolve? specifier path with
    | none =>
      simp only [Bool.not_true, Bool.false_eq_true, if_false, Attempt.bind_eq_ok,
        Attempt.pure_eq_ok, reduceCtorEq, false_and, exists_false, or_false, true_and]
      constructor
      · rintro ⟨_, -, h⟩
        exact h
      · exact fun h => ⟨(), rfl, h⟩
    | some found =>
      cases hknown : program.idOfPath? found with
      | none =>
        simp [hknown]
      | some known =>
        simp [hknown]

/-! ### The invariant -/

/-- What holds while the file at `root` and those that it mentions are loaded.
`followed` says which specifiers of which modules were followed. -/
structure Progress (files : SourceFiles) (root : Path) (followed : ModuleId → String → Prop)
    (program : Program) : Prop where
  root : program.pathOf? rootId = some root
  /-- A module is what its file says. -/
  read : ∀ {id : ModuleId} {module : Module}, program.contentOf? id = some module →
    (readModule files id module.path : Attempt Module) = .ok module
  distinct : ∀ {i j : ModuleId} {path : Path}, program.pathOf? i = some path →
    program.pathOf? j = some path → i = j
  within : ∀ {id : ModuleId} {specifier : String}, followed id specifier →
    id < program.modules.size
  /-- A followed specifier is linked to the module of its file, if it stands
  for one. -/
  links : ∀ {id : ModuleId} {path : Path} {specifier : String}, program.pathOf? id = some path →
    followed id specifier →
      (program.linkOf? id specifier).bind program.pathOf? = files.resolve? specifier path
  /-- Nothing else is linked, and all links lead to modules. -/
  bounded : ∀ {id target : ModuleId} {specifier : String},
    program.linkOf? id specifier = some target →
      followed id specifier ∧ target < program.modules.size

/-- Each module but the first is linked from an earlier one. -/
def Reached (program : Program) : Prop :=
  ∀ id, 0 < id → id < program.modules.size →
    ∃ earlier < id, ∃ specifier, program.linkOf? earlier specifier = some id

/-- The modules of a program are there in another one as well. -/
def Extends (more program : Program) : Prop :=
  ∀ id module, program.contentOf? id = some module → more.contentOf? id = some module

/-- The specifiers that were followed and one more. -/
def also (followed : ModuleId → String → Prop) (id : ModuleId) (specifier : String) :
    ModuleId → String → Prop :=
  fun i s => followed i s ∨ i = id ∧ s = specifier

variable {root found : Path} {followed : ModuleId → String → Prop}

/-- A module that was read has the path it was read at. -/
theorem path_readModule (h : (readModule files id path : Attempt Module) = .ok module) :
    module.path = path := by
  obtain ⟨_, statements, -, -, rfl⟩ := readModule_eq_ok.mp h
  exact Module.path_ofStatements path statements

/-- The paths after a module at `path` was added. -/
theorem pathOf?_push (h : module.path = path) (id : ModuleId) :
    (program.push module).pathOf? id =
      if id = program.modules.size then some path else program.pathOf? id := by
  simp only [pathOf?, contentOf?_push]
  split
  · exact congrArg some h
  · rfl

/-- Adding takes one position. -/
theorem size_push (program : Program) (module : Module) :
    (program.push module).modules.size = program.modules.size + 1 :=
  Array.size_push ..

namespace Progress

/-- Adding the module of a file that is not there yet keeps the invariant: its
path is new, and none of its specifiers counts as followed. -/
theorem push (h : Progress files root followed program) (hnew : program.idOfPath? path = none)
    (hmodule : (readModule files program.modules.size path : Attempt Module) = .ok module) :
    Progress files root followed (program.push module) := by
  have hpath := path_readModule hmodule
  constructor
  case root =>
    rw [pathOf?_push hpath, if_neg (Nat.ne_of_lt (lt_size_of_pathOf? h.root)), h.root]
  case read =>
    intro id other hcontent
    rw [contentOf?_push] at hcontent
    split at hcontent
    · next hid =>
      obtain rfl := Option.some.inj hcontent
      rw [hid, hpath, hmodule]
    · exact h.read hcontent
  case distinct =>
    -- The new path is none of the old ones.
    intro i j other hi hj
    rw [pathOf?_push hpath] at hi hj
    split at hi <;> split at hj
    · next hi' hj' => exact hi'.trans hj'.symm
    · exact absurd (hj.trans hi.symm) (idOfPath?_eq_none hnew)
    · exact absurd (hi.trans hj.symm) (idOfPath?_eq_none hnew)
    · exact h.distinct hi hj
  case within =>
    intro id specifier hfollowed
    rw [size_push]
    exact Nat.lt_succ_of_lt (h.within hfollowed)
  case links =>
    intro id importer specifier himporter hfollowed
    have hid := h.within hfollowed
    rw [pathOf?_push hpath, if_neg (Nat.ne_of_lt hid)] at himporter
    rw [linkOf?_push, ← h.links himporter hfollowed]
    refine Option.bind_congr fun target htarget => ?_
    rw [pathOf?_push hpath, if_neg (Nat.ne_of_lt (h.bounded htarget).2)]
  case bounded =>
    intro id target specifier hlink
    rw [linkOf?_push] at hlink
    rw [size_push]
    exact ⟨(h.bounded hlink).1, Nat.lt_succ_of_lt (h.bounded hlink).2⟩

/-- Linking a specifier to the module of the file that it stands for keeps the
invariant, with this specifier among those that were followed. -/
theorem link (h : Progress files root followed program) (hpath : program.pathOf? id = some path)
    (hfound : files.resolve? specifier path = some found)
    (htarget : program.pathOf? target = some found) :
    Progress files root (also followed id specifier) (program.link id specifier target) := by
  have hid := lt_size_of_pathOf? hpath
  constructor
  case root => rw [pathOf?_link, h.root]
  case read =>
    intro other module hcontent
    rw [contentOf?_link] at hcontent
    exact h.read hcontent
  case distinct =>
    intro i j other hi hj
    rw [pathOf?_link] at hi hj
    exact h.distinct hi hj
  case within =>
    rintro other name (hfollowed | ⟨rfl, -⟩)
    · rw [size_link]
      exact h.within hfollowed
    · rw [size_link]
      exact hid
  case links =>
    intro other importer name himporter hfollowed
    rw [pathOf?_link] at himporter
    -- The new link is the one that was asked for, or an older one is found as before.
    rw [linkOf?_link hid, pathOf?_link]
    split
    · next hboth =>
      obtain ⟨rfl, rfl⟩ := hboth
      obtain rfl := Option.some.inj (himporter.symm.trans hpath)
      exact htarget.trans hfound.symm
    · next hboth => exact h.links himporter (hfollowed.resolve_right hboth)
  case bounded =>
    intro other target' name hlink
    rw [linkOf?_link hid] at hlink
    rw [size_link]
    split at hlink
    · next hboth =>
      obtain rfl := Option.some.inj hlink
      exact ⟨.inr hboth, lt_size_of_pathOf? htarget⟩
    · exact ⟨.inl (h.bounded hlink).1, (h.bounded hlink).2⟩

/-- A specifier that stands for no file counts as followed. -/
theorem skip (h : Progress files root followed program) (hpath : program.pathOf? id = some path)
    (hnone : files.resolve? specifier path = none) :
    Progress files root (also followed id specifier) program := by
  refine { h with within := ?_, links := ?_, bounded := ?_ }
  · rintro other name (hfollowed | ⟨rfl, -⟩)
    · exact h.within hfollowed
    · exact lt_size_of_pathOf? hpath
  · rintro other importer name himporter (hfollowed | ⟨rfl, rfl⟩)
    · exact h.links himporter hfollowed
    · obtain rfl := Option.some.inj (himporter.symm.trans hpath)
      cases hlink : program.linkOf? other name with
      | none => exact hnone.symm
      | some target =>
        rw [← hlink]
        exact h.links himporter (h.bounded hlink).1
  · intro other target name hlink
    exact ⟨.inl (h.bounded hlink).1, (h.bounded hlink).2⟩

/-- A specifier that was linked before is linked to the same module again. -/
theorem linkOf?_eq (h : Progress files root followed program)
    (hpath : program.pathOf? id = some path) (hfound : files.resolve? specifier path = some found)
    (htarget : program.pathOf? target = some found) {linked : ModuleId}
    (hlink : program.linkOf? id specifier = some linked) : linked = target := by
  have hlinked := h.links hpath (h.bounded hlink).1
  rw [hlink, hfound] at hlinked
  exact h.distinct hlinked htarget

/-- Following a specifier keeps the invariant in each of its three cases. -/
theorem follow (h : Progress files root followed program) (hpath : program.pathOf? id = some path)
    (hfollow : (follow files id path program specifier : Attempt Program) = .ok more) :
    Progress files root (also followed id specifier) more := by
  rcases follow_eq_ok.mp hfollow with ⟨hnone, rfl⟩ | ⟨found, known, hfound, hknown, rfl⟩ |
    ⟨found, module, hfound, hnew, hmodule, rfl⟩
  · exact h.skip hpath hnone
  · exact h.link hpath hfound (idOfPath?_eq_some hknown)
  · have hpushed (other : ModuleId) :
        (program.push module).pathOf? other =
          if other = program.modules.size then some found else program.pathOf? other :=
      pathOf?_push (path_readModule hmodule) other
    refine (h.push hnew hmodule).link ?_ hfound ?_
    · rw [hpushed, if_neg (Nat.ne_of_lt (lt_size_of_pathOf? hpath)), hpath]
    · rw [hpushed, if_pos rfl]

end Progress

/-- Nothing has to be added for a program to extend itself. -/
theorem Extends.rfl : Extends program program :=
  fun _ _ hcontent => hcontent

/-- Additions come one after the other. -/
theorem Extends.trans {between : Program} (h : Extends between program)
    (hmore : Extends more between) : Extends more program :=
  fun id module hcontent => hmore id module (h id module hcontent)

/-- A program with a module more extends the one before: the new module comes
last. -/
theorem extends_push (program : Program) (module : Module) :
    Extends (program.push module) program := by
  intro id other hcontent
  rw [contentOf?_push, if_neg (Nat.ne_of_lt (lt_size_of_contentOf? hcontent)), hcontent]

/-- Links do not change which modules there are. -/
theorem extends_link (program : Program) (id : ModuleId) (specifier : String)
    (target : ModuleId) : Extends (program.link id specifier target) program := by
  intro other module hcontent
  rw [contentOf?_link, hcontent]

/-- So following a specifier only adds modules. -/
theorem extends_follow
    (hfollow : (follow files id path program specifier : Attempt Program) = .ok more) :
    Extends more program := by
  rcases follow_eq_ok.mp hfollow with ⟨-, rfl⟩ | ⟨found, known, -, -, rfl⟩ |
    ⟨found, module, -, -, -, rfl⟩
  · exact .rfl
  · exact extends_link _ _ _ _
  · exact (extends_push program module).trans (extends_link _ _ _ _)

/-- Linking does not take away the link by which a module was reached. -/
theorem Reached.link (h : program.Reached) (hid : id < program.modules.size)
    (hlinked : ∀ linked, program.linkOf? id specifier = some linked → linked = target) :
    (program.link id specifier target).Reached := by
  intro reached hpos hsize
  rw [size_link] at hsize
  obtain ⟨earlier, hearlier, name, hlink⟩ := h reached hpos hsize
  refine ⟨earlier, hearlier, name, ?_⟩
  rw [linkOf?_link hid]
  split
  · next hboth =>
    obtain ⟨rfl, rfl⟩ := hboth
    rw [hlinked reached hlink]
  · exact hlink

/-- A module that following adds is reached by the link that is set with it. -/
theorem Reached.follow (h : program.Reached) (hprogress : Progress files root followed program)
    (hpath : program.pathOf? id = some path)
    (hfollow : (follow files id path program specifier : Attempt Program) = .ok more) :
    more.Reached := by
  have hid := lt_size_of_pathOf? hpath
  rcases follow_eq_ok.mp hfollow with ⟨-, rfl⟩ | ⟨found, known, hfound, hknown, rfl⟩ |
    ⟨found, module, hfound, hnew, -, rfl⟩
  · exact h
  · exact h.link hid fun linked hlink =>
      hprogress.linkOf?_eq hpath hfound (idOfPath?_eq_some hknown) hlink
  · intro reached hpos hsize
    rw [size_link, size_push] at hsize
    have hnone : program.linkOf? id specifier = none := by
      cases hlink : program.linkOf? id specifier with
      | none => rfl
      | some linked =>
        -- The link would lead to a module of the file that is met for the first time.
        have hlinked := hprogress.links hpath (hprogress.bounded hlink).1
        rw [hlink, hfound] at hlinked
        exact absurd hlinked (idOfPath?_eq_none hnew)
    have hid' : id < (program.push module).modules.size := by
      rw [size_push]
      exact Nat.lt_succ_of_lt hid
    by_cases hold : reached < program.modules.size
    · obtain ⟨earlier, hearlier, name, hlink⟩ := h reached hpos hold
      refine ⟨earlier, hearlier, name, ?_⟩
      rw [linkOf?_link hid', linkOf?_push, hlink]
      exact if_neg fun hboth => by simp [hboth.1, hboth.2, hnone] at hlink
    · obtain rfl : reached = program.modules.size := by omega
      refine ⟨id, hid, specifier, ?_⟩
      rw [linkOf?_link hid', if_pos ⟨rfl, rfl⟩]

/-- What holds of the root, and of every file that a specifier stands for in a
file of which it holds, holds of all modules. -/
theorem Progress.path_induction {P : Path → Prop} (h : Progress files root followed program)
    (hreached : program.Reached) (hroot : P root)
    (hstep : ∀ importer specifier path, P importer →
      files.resolve? specifier importer = some path → P path)
    (hpath : program.pathOf? id = some path) : P path := by
  induction id using Nat.strongRecOn generalizing path with
  | ind id ih =>
    by_cases hid : id = rootId
    · subst hid
      obtain rfl := Option.some.inj (h.root.symm.trans hpath)
      exact hroot
    · obtain ⟨earlier, hearlier, specifier, hlink⟩ :=
        hreached id (Nat.pos_of_ne_zero hid) (lt_size_of_pathOf? hpath)
      obtain ⟨importer, himporter⟩ := Option.isSome_iff_exists.mp
        (pathOf?_isSome.mpr (Nat.lt_trans hearlier (lt_size_of_pathOf? hpath)))
      have hfound := h.links himporter (h.bounded hlink).1
      rw [hlink, Option.bind_some, hpath] at hfound
      exact hstep importer specifier path (ih earlier hearlier himporter) hfound.symm

/-- All specifiers of one module. -/
theorem Progress.followEach {specifiers : List String} (h : Progress files root followed program)
    (hreached : program.Reached) (hpath : program.pathOf? id = some path)
    (hfollow : specifiers.foldlM (Program.follow files id path) program =
      (.ok more : Attempt Program)) :
    Progress files root (fun i s => followed i s ∨ i = id ∧ s ∈ specifiers) more ∧
      more.Reached ∧ Extends more program := by
  induction specifiers generalizing followed program with
  | nil =>
    cases Attempt.pure_eq_ok.mp hfollow
    simpa using ⟨h, hreached, Extends.rfl⟩
  | cons specifier specifiers ih =>
    rw [List.foldlM_cons] at hfollow
    obtain ⟨next, hnext, hfollow⟩ := Attempt.bind_eq_ok.mp hfollow
    obtain ⟨module, hmodule, hmodulePath⟩ := pathOf?_eq_some.mp hpath
    have hnextPath : next.pathOf? id = some path :=
      pathOf?_eq_some.mpr ⟨module, extends_follow hnext id module hmodule, hmodulePath⟩
    obtain ⟨hprogress, hmoreReached, hextends⟩ :=
      ih (h.follow hpath hnext) (hreached.follow h hpath hnext) hnextPath hfollow
    refine ⟨?_, hmoreReached, (extends_follow hnext).trans hextends⟩
    simpa only [also, or_assoc, ← and_or_left, ← List.mem_cons] using hprogress

/-! ### Loading -/

/-- The content of a module that is there. -/
theorem contentOf?_of_module? {scope : LinkedModule} (h : program.module? id = some scope) :
    program.contentOf? id = some scope.toModule := by
  simp [contentOf?, h]

/-- Its path. -/
theorem pathOf?_of_module? {scope : LinkedModule} (h : program.module? id = some scope) :
    program.pathOf? id = some scope.path :=
  pathOf?_eq_some.mpr ⟨_, contentOf?_of_module? h, rfl⟩

/-- Where a path is known, the module of that path is there. -/
theorem exists_module?_of_pathOf? (h : program.pathOf? id = some path) :
    ∃ scope, program.module? id = some scope ∧ scope.path = path := by
  obtain ⟨module, hmodule, hpath⟩ := pathOf?_eq_some.mp h
  obtain ⟨scope, hscope, rfl⟩ := Option.map_eq_some_iff.mp hmodule
  exact ⟨scope, hscope, hpath⟩

/-- The links of a program are those of its modules. -/
theorem linkOf?_of_module? {scope : LinkedModule} (h : program.module? id = some scope)
    (specifier : String) : program.linkOf? id specifier = scope.links.lookup specifier := by
  simp [linkOf?, h]

/-- The program of the root module alone. -/
theorem progress_start (hread : (readModule files rootId path : Attempt Module) = .ok module) :
    Progress files path (fun _ _ => False) (push ⟨#[]⟩ module) ∧
      (push ⟨#[]⟩ module).Reached := by
  have hcontent (id : ModuleId) (other : Module) :
      (push ⟨#[]⟩ module).contentOf? id = some other ↔ id = rootId ∧ module = other := by
    rw [contentOf?_push]
    simp [contentOf?, module?, rootId]
  have hpath (id : ModuleId) (other : Path) :
      (push ⟨#[]⟩ module).pathOf? id = some other ↔ id = rootId ∧ path = other := by
    rw [pathOf?_push (path_readModule hread)]
    simp [pathOf?, contentOf?, module?, rootId]
  -- Nothing was followed yet, so what is said of links and specifiers is empty.
  refine ⟨⟨(hpath _ _).mpr ⟨rfl, rfl⟩, ?_, ?_, False.elim, fun _ => False.elim, ?_⟩, ?_⟩
  · intro id other hother
    obtain ⟨rfl, rfl⟩ := (hcontent id other).mp hother
    rw [path_readModule hread, hread]
  · intro i j other hi hj
    exact ((hpath i other).mp hi).1.trans ((hpath j other).mp hj).1.symm
  · intro id target specifier hlink
    rw [linkOf?_push] at hlink
    simp [linkOf?, module?] at hlink
  · intro id hpos hid
    rw [size_push] at hid
    exact absurd (Nat.lt_one_iff.mp hid) (Nat.ne_of_gt hpos)

/-- A root that is no file is told before anything is read. -/
theorem load_of_missing (hfile : files.isFile root.clean = false) :
    (load files root : Attempt Program) = .error (.invalidApplication root.clean) := by
  simp [load, hfile]
  rfl

/-- Otherwise loading reads the root and then follows all modules. The last step
only notes the size of the program. -/
theorem load_of_isFile (hfile : files.isFile root.clean = true) :
    (load files root : Attempt Program) =
      ((readModule files rootId root.clean : Attempt Module) >>= fun module =>
        followAll files (2 * files.entries.length + 1) rootId (push ⟨#[]⟩ module)) := by
  simp only [load, hfile]
  exact congrArg (bind _) (funext fun module => bind_pure _)

/-- What loading keeps holds at its end, whatever was followed by then. -/
theorem Progress.followAll {steps : Nat} (h : Progress files root followed program)
    (hreached : program.Reached)
    (hfollow : (followAll files steps id program : Attempt Program) = .ok more) :
    ∃ followed', Progress files root followed' more := by
  induction steps generalizing id program followed with
  | zero =>
    cases Attempt.pure_eq_ok.mp hfollow
    exact ⟨followed, h⟩
  | succ steps ih =>
    unfold Program.followAll at hfollow
    split at hfollow
    · cases Attempt.pure_eq_ok.mp hfollow
      exact ⟨followed, h⟩
    · next scope hscope =>
      obtain ⟨next, hnext, hfollow⟩ := Attempt.bind_eq_ok.mp hfollow
      obtain ⟨hprogress, hnextReached, -⟩ :=
        h.followEach hreached (pathOf?_of_module? hscope) hnext
      exact ih hprogress hnextReached hfollow

/-- What loading keeps holds of every program that it answers. -/
theorem progress_of_load (h : (load files root : Attempt Program) = .ok program) :
    ∃ followed, Progress files root.clean followed program := by
  cases hfile : files.isFile root.clean with
  | false =>
    rw [load_of_missing hfile] at h
    cases h
  | true =>
    rw [load_of_isFile hfile] at h
    obtain ⟨module, hmodule, h⟩ := Attempt.bind_eq_ok.mp h
    obtain ⟨hprogress, hreached⟩ := progress_start hmodule
    exact hprogress.followAll hreached h

end Program

end AppMetadata
