import AppMetadata.Proofs.Program.Growth
import AppMetadata.Proofs.Program.Visibility
import AppMetadata.Proofs.TypeScript.Answers

/-!
# `AppMetadata.Proofs.Program.Loaded`: what holds of every program that is loaded

Loading adds modules and links their specifiers (`Program.Progress`). So a
module of a loaded program has what the statements of its file gave it
(`Program.Read`), and the tables that statements make fit together.

* `read_of_load`: the modules of a loaded program.
* `renamedListed_of_load`: a name that is exported under another name is
  listed under it.
* `named_of_load`, `enumPure_of_load`: what a loaded program declares has a
  name, and its enums have members of an enum and no others.
-/

set_option autoImplicit false

namespace AppMetadata

/-! ### Modules -/

namespace Module

/-- A module in which a local name that is exported under another name is
listed under that name. -/
def RenamedListed (module : Module) : Prop :=
  ∀ name localName, module.localAliases.lookup name = some localName →
    ∃ item ∈ module.exports, item.name = name

variable {module : Module}

/-- More exports, and the same names. -/
theorem RenamedListed.mono {more : Module} (h : module.RenamedListed)
    (haliases : more.localAliases = module.localAliases)
    (hexports : module.exports ⊆ more.exports) : more.RenamedListed := by
  intro name localName halias
  obtain ⟨item, hitem, hname⟩ := h name localName (haliases ▸ halias)
  exact ⟨item, hexports hitem, hname⟩

/-- One export more keeps what is listed. -/
theorem RenamedListed.addExport (h : module.RenamedListed) (item : Export) :
    (module.addExport item).RenamedListed :=
  h.mono rfl (List.subset_append_left _ _)

/-- An item of a clause is listed in any case. -/
theorem RenamedListed.enterSpecifier (h : module.RenamedListed) (source : Option String)
    (item : ExportSpecifier) : (module.enterSpecifier source item).RenamedListed := by
  unfold Module.enterSpecifier
  split
  · exact RenamedListed.addExport (h.mono rfl fun _ => id) _
  · split
    · exact h.addExport _
    · intro name localName halias
      by_cases hname : name = item.exported
      · exact ⟨_, List.mem_append_right _ (List.mem_singleton_self _), hname.symm⟩
      · have hput := Table.lookup_put_of_ne hname item.localName module.localAliases
        obtain ⟨listed, hlisted, hlistedName⟩ := h name localName (hput.symm.trans halias)
        exact ⟨listed, List.mem_append_left _ hlisted, hlistedName⟩

/-- Every statement keeps the names that are exported under another name
listed. -/
theorem RenamedListed.enter (h : module.RenamedListed) (statement : Statement) :
    (module.enter statement).RenamedListed := by
  cases statement with
  | imports bindings => exact h.mono rfl fun _ => id
  | declare declaration => exact h.mono rfl fun _ => id
  | exportDeclaration declaration location =>
    exact RenamedListed.addExport (h.mono rfl fun _ => id) _
  | exportFunction name location => exact h.addExport _
  | exportVariables declarators => exact h.mono rfl (List.subset_append_left _ _)
  | exportOther source location => exact h.addExport _
  | exportClause specifiers source =>
    exact List.foldlRecOn specifiers _ h fun module h item _ => h.enterSpecifier source item
  | exportAll specifier => exact h.mono rfl fun _ => id
  | exportNamespace name specifier typeOnly => exact h.mono rfl fun _ => id
  | exportDefault location => exact h.addExport _
  | other => exact h

/-- So a whole module has them listed. -/
theorem renamedListed_ofStatements (path : Path) (statements : List Statement) :
    (ofStatements path statements).RenamedListed :=
  List.foldlRecOn statements _ (fun _ _ halias => nomatch halias)
    fun _ h statement _ => RenamedListed.enter h statement

/-- Merging keeps the name, and adds members to interfaces alone. -/
theorem written_withInterfaces {first : Declaration} (h : first.Written)
    (forms : List DeclarationForm) :
    ({ first with form := first.form.withInterfaces forms } : Declaration).Written where
  named := h.named
  enumPure members hmembers := by
    refine h.enumPure members ?_
    replace hmembers : first.form.withInterfaces forms = .enum members := hmembers
    unfold DeclarationForm.withInterfaces at hmembers
    split at hmembers
    · cases hmembers
    · exact hmembers

/-- The declarations of a module are written if those in its statements are:
merging interfaces only puts members together. -/
theorem written_ofStatements (path : Path) {statements : List Statement}
    (h : ∀ statement ∈ statements, statement.Written) :
    ∀ declaration ∈ (ofStatements path statements).declarations.values, declaration.Written := by
  intro declaration hdeclaration
  rw [declarations_ofStatements] at hdeclaration
  obtain ⟨first, hfirst, more, rfl⟩ := exists_first_of_mem_entered hdeclaration
  obtain ⟨statement, hstatement, hdeclared⟩ := List.mem_filterMap.mp hfirst
  exact written_withInterfaces (h statement hstatement first hdeclared) more

end Module

/-! ### Loading -/

namespace Program

/-- A program each of whose modules has what the statements of a file gave
it. -/
def Read (program : Program) (files : SourceFiles) : Prop :=
  ∀ scope ∈ program.modules, ∃ path id source statements, files.read path = .ok source ∧
    TypeScript.statements? path id source = some statements ∧
    scope.toModule = Module.ofStatements path statements

variable {files : SourceFiles} {program : Program}

/-- A loaded program has what the statements of its files gave it. -/
theorem read_of_load {root : Path} (h : (load files root : Attempt Program) = .ok program) :
    program.Read files := by
  obtain ⟨followed, hprogress⟩ := progress_of_load h
  intro scope hscope
  obtain ⟨id, hid, rfl⟩ := Array.mem_iff_getElem.mp hscope
  have hcontent := contentOf?_of_module? (Array.getElem?_eq_getElem hid)
  exact ⟨_, id, readModule_eq_ok.mp (hprogress.read hcontent)⟩

/-- What holds of a module that is read holds of all modules of a program. -/
theorem renamedListed_of_load {root : Path}
    (h : (load files root : Attempt Program) = .ok program) : program.RenamedListed := by
  intro scope hscope
  obtain ⟨path, -, -, statements, -, -, hmodule⟩ := read_of_load h scope hscope
  have hlisted := Module.renamedListed_ofStatements path statements
  rw [← hmodule] at hlisted
  exact hlisted

/-- Every declaration of a loaded program was written as the parser answers it. -/
theorem written_of_load {root : Path} (h : (load files root : Attempt Program) = .ok program)
    {declaration : Declaration} (hdeclared : program.Declares declaration) :
    declaration.Written := by
  obtain ⟨scope, hscope, hentry⟩ := hdeclared
  obtain ⟨path, id, source, statements, -, hstatements, hmodule⟩ := read_of_load h scope hscope
  have hwritten := Module.written_ofStatements path (TypeScript.statements?_written hstatements)
  rw [← hmodule] at hwritten
  exact hwritten declaration hentry

/-- No name that a loaded program declares is empty. -/
theorem named_of_load {root : Path} (h : (load files root : Attempt Program) = .ok program) :
    program.Named :=
  fun _ hdeclared => (written_of_load h hdeclared).named

/-- In particular its enums have members of enums only. -/
theorem enumPure_of_load {root : Path} (h : (load files root : Attempt Program) = .ok program)
    {declaration : Declaration} (hdeclared : program.Declares declaration) :
    declaration.EnumPure :=
  (written_of_load h hdeclared).enumPure

end Program

end AppMetadata
