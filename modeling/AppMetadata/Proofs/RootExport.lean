import AppMetadata.Extraction
import AppMetadata.Proofs.Expansion.Inversion
import AppMetadata.Proofs.Program.Loaded
import Mathlib.Data.List.Flatten
import Mathlib.Data.List.Perm.Basic

/-!
# `AppMetadata.Proofs.RootExport`: the one value that a root file exports

The root file of an application exports one value, the application, and any
number of types. What counts as a value is told by its statements
(`Statement.valueNames`). A module lists what its statements export, but not
all of it: the names in a pattern and the namespace of another file are
exported and not listed (`Statement.unlistedNames`). The root is accepted by
the list, so values that are not listed pass unseen.

* `Module.exports_ofStatements`: the list of a module, statement by statement.
* `Statement.valueNames_perm`: a value is listed or not listed.
* `applicationRoot_eq_ok_iff`, `applicationRoot_error`: what is accepted, and
  the one error for all that is not.
* `root_exports_single_value`: a loaded root, by the statements of its file.
* `unlisted_values_pass`: a root with three values that is accepted.
-/

set_option autoImplicit false

namespace AppMetadata

/-! ### What a statement exports -/

namespace Statement

/-- The items that a statement adds to the exports of its module. -/
def exports : Statement → List Export
  | .exportDeclaration declaration location =>
    [⟨declaration.name, declaration.form.exportKind, location, declaration.form.typeOnly⟩]
  | .exportFunction name location => [⟨name, .function, location, false⟩]
  | .exportVariables declarators => declarators.filterMap Module.exportOfDeclarator?
  | .exportOther source location => [⟨source, .other, location, false⟩]
  | .exportClause specifiers _ =>
    specifiers.map fun item => ⟨item.exported, .specifier, item.location, item.typeOnly⟩
  | .exportDefault location => [⟨"default", .default, location, false⟩]
  | _ => []

/-- The names of the values that a statement exports, every name of a pattern
by itself. Types do not count. -/
def valueNames : Statement → List String
  | .exportDeclaration declaration _ =>
    if declaration.form.typeOnly then [] else [declaration.name]
  | .exportFunction name _ => [name]
  | .exportVariables declarators =>
    declarators.flatMap fun declarator => TypeScript.namesOf declarator.binding
  | .exportOther source _ => [source]
  | .exportClause specifiers _ => (specifiers.filter (!·.typeOnly)).map (·.exported)
  | .exportNamespace name _ typeOnly => if typeOnly then [] else [name]
  | .exportDefault _ => ["default"]
  | _ => []

/-- The names among them that the module does not list. -/
def unlistedNames : Statement → List String
  | .exportVariables declarators =>
    declarators.flatMap fun declarator =>
      match declarator.binding with
      | .name _ => []
      | .pattern names => names
  | .exportNamespace name _ typeOnly => if typeOnly then [] else [name]
  | _ => []

/-- The values that a statement adds to the exports of its module. -/
def listedValues (statement : Statement) : List Export :=
  statement.exports.filter (!·.typeOnly)

/-- Exported variables: a plain name is listed, and the names of a pattern are
not. -/
theorem namesOf_perm (declarators : List Declarator) :
    (Statement.exportVariables declarators).valueNames.Perm
      ((Statement.exportVariables declarators).listedValues.map (·.name) ++
        (Statement.exportVariables declarators).unlistedNames) := by
  simp only [valueNames, listedValues, exports, unlistedNames]
  induction declarators with
  | nil => rfl
  | cons declarator declarators ih =>
    obtain ⟨binding, call, location⟩ := declarator
    cases binding with
    | name name => simpa [Module.exportOfDeclarator?, TypeScript.namesOf] using ih
    | pattern names =>
      simp only [List.flatMap_cons, TypeScript.namesOf, Module.exportOfDeclarator?,
        List.filterMap_cons]
      -- The names of the pattern move behind all that is listed.
      exact (ih.append_left names).trans (List.perm_append_comm_assoc ..)

/-- A value that is exported is listed or it is not. -/
theorem valueNames_perm (statement : Statement) :
    statement.valueNames.Perm (statement.listedValues.map (·.name) ++ statement.unlistedNames) := by
  cases statement with
  | exportVariables declarators => exact namesOf_perm declarators
  | exportDeclaration declaration location =>
    cases htype : declaration.form.typeOnly <;>
      simp [valueNames, listedValues, exports, unlistedNames, htype]
  | exportClause specifiers source =>
    simp [valueNames, listedValues, exports, unlistedNames, List.filter_map, Function.comp_def]
  | _ => simp [valueNames, listedValues, exports, unlistedNames]

end Statement

namespace Module

/-- An item of an export clause is listed under its exported name, whatever
else is kept of it. -/
theorem exports_enterSpecifier (source : Option String) (module : Module)
    (item : ExportSpecifier) :
    (enterSpecifier source module item).exports =
      module.exports ++ [⟨item.exported, .specifier, item.location, item.typeOnly⟩] := by
  unfold enterSpecifier addExport
  split
  · rfl
  · split <;> rfl

/-- A statement adds its items behind those that are listed already. -/
theorem exports_enter (module : Module) (statement : Statement) :
    (module.enter statement).exports = module.exports ++ statement.exports := by
  cases statement with
  | exportClause specifiers source =>
    show (specifiers.foldl (enterSpecifier source) module).exports = _
    induction specifiers generalizing module with
    | nil => simp [Statement.exports]
    | cons item specifiers ih =>
      rw [List.foldl_cons, ih, exports_enterSpecifier, List.append_assoc]
      rfl
  | exportDeclaration | exportFunction | exportVariables | exportOther | exportDefault => rfl
  | imports | declare | exportAll | exportNamespace | other => exact (List.append_nil _).symm

/-- So a module lists the items of its statements, in order. -/
theorem exports_ofStatements (path : Path) (statements : List Statement) :
    (ofStatements path statements).exports = statements.flatMap Statement.exports := by
  have hrun (module : Module) :
      (statements.foldl enter module).exports =
        module.exports ++ statements.flatMap Statement.exports := by
    induction statements generalizing module with
    | nil => simp
    | cons statement statements ih =>
      rw [List.foldl_cons, ih, exports_enter, List.append_assoc, List.flatMap_cons]
  exact hrun { path := path }

end Module

namespace Extraction

/-! ### What the list of a module decides -/

section Root

variable {module : Module} {factory : String}

/-- The first check: the value is a variable whose initial value is a call of
the factory. -/
theorem factoryCall_eq_ok_iff {item : Export} {call : InitialCall} :
    factoryCall item factory = .ok call ↔
      item.kind = .variable (some call) ∧ call.callee = factory := by
  unfold factoryCall
  split
  · next written hkind =>
    rw [hkind]
    split
    · next hcallee =>
      constructor
      · rintro ⟨⟩
        exact ⟨rfl, hcallee⟩
      · rintro ⟨⟨⟩, -⟩
        rfl
    · next hcallee =>
      refine ⟨nofun, ?_⟩
      rintro ⟨⟨⟩, h⟩
      exact absurd h hcallee
  · next hkind => simp [hkind]
  · next hother hnone =>
    refine ⟨nofun, fun h => absurd h.1 (hother call)⟩

/-- The second check: the call has one type argument, an object type. -/
theorem optionsOf_eq_ok_iff {call : InitialCall} {options : List Member} :
    optionsOf call factory = .ok options ↔
      ∃ type, call.typeArgs = [type] ∧ type.form = .object options := by
  unfold optionsOf
  split
  · next type htypes =>
    rw [htypes]
    split
    · next members hform => simp [hform]
    · next hform =>
      refine ⟨nofun, ?_⟩
      rintro ⟨other, ⟨⟩, h⟩
      exact absurd h (hform options)
  · next hother =>
    refine ⟨nofun, ?_⟩
    rintro ⟨type, htypes, -⟩
    exact absurd htypes (hother type)

/-- Before both of them: the module lists one value. -/
theorem singleExport_eq_ok_iff {item : Export} :
    singleExport module factory = .ok item ↔ module.exports.filter (!·.typeOnly) = [item] := by
  unfold singleExport
  split
  · next hnone => rw [hnone]; simp
  · next single hsingle => rw [hsingle]; simp
  · next hnone hmany => exact ⟨nofun, fun h => absurd h (hmany item)⟩

/-- The root is accepted if its module lists one value, a variable that is
given the value of a call of the factory, with one object type. -/
theorem applicationRoot_eq_ok_iff {name : String} {options : List Member} :
    applicationRoot module factory = .ok (name, options) ↔
      ∃ item call type, module.exports.filter (!·.typeOnly) = [item] ∧ item.name = name ∧
        item.kind = .variable (some call) ∧ call.callee = factory ∧
        call.typeArgs = [type] ∧ type.form = .object options := by
  unfold applicationRoot
  simp only [Attempt.bind_eq_ok, singleExport_eq_ok_iff, factoryCall_eq_ok_iff,
    optionsOf_eq_ok_iff, Attempt.pure_eq_ok]
  constructor
  · rintro ⟨item, hitem, call, ⟨hkind, hcallee⟩, found, ⟨type, htypes, hform⟩, heq⟩
    cases heq
    exact ⟨item, call, type, hitem, rfl, hkind, hcallee, htypes, hform⟩
  · rintro ⟨item, call, type, hitem, rfl, hkind, hcallee, htypes, hform⟩
    exact ⟨item, hitem, call, ⟨hkind, hcallee⟩, options, ⟨type, htypes, hform⟩, rfl⟩

/-- There is one error for all other roots. -/
theorem applicationRoot_error {error : ExtractionError}
    (h : applicationRoot module factory = .error error) :
    ∃ details, error = .rootShape details := by
  have hitem {error : ExtractionError} (h : singleExport module factory = .error error) :
      ∃ details, error = .rootShape details := by
    unfold singleExport at h
    split at h <;> cases h
    all_goals exact ⟨_, rfl⟩
  have hcall {item : Export} {error : ExtractionError}
      (h : factoryCall item factory = .error error) : ∃ details, error = .rootShape details := by
    unfold factoryCall at h
    split at h
    · split at h <;> cases h
      exact ⟨_, rfl⟩
    all_goals
      cases h
      exact ⟨_, rfl⟩
  have hoptions {call : InitialCall} {error : ExtractionError}
      (h : optionsOf call factory = .error error) : ∃ details, error = .rootShape details := by
    unfold optionsOf at h
    split at h
    · split at h <;> cases h
      exact ⟨_, rfl⟩
    · cases h
      exact ⟨_, rfl⟩
  -- The three checks come one after another, and the first that fails gives the error.
  unfold applicationRoot at h
  rcases Attempt.bind_eq_error.mp h with h | ⟨item, -, h⟩
  · exact hitem h
  · rcases Attempt.bind_eq_error.mp h with h | ⟨call, -, h⟩
    · exact hcall h
    · rcases Attempt.bind_eq_error.mp h with h | ⟨options, -, h⟩
      · exact hoptions h
      · cases h

end Root

/-! ### The statements of a root file -/

/-- Among the exported variables, `name` is given the value of a call of the
factory with the object type of `options` as its one type argument. -/
def DeclaresApplication (statements : List Statement) (factory name : String)
    (options : List Member) : Prop :=
  ∃ declarators declarator call type, Statement.exportVariables declarators ∈ statements ∧
    declarator ∈ declarators ∧ declarator.binding = .name name ∧ declarator.call = some call ∧
    call.callee = factory ∧ call.typeArgs = [type] ∧ type.form = .object options

section Statements

variable {path : Path} {statements : List Statement} {factory name : String}
  {options : List Member}

/-- The values that a module lists are those that its statements list. -/
theorem listedValues_ofStatements (path : Path) (statements : List Statement) :
    (Module.ofStatements path statements).exports.filter (!·.typeOnly) =
      statements.flatMap Statement.listedValues := by
  rw [Module.exports_ofStatements, List.filter_flatMap]
  rfl

/-- All values of a list of statements are listed or not listed. -/
theorem valueNames_perm (statements : List Statement) :
    (statements.flatMap Statement.valueNames).Perm
      ((statements.flatMap Statement.listedValues).map (·.name) ++
        statements.flatMap Statement.unlistedNames) := by
  rw [List.map_flatMap]
  exact (List.Perm.flatMap_left _ fun statement _ => statement.valueNames_perm).trans
    (List.flatMap_append_perm ..).symm

/-- Only a variable statement lists variables. -/
theorem mem_listedValues_iff {item : Export} {call : Option InitialCall}
    (hkind : item.kind = .variable call) :
    item ∈ statements.flatMap Statement.listedValues ↔
      ∃ declarators declarator, Statement.exportVariables declarators ∈ statements ∧
        declarator ∈ declarators ∧ Module.exportOfDeclarator? declarator = some item := by
  -- A declaration is never exported as a variable, and neither is any other statement
  -- but one.
  have hform (form : DeclarationForm) : form.exportKind ≠ .variable call := by
    cases form <;> exact nofun
  rw [List.mem_flatMap]
  constructor
  · rintro ⟨statement, hstatement, hitem⟩
    have hmem := (List.mem_filter.mp hitem).1
    cases statement with
    | exportVariables declarators =>
      obtain ⟨declarator, hdeclarator, hexport⟩ := List.mem_filterMap.mp hmem
      exact ⟨declarators, declarator, hstatement, hdeclarator, hexport⟩
    | exportDeclaration declaration location =>
      obtain rfl := List.mem_singleton.mp hmem
      exact absurd hkind (hform declaration.form)
    | exportClause specifiers source =>
      obtain ⟨specifier, -, rfl⟩ := List.mem_map.mp hmem
      exact nomatch hkind
    | exportFunction | exportOther | exportDefault =>
      obtain rfl := List.mem_singleton.mp hmem
      exact nomatch hkind
    | imports | declare | exportAll | exportNamespace | other => exact nomatch hmem
  · rintro ⟨declarators, declarator, hstatement, hdeclarator, hexport⟩
    refine ⟨_, hstatement, List.mem_filter.mpr ⟨?_, ?_⟩⟩
    · exact List.mem_filterMap.mpr ⟨declarator, hdeclarator, hexport⟩
    · unfold Module.exportOfDeclarator? at hexport
      split at hexport
      · cases hexport
        rfl
      · exact nomatch hexport

/-- A declarator is listed exactly if it binds a plain name. -/
theorem exportOfDeclarator?_eq_some {declarator : Declarator} {item : Export} :
    Module.exportOfDeclarator? declarator = some item ↔
      declarator.binding = .name item.name ∧
        item = ⟨item.name, .variable declarator.call, declarator.location, false⟩ := by
  unfold Module.exportOfDeclarator?
  split
  · next name hbinding =>
    rw [hbinding]
    constructor
    · rintro ⟨⟩
      exact ⟨rfl, rfl⟩
    · rintro ⟨⟨⟩, hitem⟩
      rw [hitem]
  · next names hbinding => simp [hbinding]

/-- The application is among the listed values. -/
theorem declaresApplication_iff :
    DeclaresApplication statements factory name options ↔
      ∃ item ∈ statements.flatMap Statement.listedValues, ∃ call type, item.name = name ∧
        item.kind = .variable (some call) ∧ call.callee = factory ∧ call.typeArgs = [type] ∧
        type.form = .object options := by
  constructor
  · rintro ⟨declarators, declarator, call, type, hstatement, hdeclarator, hbinding, hcall, hrest⟩
    have hitem : Module.exportOfDeclarator? declarator =
        some ⟨name, .variable (some call), declarator.location, false⟩ :=
      exportOfDeclarator?_eq_some.mpr ⟨hbinding, by rw [hcall]⟩
    exact ⟨_, (mem_listedValues_iff rfl).mpr ⟨_, _, hstatement, hdeclarator, hitem⟩, call, type,
      rfl, rfl, hrest⟩
  · rintro ⟨item, hitem, call, type, rfl, hkind, hrest⟩
    obtain ⟨declarators, declarator, hstatement, hdeclarator, hexport⟩ :=
      (mem_listedValues_iff hkind).mp hitem
    obtain ⟨hbinding, heq⟩ := exportOfDeclarator?_eq_some.mp hexport
    rw [heq] at hkind
    injection hkind with hcall
    exact ⟨_, _, call, type, hstatement, hdeclarator, hbinding, hcall, hrest⟩

/-- The root is accepted if its statements declare the application and list
no other value. -/
theorem applicationRoot_ofStatements :
    applicationRoot (Module.ofStatements path statements) factory = .ok (name, options) ↔
      (statements.flatMap Statement.valueNames).Perm
          (name :: statements.flatMap Statement.unlistedNames) ∧
        DeclaresApplication statements factory name options := by
  rw [applicationRoot_eq_ok_iff, declaresApplication_iff, listedValues_ofStatements]
  constructor
  · rintro ⟨item, call, type, hlisted, rfl, hrest⟩
    refine ⟨?_, item, by simp [hlisted], call, type, rfl, hrest⟩
    have hperm := valueNames_perm statements
    rwa [hlisted] at hperm
  · rintro ⟨hperm, item, hitem, call, type, hrest⟩
    have hnames : ((statements.flatMap Statement.listedValues).map (·.name)).Perm [name] :=
      (List.perm_append_right_iff _).mp ((valueNames_perm statements).symm.trans hperm)
    have hlength := hnames.length_eq
    rw [List.length_map] at hlength
    obtain ⟨single, hsingle⟩ := List.length_eq_one_iff.mp hlength
    rw [hsingle] at hitem
    obtain rfl := List.mem_singleton.mp hitem
    exact ⟨item, call, type, hsingle, hrest⟩

/-- If the application is the only value that is exported, then no value is
left out of the list. -/
theorem unlistedNames_eq_nil (hdeclares : DeclaresApplication statements factory name options)
    (hvalues : statements.flatMap Statement.valueNames = [name]) :
    statements.flatMap Statement.unlistedNames = [] := by
  obtain ⟨item, hitem, -⟩ := declaresApplication_iff.mp hdeclares
  have hlength := (valueNames_perm statements).length_eq
  have hlisted := List.length_pos_of_mem hitem
  rw [hvalues, List.length_append, List.length_map, List.length_singleton] at hlength
  exact List.eq_nil_of_length_eq_zero (by omega)

end Statements

/-! ### The root of a program -/

/-- The root module of a loaded program is made from the statements of the root
file. -/
theorem rootModule_of_load {files : SourceFiles} {root : Path} {program : Program}
    (h : (Program.load files root : Attempt Program) = .ok program) :
    ∃ source statements, files.read root.clean = .ok source ∧
      TypeScript.statements? root.clean Program.rootId source = some statements ∧
      rootModule program = Module.ofStatements root.clean statements := by
  obtain ⟨_, hprogress⟩ := Program.progress_of_load h
  obtain ⟨module, hcontent, hpath⟩ := Program.pathOf?_eq_some.mp hprogress.root
  obtain ⟨scope, hscope, rfl⟩ := Option.map_eq_some_iff.mp hcontent
  have hread := hprogress.read hcontent
  rw [hpath] at hread
  obtain ⟨source, statements, hsource, hstatements, hmodule⟩ := Program.readModule_eq_ok.mp hread
  refine ⟨source, statements, hsource, hstatements, ?_⟩
  unfold rootModule
  rw [hscope]
  exact hmodule

/-- A root that is not accepted ends the extraction with the one error, and
nothing of a group is noted. -/
theorem application_of_error {program : Program} {settings : Settings} {error : ExtractionError}
    (h : applicationRoot (rootModule program) settings.appFactory = .error error) :
    (application program settings : Attempt Application) = .error error ∧
      Recorded.result (application program settings) = (.error error, []) := by
  unfold application
  dsimp only
  rw [h]
  exact ⟨rfl, rfl⟩

/-- The root of a loaded program is accepted exactly if its statements declare
the application and export no other value that the module lists. A root that
exports the application and no other value is always accepted, and what is
accepted has no other value unless it is one that is not listed. All other
roots end the extraction with the error for a root, before any group. -/
theorem root_exports_single_value {files : SourceFiles} {root : Path} {program : Program}
    (hload : (Program.load files root : Attempt Program) = .ok program) (settings : Settings) :
    ∃ source statements, files.read root.clean = .ok source ∧
      TypeScript.statements? root.clean Program.rootId source = some statements ∧
      let values := statements.flatMap Statement.valueNames
      let unlisted := statements.flatMap Statement.unlistedNames
      let accepted := fun name options =>
        applicationRoot (rootModule program) settings.appFactory = .ok (name, options)
      let declares := DeclaresApplication statements settings.appFactory
      (∀ name options, accepted name options ↔
        values.Perm (name :: unlisted) ∧ declares name options) ∧
      (∀ name options, values = [name] ∧ declares name options ↔
        accepted name options ∧ unlisted = []) ∧
      ((∃ name options, accepted name options) ∨
        ∃ details, (application program settings : Attempt Application) =
            .error (.rootShape details) ∧
          Recorded.result (application program settings) = (.error (.rootShape details), [])) := by
  obtain ⟨source, statements, hsource, hstatements, hroot⟩ := rootModule_of_load hload
  refine ⟨source, statements, hsource, hstatements, ?_⟩
  intro values unlisted accepted declares
  -- The list of the module is that of its statements, which settles the first part; the
  -- other two are read off it.
  have haccepted (name : String) (options : List Member) :
      accepted name options ↔ values.Perm (name :: unlisted) ∧ declares name options := by
    show applicationRoot (rootModule program) settings.appFactory = .ok (name, options) ↔ _
    rw [hroot]
    exact applicationRoot_ofStatements
  refine ⟨haccepted, fun name options => ?_, ?_⟩
  · rw [haccepted]
    constructor
    · rintro ⟨hvalues, hdeclares⟩
      have hnone : unlisted = [] := unlistedNames_eq_nil hdeclares hvalues
      rw [hvalues, hnone]
      exact ⟨⟨.refl _, hdeclares⟩, rfl⟩
    · rintro ⟨⟨hvalues, hdeclares⟩, hnone⟩
      rw [hnone] at hvalues
      exact ⟨List.perm_singleton.mp hvalues, hdeclares⟩
  · cases hanswer : applicationRoot (rootModule program) settings.appFactory with
    | ok answer => exact .inl ⟨answer.1, answer.2, hanswer⟩
    | error error =>
      obtain ⟨details, rfl⟩ := applicationRoot_error hanswer
      exact .inr ⟨details, application_of_error hanswer⟩

/-- A root that exports the application beside a type. -/
def typed : SourceFiles where
  entries :=
    [(⟨true, ["app.ts"]⟩,
      .text ("export type Key = string;\n" ++
        "export const app = createApp<\x7b models: \x7b Count: number \x7d \x7d>();"))]

/-- The run that the witness is about: the file loads, and its root is
accepted. -/
theorem typed_loads :
    ∃ program options,
      (Program.load typed (Path.ofText "/app.ts") : Attempt Program) = .ok program ∧
        applicationRoot (rootModule program) "createApp" = .ok ("app", options) := by
  have hname : (Program.load typed (Path.ofText "/app.ts") : Attempt Program).toOption.map
      (fun program => (applicationRoot (rootModule program) "createApp").toOption.map (·.1)) =
        some (some "app") := by
    decide +kernel
  obtain ⟨program, hload, hname⟩ := Attempt.exists_of_toOption_map hname
  obtain ⟨⟨name, options⟩, hroot, rfl⟩ := Attempt.exists_of_toOption_map hname
  exact ⟨program, options, hload, hroot⟩

/-- The type is exported and does not count, so the application is the only
value. -/
theorem root_exports_single_value_typed :
    ∃ program options source statements,
      (Program.load typed (Path.ofText "/app.ts") : Attempt Program) = .ok program ∧
        applicationRoot (rootModule program) "createApp" = .ok ("app", options) ∧
        TypeScript.statements? (Path.ofText "/app.ts").clean Program.rootId source =
          some statements ∧
        (statements.flatMap Statement.valueNames).Perm
          ("app" :: statements.flatMap Statement.unlistedNames) ∧
        DeclaresApplication statements "createApp" "app" options := by
  obtain ⟨program, options, hload, hroot⟩ := typed_loads
  obtain ⟨source, statements, -, hstatements, haccepted, -, -⟩ :=
    root_exports_single_value hload {}
  exact ⟨program, options, source, statements, hload, hroot, hstatements,
    (haccepted "app" options).mp hroot⟩

/-- A root with a pattern, the namespace of another file, and the
application. -/
def crowded : String :=
  "export const \x7b debug \x7d = settings;\n" ++
    "export * as kit from \"kit\";\n" ++
    "export const app = createApp<\x7b models: \x7b Count: number \x7d \x7d>();\n"

/-- Three values are exported, and the application is extracted all the same:
two of them are not listed. -/
theorem unlisted_values_pass :
    let root := Path.ofText "/app.ts"
    (TypeScript.statements? root Program.rootId crowded).map
        (·.flatMap Statement.valueNames) = some ["debug", "kit", "app"] ∧
      (fromFiles {} ⟨[(root, .text crowded)]⟩ root : Attempt Application).toOption.map (·.name) =
        some "app" := by
  intro root
  exact ⟨by decide +kernel, by decide +kernel⟩

end Extraction

end AppMetadata
