import AppMetadata.Proofs.Program.Derivation
import Mathlib.Data.Option.Defs
import Mathlib.Logic.Relation

/-!
# `AppMetadata.Proofs.Program.Twins`: programs that differ in what they declare

Two programs whose modules import and export the same names, and declare
under each name two declarations that are related, resolve a name to two
declarations that are related, or both to a package or to nothing. This stays
true if one of them imports more names, for all lookups that do not lead to
those names (`Clear`).

* `answer_alike`: lookups with any number of hops.
* `resolve_alike`, `resolveImport_alike`: the names that are written in types.
-/

set_option autoImplicit false

namespace AppMetadata

variable {D : Declaration → Declaration → Prop} {hidden : LinkedModule → String → Prop}

/-- Answers that are declarations related by `D`, or are equal and no
declarations. -/
inductive Resolved.Alike (D : Declaration → Declaration → Prop) : Resolved → Resolved → Prop
  | declaration {declaration declaration' : Declaration} (h : D declaration declaration') :
    Alike D (.declaration declaration) (.declaration declaration')
  | external (specifier imported : String) :
    Alike D (.external specifier imported) (.external specifier imported)
  | missing : Alike D .missing .missing

/-- Every answer is like itself. -/
theorem Resolved.Alike.refl (answer : Resolved) : Alike Eq answer answer := by
  cases answer with
  | declaration declaration => exact .declaration rfl
  | external specifier imported => exact .external specifier imported
  | missing => exact .missing

/-- Modules with related declarations. They import the same names, but for the
hidden ones, under which none of them imports a namespace. -/
structure LinkedModule.Alike (D : Declaration → Declaration → Prop) (hidden : String → Prop)
    (scope scope' : LinkedModule) : Prop where
  declarations : ∀ name,
    Option.Rel D (scope.declarations.lookup name) (scope'.declarations.lookup name)
  imports : ∀ name, ¬hidden name → scope.imports.lookup name = scope'.imports.lookup name
  spaces : ∀ name specifier, scope.imports.lookup name = some ⟨specifier, .namespace⟩ ↔
    scope'.imports.lookup name = some ⟨specifier, .namespace⟩
  reexports : scope.reexports = scope'.reexports
  starExports : scope.starExports = scope'.starExports
  localAliases : scope.localAliases = scope'.localAliases
  links : scope.links = scope'.links

/-- A module is like itself if its declarations are. -/
theorem LinkedModule.Alike.refl {hidden : String → Prop} {scope : LinkedModule}
    (h : ∀ name declaration, scope.declarations.lookup name = some declaration →
      D declaration declaration) : scope.Alike D hidden scope := by
  refine ⟨fun name => ?_, fun _ _ => rfl, fun _ _ => .rfl, rfl, rfl, rfl, rfl⟩
  cases hlookup : scope.declarations.lookup name with
  | none => exact .none
  | some declaration => exact .some (h name declaration hlookup)

namespace Program

variable {program program' : Program} {scope scope' : LinkedModule}

/-- Programs whose modules are alike one by one. What is hidden is hidden in the
modules of the first one. -/
def Alike (D : Declaration → Declaration → Prop) (hidden : LinkedModule → String → Prop)
    (program program' : Program) : Prop :=
  ∀ id, Option.Rel (fun scope scope' => scope.Alike D (hidden scope) scope')
    (program.module? id) (program'.module? id)

/-- Whether a lookup may leave its answer to another one, directly or not. -/
def LeadsTo (program : Program) : Lookup → Lookup → Prop :=
  Relation.ReflTransGen fun lookup next => ∃ way, program.Defers way lookup next

/-- Whether a lookup never comes to a hidden name. -/
def Clear (program : Program) (hidden : LinkedModule → String → Prop) (lookup : Lookup) : Prop :=
  ∀ scope name, program.LeadsTo lookup (.written scope name) → ¬hidden scope name

/-- What a clear lookup defers to is clear. -/
theorem Clear.next {lookup next : Lookup} (h : program.Clear hidden lookup) {way : Lookup.Way}
    (hway : program.Defers way lookup next) : program.Clear hidden next :=
  fun scope name hleads => h scope name (hleads.head ⟨way, hway⟩)

/-- A lookup is clear if it does not start at a hidden name and all that it
defers to is clear. -/
theorem Clear.of_next {lookup : Lookup}
    (hnot : ∀ scope name, lookup = .written scope name → ¬hidden scope name)
    (hnext : ∀ way next, program.Defers way lookup next → program.Clear hidden next) :
    program.Clear hidden lookup := by
  intro scope name hleads
  rcases hleads.cases_head with heq | ⟨next, ⟨way, hway⟩, hrest⟩
  · exact hnot scope name heq
  · exact hnext way next hway scope name hrest

/-- A name that is declared where it is written leads to nothing else. -/
theorem Clear.of_declared {name : String} {declaration : Declaration}
    (hdeclared : scope.declarations.lookup name = some declaration) (hnot : ¬hidden scope name) :
    program.Clear hidden (.written scope name) := by
  refine .of_next ?_ ?_
  · rintro _ _ ⟨⟩
    exact hnot
  · rintro _ _ ⟨hundeclared, -, -⟩
    cases hdeclared.symm.trans hundeclared

/-! ### Lookups -/

/-- A specifier is linked to modules that are alike, or in both programs to
none. -/
theorem Alike.linked? (h : program.Alike D hidden program')
    (hscope : scope.Alike D (hidden scope) scope') (specifier : String) :
    Option.Rel (fun scope scope' => scope.Alike D (hidden scope) scope')
      (program.linked? scope specifier) (program'.linked? scope' specifier) := by
  unfold Program.linked?
  rw [← hscope.links]
  cases scope.links.lookup specifier with
  | none => exact .none
  | some id => exact h id

/-- Of answers that are alike one by one, the first ones that are found are
alike, since a missing name is missing on both sides. -/
theorem firstFound_alike {lookup lookup' : String → Resolved} {specifiers : List String}
    (h : ∀ specifier ∈ specifiers, (lookup specifier).Alike D (lookup' specifier)) :
    (firstFound lookup specifiers).Alike D (firstFound lookup' specifiers) := by
  induction specifiers with
  | nil => exact .missing
  | cons specifier specifiers ih =>
    obtain ⟨hfirst, hrest⟩ := List.forall_mem_cons.mp h
    unfold firstFound
    generalize lookup specifier = answer, lookup' specifier = answer' at hfirst
    cases hfirst with
    | declaration h => exact .declaration h
    | external specifier imported => exact .external specifier imported
    | missing => exact ih hrest

/-- Items are looked up in the modules that specifiers stand for. -/
theorem item_alike (h : program.Alike D hidden program') {hops : Nat}
    (hexported : ∀ {scope scope' : LinkedModule} (name : String),
      scope.Alike D (hidden scope) scope' → program.Clear hidden (.exported scope name) →
        (program.answer hops (.exported scope name)).Alike D
          (program'.answer hops (.exported scope' name)))
    (hscope : scope.Alike D (hidden scope) scope') {specifier name : String}
    (hclear : program.Clear hidden (.item scope specifier name)) :
    (program.answer hops (.item scope specifier name)).Alike D
      (program'.answer hops (.item scope' specifier name)) := by
  have hlinked := h.linked? hscope specifier
  rw [answer_item, answer_item]
  cases hlink : program.linked? scope specifier <;>
    cases hlink' : program'.linked? scope' specifier <;> rw [hlink, hlink'] at hlinked <;>
    cases hlinked
  · dsimp only
    split
    · exact .missing
    · exact .external specifier name
  · next htarget => exact hexported name htarget (hclear.next (.linked hlink))

/-- A binding leads to the same item. -/
theorem followBinding_alike {hops : Nat} {binding : ImportBinding}
    (hitem : ∀ item, binding.imported.item? = some item →
      (program.answer hops (.item scope binding.specifier item)).Alike D
        (program'.answer hops (.item scope' binding.specifier item))) :
    (program.followBinding (program.lookupExport hops) scope binding).Alike D
      (program'.followBinding (program'.lookupExport hops) scope' binding) := by
  rw [followBinding_eq, followBinding_eq]
  cases hbinding : binding.imported.item? with
  | none => exact .missing
  | some item => exact hitem item hbinding

/-- A name inside of a module, one hop after exports are known to be alike. -/
theorem written_alike (h : program.Alike D hidden program') {hops : Nat}
    (hexported : ∀ {scope scope' : LinkedModule} (name : String),
      scope.Alike D (hidden scope) scope' → program.Clear hidden (.exported scope name) →
        (program.answer hops (.exported scope name)).Alike D
          (program'.answer hops (.exported scope' name)))
    (hscope : scope.Alike D (hidden scope) scope') {name : String}
    (hclear : program.Clear hidden (.written scope name)) :
    (program.answer (hops + 1) (.written scope name)).Alike D
      (program'.answer (hops + 1) (.written scope' name)) := by
  have hdeclared := hscope.declarations name
  -- The name itself is not hidden, so it is imported by both or by none.
  have himports := hscope.imports name (hclear scope name .refl)
  rw [answer_written_succ, answer_written_succ, ← himports]
  cases hlookup : scope.declarations.lookup name <;>
    cases hlookup' : scope'.declarations.lookup name <;> rw [hlookup, hlookup'] at hdeclared <;>
    cases hdeclared
  · dsimp only
    cases hbinding : scope.imports.lookup name with
    | none => exact .missing
    | some binding =>
      exact followBinding_alike fun item hitem =>
        item_alike h hexported hscope (hclear.next (.imported hlookup hbinding hitem))
  · next hdeclared => exact .declaration hdeclared

/-- Names inside of modules and exports call one another, with one hop less
each time, so both are in one induction on the hops. -/
theorem lookups_alike (h : program.Alike D hidden program') (hops : Nat) :
    (∀ {scope scope' : LinkedModule} (name : String), scope.Alike D (hidden scope) scope' →
      program.Clear hidden (.written scope name) →
        (program.answer hops (.written scope name)).Alike D
          (program'.answer hops (.written scope' name))) ∧
    (∀ {scope scope' : LinkedModule} (name : String), scope.Alike D (hidden scope) scope' →
      program.Clear hidden (.exported scope name) →
        (program.answer hops (.exported scope name)).Alike D
          (program'.answer hops (.exported scope' name))) := by
  induction hops with
  | zero =>
    constructor
    · intro scope scope' name _ _
      simp only [answer, lookupLocal]
      exact .missing
    · intro scope scope' name _ _
      simp only [answer, lookupExport]
      exact .missing
  | succ hops ih =>
    obtain ⟨ihwritten, ihexported⟩ := ih
    refine ⟨fun name hscope hclear => written_alike h ihexported hscope hclear, ?_⟩
    intro scope scope' name hscope hclear
    rw [answer_exported_succ, answer_exported_succ, ← hscope.localAliases, ← hscope.reexports,
      ← hscope.starExports]
    cases halias : scope.localAliases.lookup name with
    | some localName => exact ihwritten localName hscope (hclear.next (.renamed halias))
    | none =>
      dsimp only
      cases hbinding : scope.reexports.lookup name with
      | some binding =>
        exact followBinding_alike fun item hitem =>
          item_alike h ihexported hscope (hclear.next (.reexported halias hbinding hitem))
      | none =>
        -- The stars are asked only if the name is missing in the module itself.
        have hown := ihwritten name hscope (hclear.next (.own halias hbinding))
        have hstars :
            (firstFound (fun specifier => program.answer hops (.item scope specifier name))
              scope.starExports).Alike D
            (firstFound (fun specifier => program'.answer hops (.item scope' specifier name))
              scope.starExports) :=
          firstFound_alike fun specifier hspecifier =>
            item_alike h ihexported hscope (hclear.next (.star halias hbinding hspecifier))
        dsimp only
        generalize program.answer hops (.written scope name) = answer,
          program'.answer hops (.written scope' name) = answer' at hown
        cases hown with
        | declaration h => exact .declaration h
        | external specifier imported => exact .external specifier imported
        | missing => exact hstars

/-- Lookups of one kind in modules that are alike. -/
inductive LookupAlike (D : Declaration → Declaration → Prop)
    (hidden : LinkedModule → String → Prop) : Lookup → Lookup → Prop
  | written {scope scope' : LinkedModule} (name : String)
    (hscope : scope.Alike D (hidden scope) scope') :
    LookupAlike D hidden (.written scope name) (.written scope' name)
  | item {scope scope' : LinkedModule} (specifier name : String)
    (hscope : scope.Alike D (hidden scope) scope') :
    LookupAlike D hidden (.item scope specifier name) (.item scope' specifier name)

/-- A lookup that is clear has answers that are alike, with the same hops on
both sides. -/
theorem answer_alike (h : program.Alike D hidden program') (hops : Nat) {lookup lookup' : Lookup}
    (hlookup : LookupAlike D hidden lookup lookup') (hclear : program.Clear hidden lookup) :
    (program.answer hops lookup).Alike D (program'.answer hops lookup') := by
  cases hlookup with
  | written name hscope => exact (lookups_alike h hops).1 name hscope hclear
  | item specifier name hscope => exact item_alike h (lookups_alike h hops).2 hscope hclear

/-! ### The names that are written in types -/

/-- A name that is written in a type starts lookups of the same kind. -/
theorem lookup?_alike (h : program.Alike D hidden program') (id : ModuleId) (name : EntityName) :
    Option.Rel (LookupAlike D hidden) (program.lookup? id name) (program'.lookup? id name) := by
  have hmodule := h id
  unfold lookup?
  match program.module? id, program'.module? id, hmodule with
  | none, none, _ => exact .none
  | some scope, some scope', .some hscope =>
    simp only [Option.bind_some]
    cases name with
    | identifier name => exact .some (.written name hscope)
    | qualified parts =>
      cases namespaceMember? (.qualified parts) with
      | none => exact .none
      | some entry =>
        obtain ⟨space, member⟩ := entry
        have hspaces := hscope.spaces space
        simp only [Option.bind_some]
        -- A namespace is imported by both modules or by none of them.
        split
        · next specifier hspace =>
          rw [(hspaces specifier).mp hspace]
          exact .some (.item specifier member hscope)
        · next hnone =>
          split
          · next specifier hspace => exact absurd ((hspaces specifier).mpr hspace) (hnone specifier)
          · exact .none

/-- So it denotes twins, if it never comes to a hidden name. -/
theorem resolve_alike (h : program.Alike D hidden program') {id : ModuleId} {name : EntityName}
    (hclear : ∀ lookup, program.lookup? id name = some lookup → program.Clear hidden lookup) :
    (program.resolve id name).Alike D (program'.resolve id name) := by
  have hlookup := lookup?_alike h id name
  rw [resolve_eq, resolve_eq]
  match hfirst : program.lookup? id name, program'.lookup? id name, hlookup with
  | none, none, _ => exact .missing
  | some lookup, some lookup', .some halike => exact answer_alike h _ halike (hclear lookup hfirst)

/-- What is looked up for an item of `import(specifier)` in the module `id`, and
the hops for it: a name with a dot is an item of a namespace that the file
exports again. -/
def importLookup? (program : Program) (id : ModuleId) (specifier : String) (name : EntityName) :
    Option (Lookup × Nat) :=
  (program.module? id).bind fun scope =>
    match name with
    | .identifier name => some (.item scope specifier name, maxHops + 1)
    | .qualified _ =>
      (namespaceMember? name).bind fun (space, member) =>
        (program.linked? scope specifier).bind fun target =>
          match target.reexports.lookup space with
          | some ⟨inner, .namespace⟩ => some (.item target inner member, maxHops)
          | _ => none

/-- An import type is resolved by the lookup that its name starts, and is
missing if it starts none. -/
theorem resolveImport_eq (program : Program) (id : ModuleId) (specifier : String)
    (name : EntityName) :
    program.resolveImport id specifier name =
      match program.importLookup? id specifier name with
      | some (lookup, hops) => program.answer hops lookup
      | none => .missing := by
  unfold resolveImport importLookup?
  cases program.module? id with
  | none => rfl
  | some scope =>
    cases name with
    | identifier name => rfl
    | qualified parts =>
      rw [Option.bind_some]
      cases namespaceMember? (.qualified parts) with
      | none => rfl
      | some entry =>
        obtain ⟨space, member⟩ := entry
        dsimp only [Option.bind_some]
        cases program.linked? scope specifier with
        | none => rfl
        | some target =>
          dsimp only [Option.bind_some]
          split <;> simp_all [answer]

/-- So the item of an import type denotes twins too. -/
theorem resolveImport_alike (h : program.Alike D hidden program') {id : ModuleId}
    {specifier : String} {name : EntityName}
    (hclear : ∀ lookup hops, program.importLookup? id specifier name = some (lookup, hops) →
      program.Clear hidden lookup) :
    (program.resolveImport id specifier name).Alike D
      (program'.resolveImport id specifier name) := by
  -- The two names start lookups of one kind with the same hops.
  have hlookup : Option.Rel (fun found found' : Lookup × Nat =>
      LookupAlike D hidden found.1 found'.1 ∧ found.2 = found'.2)
      (program.importLookup? id specifier name) (program'.importLookup? id specifier name) := by
    have hmodule := h id
    unfold importLookup?
    match program.module? id, program'.module? id, hmodule with
    | none, none, _ => exact .none
    | some scope, some scope', .some hscope =>
      simp only [Option.bind_some]
      cases name with
      | identifier name => exact .some ⟨.item specifier name hscope, rfl⟩
      | qualified parts =>
        cases namespaceMember? (.qualified parts) with
        | none => exact .none
        | some entry =>
          obtain ⟨space, member⟩ := entry
          have hlinked := h.linked? hscope specifier
          simp only [Option.bind_some]
          match program.linked? scope specifier, program'.linked? scope' specifier, hlinked with
          | none, none, _ => exact .none
          | some target, some target', .some htarget =>
            simp only [Option.bind_some, ← htarget.reexports]
            split
            · exact .some ⟨.item _ _ htarget, rfl⟩
            · exact .none
  rw [resolveImport_eq, resolveImport_eq]
  match hfirst : program.importLookup? id specifier name,
    program'.importLookup? id specifier name, hlookup with
  | none, none, _ => exact .missing
  | some (lookup, hops), some (lookup', _), .some ⟨halike, rfl⟩ =>
    exact answer_alike h hops halike (hclear lookup hops hfirst)

end Program

end AppMetadata
