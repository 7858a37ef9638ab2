import AppMetadata.Program.Resolution
import Mathlib.Data.Set.Finite.List

/-!
# `AppMetadata.Proofs.Program.Declared`: a lookup finds what is declared

Names are looked up through imports, re-exports and aliases of exports, but
what is found in the end is an entry in the table of declarations of some
module (`Program.Declares`). So facts about every declaration of a program
are facts about every declaration that a name leads to.

* `resolve_declares`, `resolveImport_declares`: the two kinds of lookup.
* `finite_declares`: a program declares finitely many things.
-/

set_option autoImplicit false

namespace AppMetadata

/-- A declaration that is no enum, or one all of whose members are members of
an enum. -/
def Declaration.EnumPure (declaration : Declaration) : Prop :=
  ∀ members, declaration.form = .enum members →
    ∀ member ∈ members, ∃ value, member.form = .enumMember value

namespace Program

variable {program : Program} {declaration : Declaration}

/-- A declaration of one of the modules of the program. -/
def Declares (program : Program) (declaration : Declaration) : Prop :=
  ∃ scope ∈ program.modules, declaration ∈ scope.declarations.values

/-- A program in which no declared name is empty. -/
def Named (program : Program) : Prop :=
  ∀ declaration, program.Declares declaration → declaration.name ≠ ""

/-- The declarations of a program are those of the tables of its modules, so
there are finitely many. -/
theorem finite_declares (program : Program) :
    {declaration | program.Declares declaration}.Finite := by
  let declared := program.modules.toList.flatMap (·.declarations.values)
  refine (List.finite_toSet declared).subset fun declaration h => ?_
  obtain ⟨scope, hscope, hentry⟩ := h
  exact List.mem_flatMap.mpr ⟨scope, hscope.val, hentry⟩

/-! ### The steps of a lookup -/

/-- What a lookup answers is declared in the program, if it is a declaration
at all. -/
def AnswersDeclared (program : Program) (answer : Resolved) : Prop :=
  ∀ declaration, answer = .declaration declaration → program.Declares declaration

variable {exported : LinkedModule → String → Resolved} {scope : LinkedModule}

/-- A module that has an id is one of the program. -/
theorem module?_mem {id : ModuleId} (h : program.module? id = some scope) :
    scope ∈ program.modules := by
  obtain ⟨hlt, rfl⟩ := Array.getElem?_eq_some_iff.mp h
  exact Array.getElem_mem hlt

/-- So is one that a specifier is linked to. -/
theorem linked?_mem {specifier : String} {target : LinkedModule}
    (h : program.linked? scope specifier = some target) : target ∈ program.modules := by
  obtain ⟨id, _, hid⟩ := Option.bind_eq_some_iff.mp h
  exact module?_mem hid

/-- What is found in the table of a module is declared. -/
theorem lookup_declares {name : String} (hscope : scope ∈ program.modules)
    (h : scope.declarations.lookup name = some declaration) : program.Declares declaration := by
  refine ⟨scope, hscope, List.mem_map.mpr ⟨(name, declaration), ?_, rfl⟩⟩
  obtain ⟨before, after, heq, _⟩ := List.lookup_eq_some_iff.mp h
  simp [heq]

/-- An item is declared if the exports of all modules are. -/
theorem lookupIn_declares
    (hexported : ∀ target ∈ program.modules, ∀ name,
      program.AnswersDeclared (exported target name)) (specifier name : String) :
    program.AnswersDeclared (program.lookupIn exported scope specifier name) := by
  unfold lookupIn
  split
  · next target htarget => exact hexported target (linked?_mem htarget) name
  · split
    · exact fun _ h => nomatch h
    · exact fun _ h => nomatch h

/-- So is what a binding leads to. -/
theorem followBinding_declares
    (hexported : ∀ target ∈ program.modules, ∀ name,
      program.AnswersDeclared (exported target name)) (binding : ImportBinding) :
    program.AnswersDeclared (program.followBinding exported scope binding) := by
  unfold followBinding
  split
  · exact lookupIn_declares hexported _ _
  · exact lookupIn_declares hexported _ _
  · exact fun _ h => nomatch h

/-- The first answer that is found is one of the answers. -/
theorem firstFound_declares {lookup : String → Resolved} {specifiers : List String}
    (h : ∀ specifier ∈ specifiers, program.AnswersDeclared (lookup specifier)) :
    program.AnswersDeclared (firstFound lookup specifiers) := by
  induction specifiers with
  | nil => exact fun _ h => nomatch h
  | cons specifier specifiers ih =>
    unfold firstFound
    split
    · exact ih fun specifier hmem => h specifier (List.mem_cons_of_mem _ hmem)
    · exact h specifier (List.mem_cons_self ..)

/-! ### Whole lookups -/

/-- Inside and outside lookups call one another, with one hop less each time,
so both are proved in one induction on the hops. -/
theorem lookups_declare (program : Program) (hops : Nat) :
    (∀ scope ∈ program.modules, ∀ name,
      program.AnswersDeclared (program.lookupLocal hops scope name)) ∧
    (∀ scope ∈ program.modules, ∀ name,
      program.AnswersDeclared (program.lookupExport hops scope name)) := by
  induction hops with
  | zero =>
    constructor
    · intro scope _ name declaration h
      simp [lookupLocal] at h
    · intro scope _ name declaration h
      simp [lookupExport] at h
  | succ hops ih =>
    obtain ⟨ihlocal, ihexport⟩ := ih
    constructor
    · intro scope hscope name
      unfold lookupLocal
      split
      · next found hfound =>
        intro declaration h
        cases h
        exact lookup_declares hscope hfound
      · split
        · exact followBinding_declares ihexport _
        · exact fun _ h => nomatch h
    · intro scope hscope name
      unfold lookupExport
      split
      · exact ihlocal scope hscope _
      · split
        · exact followBinding_declares ihexport _
        · split
          · exact firstFound_declares fun specifier _ => lookupIn_declares ihexport specifier name
          · exact ihlocal scope hscope name

/-- A name that is written in a type denotes what is declared. -/
theorem resolve_declares {id : ModuleId} {name : EntityName}
    (h : program.resolve id name = .declaration declaration) : program.Declares declaration := by
  obtain ⟨hlocal, hexport⟩ := lookups_declare program (maxHops + 1)
  unfold resolve at h
  split at h
  · exact nomatch h
  · next scope hscope =>
    split at h
    · exact hlocal scope (module?_mem hscope) _ declaration h
    · split at h
      · exact nomatch h
      · split at h
        · exact lookupIn_declares hexport _ _ declaration h
        · exact nomatch h

/-- So does the item of an import type. -/
theorem resolveImport_declares {id : ModuleId} {specifier : String} {name : EntityName}
    (h : program.resolveImport id specifier name = .declaration declaration) :
    program.Declares declaration := by
  unfold resolveImport at h
  split at h
  · exact nomatch h
  · split at h
    · exact lookupIn_declares (lookups_declare program (maxHops + 1)).2 _ _ declaration h
    · split at h
      · split at h
        · exact lookupIn_declares (lookups_declare program maxHops).2 _ _ declaration h
        · exact nomatch h
      · exact nomatch h

end Program

end AppMetadata
