import AppMetadata.Proofs.Program.Derivation
import Mathlib.Logic.Relation

/-!
# `AppMetadata.Proofs.Program.Visibility`: what a module shows to others

A module exports the names that its export statements list, those that it
exports again, and those of the files all of whose exports it exports, save
the default one (`Exports`). What such a name denotes is found by steps that
an export grants (`Denotes`): a name of the module's own counts only if it is
listed.

A lookup from outside does not ask for this list. It takes every name that
the module declares or imports, and passes on default exports. So there are
two kinds of answers, and each of the first kind is in order.

* `Denotes.exports`: what an export denotes is exported.
* `Derives.denotes_or`: an answer is what the export denotes, or a step on
  the way to it was not granted.
* `visible_or_withheld`: the same for the names that a module imports, and
  the names that are always taken.
-/

set_option autoImplicit false

namespace AppMetadata

open Relation (ReflTransGen)

/-- Whether an export may be answered in this way: a name of its own has to be
listed among the exports, and files all of whose exports are exported give
no default export. -/
def Lookup.Grants : Lookup → Lookup.Way → Prop
  | exported scope name, .own => ∃ item ∈ scope.exports, item.name = name
  | exported _ name, .star => name ≠ "default"
  | _, _ => True

namespace Program

/-- The names that a module exports. -/
inductive Exports (program : Program) : LinkedModule → String → Prop
  | listed {scope : LinkedModule} {name : String} (h : ∃ item ∈ scope.exports, item.name = name) :
      Exports program scope name
  | again {scope : LinkedModule} {name : String} {binding : ImportBinding}
      (h : scope.reexports.lookup name = some binding) : Exports program scope name
  | star {scope target : LinkedModule} {name specifier : String} (hname : name ≠ "default")
      (hspecifier : specifier ∈ scope.starExports)
      (hlink : program.linked? scope specifier = some target) (h : Exports program target name) :
      Exports program scope name

/-- What a lookup denotes, if every export on the way is one. -/
inductive Denotes (program : Program) : Lookup → Declaration → Prop
  | declared {scope : LinkedModule} {name : String} {declaration : Declaration}
      (h : scope.declarations.lookup name = some declaration) :
      Denotes program (.written scope name) declaration
  | defers {way : Lookup.Way} {lookup next : Lookup} {declaration : Declaration}
      (hway : program.Defers way lookup next) (hgrants : lookup.Grants way)
      (h : Denotes program next declaration) : Denotes program lookup declaration

/-- A lookup that may lead to another one. -/
def Leads (program : Program) (lookup next : Lookup) : Prop :=
  ∃ way, program.Defers way lookup next

/-- A lookup that comes to the answer `declaration` in a way that its module
does not grant. -/
def Withheld (program : Program) (lookup : Lookup) (declaration : Declaration) : Prop :=
  ∃ way next, program.Defers way lookup next ∧ ¬lookup.Grants way ∧
    ∃ cost, program.Derives next (.declaration declaration) cost

/-- A program in which a local name that is exported under another name is
listed under that name. -/
def RenamedListed (program : Program) : Prop :=
  ∀ scope ∈ program.modules, ∀ name localName,
    scope.localAliases.lookup name = some localName → ∃ item ∈ scope.exports, item.name = name

/-- The name `name`, where it is written in the module `id`, is bound to the
item `item` of the module `target`: by a named or default import, or as a
member of an imported namespace. -/
inductive Binds (program : Program) (id : ModuleId) : EntityName → LinkedModule → String → Prop
  | named {scope target : LinkedModule} {name item : String} {binding : ImportBinding}
      (hscope : program.module? id = some scope)
      (hdeclared : scope.declarations.lookup name = none)
      (hbinding : scope.imports.lookup name = some binding)
      (hitem : binding.imported.item? = some item)
      (hlink : program.linked? scope binding.specifier = some target) :
      Binds program id (.identifier name) target item
  | member {scope target : LinkedModule} {space item specifier : String}
      (hscope : program.module? id = some scope)
      (hbinding : scope.imports.lookup space = some ⟨specifier, .namespace⟩)
      (hlink : program.linked? scope specifier = some target) :
      Binds program id (.qualified [space, item]) target item

variable {program : Program} {declaration : Declaration}

/-! ### Exports and what they denote -/

/-- What is looked up is exported, if it is an export. -/
def Visible (program : Program) : Lookup → Prop
  | .written _ _ => True
  | .exported scope name => program.Exports scope name
  | .item scope specifier name =>
    ∃ target, program.linked? scope specifier = some target ∧ program.Exports target name

/-- Every step that is granted keeps what is looked up visible, so what denotes
something is. -/
theorem Denotes.visible (hprogram : program.RenamedListed) {lookup : Lookup}
    (hscope : lookup.scope ∈ program.modules) (h : program.Denotes lookup declaration) :
    program.Visible lookup := by
  induction h with
  | declared h => trivial
  | defers hway hgrants h ih =>
    have hnext := ih (hway.scope_mem hscope)
    cases hway with
    | imported => trivial
    | renamed halias => exact .listed (hprogram _ hscope _ _ halias)
    | reexported _ hbinding _ => exact .again hbinding
    | own => exact .listed hgrants
    | star _ _ hspecifier =>
      obtain ⟨target, hlink, hexports⟩ := hnext
      exact .star hgrants hspecifier hlink hexports
    | linked hlink => exact ⟨_, hlink, hnext⟩

/-- An export is never declared in itself: some step is granted first. -/
theorem Denotes.exported_cases {scope : LinkedModule} {name : String}
    (h : program.Denotes (.exported scope name) declaration) :
    ∃ way next, program.Defers way (.exported scope name) next ∧
      (Lookup.exported scope name).Grants way ∧ program.Denotes next declaration := by
  cases h with
  | defers hway hgrants h => exact ⟨_, _, hway, hgrants, h⟩

/-- The item of a specifier denotes what the module that is linked exports. -/
theorem Denotes.item_cases {scope target : LinkedModule} {specifier name : String}
    (hlink : program.linked? scope specifier = some target)
    (h : program.Denotes (.item scope specifier name) declaration) :
    program.Denotes (.exported target name) declaration := by
  cases h with
  | defers hway _ h =>
    cases hway with
    | linked hlink' => exact Option.some.inj (hlink'.symm.trans hlink) ▸ h

/-- What is declared is not looked up elsewhere. -/
theorem Denotes.written_unique {scope : LinkedModule} {name : String} {found : Declaration}
    (hdeclared : scope.declarations.lookup name = some found)
    (h : program.Denotes (.written scope name) declaration) : declaration = found := by
  cases h with
  | declared h => exact Option.some.inj (h.symm.trans hdeclared)
  | defers hway _ _ =>
    cases hway with
    | imported hnone => simp [hdeclared] at hnone

/-- An export that denotes a declaration is one of the exports of its module. -/
theorem Denotes.exports (hprogram : program.RenamedListed) {scope : LinkedModule} {name : String}
    (hscope : scope ∈ program.modules) (h : program.Denotes (.exported scope name) declaration) :
    program.Exports scope name := by
  have hlookup : (Lookup.exported scope name).scope ∈ program.modules := hscope
  exact h.visible hprogram hlookup

/-- Of any answer: all steps to it are granted, or some lookup on the way takes
a step that is not. -/
theorem Derives.denotes_or {lookup : Lookup} {cost : Nat}
    (h : program.Derives lookup (.declaration declaration) cost) :
    program.Denotes lookup declaration ∨
      ∃ last, ReflTransGen program.Leads lookup last ∧ program.Withheld last declaration := by
  generalize hanswer : Resolved.declaration declaration = answer at h
  induction h with
  | declared h =>
    cases hanswer
    exact .inl (.declared h)
  | package => cases hanswer
  | @defers way lookup next answer cost hway h ih =>
    by_cases hgrants : lookup.Grants way
    · rcases ih hanswer with hdenotes | ⟨last, hleads, hwithheld⟩
      · exact .inl (.defers hway hgrants hdenotes)
      · exact .inr ⟨last, .head ⟨way, hway⟩ hleads, hwithheld⟩
    · exact .inr ⟨lookup, .refl, way, next, hway, hgrants, cost, hanswer ▸ h⟩

/-! ### Names that are imported -/

/-- What is imported is looked up among the exports of its module. -/
theorem Binds.resolve_eq {id : ModuleId} {name : EntityName} {target : LinkedModule}
    {item : String} (h : program.Binds id name target item) :
    ∃ hops, maxHops ≤ hops ∧
      program.resolve id name = program.answer hops (.exported target item) := by
  rw [Program.resolve_eq]
  cases h with
  | named hscope hdeclared hbinding hitem hlink =>
    refine ⟨maxHops, le_rfl, ?_⟩
    simp only [lookup?, hscope, Option.bind_some, answer_written_succ, hdeclared, hbinding,
      followBinding_eq, hitem, answer_item, hlink]
  | member hscope hbinding hlink =>
    refine ⟨maxHops + 1, Nat.le_succ _, ?_⟩
    simp only [lookup?, hscope, Option.bind_some, namespaceMember?, hbinding, answer_item, hlink]

/-- A name is bound to an item of a module of the program. -/
theorem Binds.target_mem {id : ModuleId} {name : EntityName} {target : LinkedModule}
    {item : String} (h : program.Binds id name target item) : target ∈ program.modules := by
  cases h with
  | named _ _ _ _ hlink => exact linked?_mem hlink
  | member _ _ hlink => exact linked?_mem hlink

/-- What a module declares answers for its exports, listed or not. -/
theorem answer_exported_of_declared {hops : Nat} {scope : LinkedModule} {name : String}
    (hhops : 2 ≤ hops) (halias : scope.localAliases.lookup name = none)
    (hbinding : scope.reexports.lookup name = none)
    (hdeclared : scope.declarations.lookup name = some declaration) :
    program.answer hops (.exported scope name) = .declaration declaration := by
  obtain ⟨rest, rfl⟩ := Nat.exists_eq_add_of_le' hhops
  simp only [answer_exported_succ, halias, hbinding, answer_written_succ, hdeclared]

/-- Of a name that is bound to an item of another module: a declaration that is
found is what the module exports as this item, or some lookup on the way came
to it in a way that is not granted. And a declaration of the module with this
name is found whether it is exported or not, unless another one is exported
under the name by a clause. -/
theorem visible_or_withheld (hprogram : program.RenamedListed) {id : ModuleId} {name : EntityName}
    {target : LinkedModule} {item : String} (hbinds : program.Binds id name target item) :
    (∀ declaration, program.resolve id name = .declaration declaration →
      (program.Exports target item ∧ program.Denotes (.exported target item) declaration) ∨
      ∃ last, ReflTransGen program.Leads (.exported target item) last ∧
        program.Withheld last declaration) ∧
    (∀ declaration, target.declarations.lookup item = some declaration →
      target.localAliases.lookup item = none → target.reexports.lookup item = none →
      program.resolve id name = .declaration declaration) := by
  obtain ⟨hops, hhops, hresolve⟩ := hbinds.resolve_eq
  constructor
  · intro declaration h
    rw [hresolve] at h
    have hfound : program.answer hops (.exported target item) ≠ .missing := by simp [h]
    obtain ⟨cost, -, hderives⟩ := derives_of_answer hfound
    rw [h] at hderives
    exact hderives.denotes_or.imp_left fun hdenotes =>
      ⟨hdenotes.exports hprogram hbinds.target_mem, hdenotes⟩
  · intro declaration hdeclared halias hbinding
    rw [hresolve]
    exact answer_exported_of_declared (Nat.le_trans (by decide) hhops) halias hbinding hdeclared

/-- A module that exports all that the next module exports, and keeps an
interface `User` to itself. -/
def barrel : LinkedModule where
  path := ⟨true, ["barrel.ts"]⟩
  declarations := [("User", emptyInterface "User" 1)]
  starExports := ["./user"]
  links := [("./user", 2)]

/-- A module that exports an interface `User`. -/
def exporter : LinkedModule where
  path := ⟨true, ["user.ts"]⟩
  declarations := [("User", emptyInterface "User" 2)]
  exports := [⟨"User", .interface, {}, true⟩]

/-- A program that imports `User` from the first of the two, and from the
second one as `Account`. -/
def customer : Program where
  modules := #[
    { path := ⟨true, ["app.ts"]⟩
      imports := [("User", ⟨"./barrel", .named "User"⟩), ("Account", ⟨"./user", .named "User"⟩)]
      links := [("./barrel", 1), ("./user", 2)] },
    barrel,
    exporter]

/-- No module of the program exports a name under another one. -/
theorem customer_renamedListed : customer.RenamedListed := by
  intro scope hscope name localName halias
  have hnone : scope.localAliases = [] := by
    simp only [customer, List.mem_toArray, List.mem_cons, List.not_mem_nil, or_false] at hscope
    rcases hscope with rfl | rfl | rfl <;> rfl
  simp [hnone] at halias

/-- The import from the module that declares the interface. -/
theorem visible_or_withheld_account :
    customer.RenamedListed ∧ customer.Binds 0 (.identifier "Account") exporter "User" ∧
      customer.resolve 0 (.identifier "Account") = .declaration (emptyInterface "User" 2) ∧
      ((customer.Exports exporter "User" ∧
          customer.Denotes (.exported exporter "User") (emptyInterface "User" 2)) ∨
        ∃ last, ReflTransGen customer.Leads (.exported exporter "User") last ∧
          customer.Withheld last (emptyInterface "User" 2)) := by
  have hbinds : customer.Binds 0 (.identifier "Account") exporter "User" :=
    .named rfl rfl rfl rfl rfl
  have hall := visible_or_withheld customer_renamedListed hbinds
  have hresolve := hall.2 (emptyInterface "User" 2) rfl rfl rfl
  exact ⟨customer_renamedListed, hbinds, hresolve, hall.1 _ hresolve⟩

/-- The interface that the first module keeps to itself is found in place of
the one that it exports. -/
theorem kept_hides_exported :
    customer.Binds 0 (.identifier "User") barrel "User" ∧
      customer.resolve 0 (.identifier "User") = .declaration (emptyInterface "User" 1) ∧
      customer.Exports barrel "User" ∧
      customer.Denotes (.exported barrel "User") (emptyInterface "User" 2) ∧
      ¬customer.Denotes (.exported barrel "User") (emptyInterface "User" 1) := by
  have hlink : customer.linked? barrel "./user" = some exporter := rfl
  have hexports : customer.Exports exporter "User" := .listed ⟨_, List.mem_singleton_self _, rfl⟩
  have hmem : "./user" ∈ barrel.starExports := List.mem_singleton_self _
  refine ⟨.named rfl rfl rfl rfl rfl, rfl, .star (by decide) hmem hlink hexports, ?_, ?_⟩
  · have hlisted : (Lookup.exported exporter "User").Grants .own :=
      ⟨_, List.mem_singleton_self _, rfl⟩
    have hname : (Lookup.exported barrel "User").Grants .star := by simp [Lookup.Grants]
    exact .defers (.star rfl rfl hmem) hname
      (.defers (.linked hlink) trivial (.defers (.own rfl rfl) hlisted (.declared rfl)))
  · intro hdenotes
    -- Nothing leads out of the first module but its list of files.
    obtain ⟨way, next, hway, hgrants, hdenotes⟩ := hdenotes.exported_cases
    cases hway with
    | renamed halias => cases halias
    | reexported _ hbinding _ => cases hbinding
    | own => simp [Lookup.Grants, barrel] at hgrants
    | star _ _ hspecifier =>
      obtain rfl := List.mem_singleton.mp hspecifier
      obtain ⟨way, next, hway, -, hdenotes⟩ := (hdenotes.item_cases hlink).exported_cases
      cases hway with
      | renamed halias => cases halias
      | reexported _ hbinding _ => cases hbinding
      | star _ _ hspecifier => cases hspecifier
      | own =>
        have hfound := congrArg Declaration.scope (hdenotes.written_unique rfl)
        cases hfound

end Program

end AppMetadata
