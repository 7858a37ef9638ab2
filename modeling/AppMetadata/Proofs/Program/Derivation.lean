import AppMetadata.Proofs.Program.Declared

/-!
# `AppMetadata.Proofs.Program.Derivation`: what a name leads to, and at what cost

A lookup that has no answer of its own leaves it to another one: a name that
is imported to the export of its module, an export to a local name or to an
export of another module (`Defers`). The ways to an answer, each with the
number of hops that it takes, are the derivations of the answer (`Derives`).
Modules may import one another in cycles, so there may be derivations of any
length, or lookups that go round for ever and derive nothing.

The lookups of a program follow the derivations up to a number of hops.

* `derives_of_answer`: an answer that is found is derived, at a cost that the
  hops cover.
* `Derives.answer_ne_missing`: where an answer is derived at such a cost, one is
  found.
* `Derives.unique`: without `export *` there is at most one answer.
* `resolve_follows_derivations`: the three together, for the names that stand
  in a module.
-/

set_option autoImplicit false

namespace AppMetadata

/-- The item of another module that a binding takes. A namespace is none of
its items. -/
def ImportedName.item? : ImportedName → Option String
  | named name => some name
  | .default => some "default"
  | .namespace => none

/-- What can be looked up. -/
inductive Lookup
  /-- A name that is written in `scope`. -/
  | written (scope : LinkedModule) (name : String)
  /-- What `scope` exports as `name`. -/
  | exported (scope : LinkedModule) (name : String)
  /-- The item `name` of the file that `specifier` stands for in `scope`. -/
  | item (scope : LinkedModule) (specifier name : String)

namespace Lookup

/-- The hops that a lookup takes when it leaves its answer to another one. The
way from a specifier to its module is part of the hop before. -/
def cost : Lookup → Nat
  | written _ _ | exported _ _ => 1
  | item _ _ _ => 0

/-- The module in which something is looked up. -/
def scope : Lookup → LinkedModule
  | written scope _ | exported scope _ | item scope _ _ => scope

/-- The ways to leave an answer to another lookup. -/
inductive Way
  /-- From an imported name to what it is bound to. -/
  | imported
  /-- From an export to the local name that it gives another name. -/
  | renamed
  /-- From an export to what it exports again. -/
  | reexported
  /-- From an export to the local name that it is. -/
  | own
  /-- From an export to that of a file all of whose exports are exported. -/
  | star
  /-- From a specifier to the module that it stands for. -/
  | linked
deriving DecidableEq

end Lookup

/-- A bound for the hops that an answer may take to be found in `hops` of them.
A package is not looked into, which saves one. -/
def Resolved.reach (hops : Nat) : Resolved → Nat
  | external _ _ => hops + 1
  | _ => hops

/-- More hops reach as much further. -/
theorem Resolved.reach_add (hops more : Nat) (answer : Resolved) :
    answer.reach (hops + more) = answer.reach hops + more := by
  cases answer with
  | external specifier item => exact Nat.add_right_comm hops more 1
  | declaration declaration => rfl
  | missing => rfl

/-- An answer is reached at least as far as the hops go, -/
theorem Resolved.le_reach (hops : Nat) (answer : Resolved) : hops ≤ answer.reach hops := by
  cases answer <;> simp [reach]

/-- and at most one further. -/
theorem Resolved.reach_le (hops : Nat) (answer : Resolved) : answer.reach hops ≤ hops + 1 := by
  cases answer <;> simp [reach]

namespace Program

/-- When a lookup leaves its answer to another one, and in which way. -/
inductive Defers (program : Program) : Lookup.Way → Lookup → Lookup → Prop
  | imported {scope : LinkedModule} {name item : String} {binding : ImportBinding}
      (hdeclared : scope.declarations.lookup name = none)
      (hbinding : scope.imports.lookup name = some binding)
      (hitem : binding.imported.item? = some item) :
      Defers program .imported (.written scope name) (.item scope binding.specifier item)
  | renamed {scope : LinkedModule} {name localName : String}
      (halias : scope.localAliases.lookup name = some localName) :
      Defers program .renamed (.exported scope name) (.written scope localName)
  | reexported {scope : LinkedModule} {name item : String} {binding : ImportBinding}
      (halias : scope.localAliases.lookup name = none)
      (hbinding : scope.reexports.lookup name = some binding)
      (hitem : binding.imported.item? = some item) :
      Defers program .reexported (.exported scope name) (.item scope binding.specifier item)
  | own {scope : LinkedModule} {name : String}
      (halias : scope.localAliases.lookup name = none)
      (hbinding : scope.reexports.lookup name = none) :
      Defers program .own (.exported scope name) (.written scope name)
  | star {scope : LinkedModule} {name specifier : String}
      (halias : scope.localAliases.lookup name = none)
      (hbinding : scope.reexports.lookup name = none)
      (hspecifier : specifier ∈ scope.starExports) :
      Defers program .star (.exported scope name) (.item scope specifier name)
  | linked {scope target : LinkedModule} {specifier name : String}
      (hlink : program.linked? scope specifier = some target) :
      Defers program .linked (.item scope specifier name) (.exported target name)

/-- The answers that a lookup may have, and the hops that lead there. A way
ends at a declaration, or at a package. -/
inductive Derives (program : Program) : Lookup → Resolved → Nat → Prop
  | declared {scope : LinkedModule} {name : String} {declaration : Declaration}
      (h : scope.declarations.lookup name = some declaration) :
      Derives program (.written scope name) (.declaration declaration) 0
  | package {scope : LinkedModule} {specifier name : String}
      (hlink : program.linked? scope specifier = none)
      (hrelative : SourceFiles.isRelative specifier = false) :
      Derives program (.item scope specifier name) (.external specifier name) 0
  | defers {way : Lookup.Way} {lookup next : Lookup} {answer : Resolved} {cost : Nat}
      (hway : program.Defers way lookup next) (h : Derives program next answer cost) :
      Derives program lookup answer (cost + lookup.cost)

/-- The answer of the program to a lookup, in at most `hops` hops. -/
def answer (program : Program) (hops : Nat) : Lookup → Resolved
  | .written scope name => program.lookupLocal hops scope name
  | .exported scope name => program.lookupExport hops scope name
  | .item scope specifier name =>
    program.lookupIn (program.lookupExport hops) scope specifier name

variable {program : Program} {hops : Nat} {scope : LinkedModule}

/-! ### The steps of a lookup -/

/-- An item of a file is looked up in the module that its specifier is linked
to. Without a link it is that of a package, or missing. -/
theorem answer_item (program : Program) (hops : Nat) (scope : LinkedModule)
    (specifier name : String) :
    program.answer hops (.item scope specifier name) =
      match program.linked? scope specifier with
      | some target => program.answer hops (.exported target name)
      | none =>
        if SourceFiles.isRelative specifier then .missing else .external specifier name :=
  rfl

/-- What a binding leads to is the item that it takes. A namespace leads
nowhere. -/
theorem followBinding_eq (program : Program) (hops : Nat) (scope : LinkedModule)
    (binding : ImportBinding) :
    program.followBinding (program.lookupExport hops) scope binding =
      match binding.imported.item? with
      | some item => program.answer hops (.item scope binding.specifier item)
      | none => .missing := by
  unfold followBinding
  cases binding.imported <;> rfl

/-- A name that is written in a module is declared there, or imported.
Declarations come first. -/
theorem answer_written_succ (program : Program) (hops : Nat) (scope : LinkedModule)
    (name : String) :
    program.answer (hops + 1) (.written scope name) =
      match scope.declarations.lookup name with
      | some declaration => .declaration declaration
      | none =>
        match scope.imports.lookup name with
        | some binding => program.followBinding (program.lookupExport hops) scope binding
        | none => .missing := by
  show program.lookupLocal (hops + 1) scope name = _
  unfold lookupLocal
  rfl

/-- What a module exports under a name: a local name that was given it, what it
exports again, what it declares or imports, and last what it exports all of, in
order. -/
theorem answer_exported_succ (program : Program) (hops : Nat) (scope : LinkedModule)
    (name : String) :
    program.answer (hops + 1) (.exported scope name) =
      match scope.localAliases.lookup name with
      | some localName => program.answer hops (.written scope localName)
      | none =>
        match scope.reexports.lookup name with
        | some binding => program.followBinding (program.lookupExport hops) scope binding
        | none =>
          match program.answer hops (.written scope name) with
          | .missing =>
            firstFound (fun specifier => program.answer hops (.item scope specifier name))
              scope.starExports
          | found => found := by
  show program.lookupExport (hops + 1) scope name = _
  unfold lookupExport
  rfl

/-- The first answer for a list of specifiers is the answer for one of them. -/
theorem exists_of_firstFound {lookup : String → Resolved} {specifiers : List String}
    (h : firstFound lookup specifiers ≠ .missing) :
    ∃ specifier ∈ specifiers, lookup specifier = firstFound lookup specifiers := by
  induction specifiers with
  | nil => exact absurd rfl h
  | cons first rest ih =>
    unfold firstFound at h ⊢
    split at h
    · obtain ⟨specifier, hmem, hfound⟩ := ih h
      exact ⟨specifier, List.mem_cons_of_mem _ hmem, hfound⟩
    · exact ⟨first, List.mem_cons_self .., rfl⟩

/-- If one of several specifiers has an answer then the first answer is none
that is missing. -/
theorem firstFound_ne_missing {lookup : String → Resolved} {specifiers : List String}
    {specifier : String} (hmem : specifier ∈ specifiers) (h : lookup specifier ≠ .missing) :
    firstFound lookup specifiers ≠ .missing := by
  induction specifiers with
  | nil => cases hmem
  | cons first rest ih =>
    unfold firstFound
    split
    · next hmissing =>
      cases hmem with
      | head => exact absurd hmissing h
      | tail _ hmem => exact ih hmem
    · next hfound => exact hfound

/-- A binding leads to an item, or to nothing. -/
theorem followBinding_ne_missing {binding : ImportBinding}
    (h : program.followBinding (program.lookupExport hops) scope binding ≠ .missing) :
    ∃ item, binding.imported.item? = some item ∧
      program.followBinding (program.lookupExport hops) scope binding =
        program.answer hops (.item scope binding.specifier item) := by
  rw [followBinding_eq] at h ⊢
  cases hitem : binding.imported.item? with
  | some item => exact ⟨item, rfl, rfl⟩
  | none => simp [hitem] at h

/-- What a lookup can do: it has an answer of its own, or leaves it to another
lookup, with as many hops less as this costs. -/
theorem answer_cases {lookup : Lookup} (h : program.answer hops lookup ≠ .missing) :
    (program.Derives lookup (program.answer hops lookup) 0 ∧
      0 < (program.answer hops lookup).reach hops) ∨
    ∃ way next rest, program.Defers way lookup next ∧ hops = rest + lookup.cost ∧
      program.answer rest next = program.answer hops lookup := by
  cases lookup with
  | written scope name =>
    cases hops with
    | zero => simp [answer, lookupLocal] at h
    | succ hops =>
      rw [answer_written_succ] at h ⊢
      cases hdeclared : scope.declarations.lookup name with
      | some declaration => exact .inl ⟨.declared hdeclared, Nat.succ_pos hops⟩
      | none =>
        cases hbinding : scope.imports.lookup name with
        | none => simp [hdeclared, hbinding] at h
        | some binding =>
          simp only [hdeclared, hbinding] at h
          obtain ⟨item, hitem, hfollow⟩ := followBinding_ne_missing h
          exact .inr ⟨_, _, hops, .imported hdeclared hbinding hitem, rfl, hfollow.symm⟩
  | exported scope name =>
    cases hops with
    | zero => simp [answer, lookupExport] at h
    | succ hops =>
      rw [answer_exported_succ] at h ⊢
      cases halias : scope.localAliases.lookup name with
      | some localName => exact .inr ⟨_, _, hops, .renamed halias, rfl, rfl⟩
      | none =>
        cases hbinding : scope.reexports.lookup name with
        | some binding =>
          simp only [halias, hbinding] at h
          obtain ⟨item, hitem, hfollow⟩ := followBinding_ne_missing h
          exact .inr ⟨_, _, hops, .reexported halias hbinding hitem, rfl, hfollow.symm⟩
        | none =>
          simp only [halias, hbinding] at h ⊢
          -- The name of its own comes first, and the files only if it has no answer.
          cases hown : program.answer hops (.written scope name) with
          | missing =>
            simp only [hown] at h
            obtain ⟨specifier, hmem, hfound⟩ := exists_of_firstFound h
            exact .inr ⟨_, _, hops, .star halias hbinding hmem, rfl, hfound⟩
          | declaration declaration => exact .inr ⟨_, _, hops, .own halias hbinding, rfl, hown⟩
          | external specifier item => exact .inr ⟨_, _, hops, .own halias hbinding, rfl, hown⟩
  | item scope specifier name =>
    rw [answer_item] at h ⊢
    cases hlink : program.linked? scope specifier with
    | some target => exact .inr ⟨_, _, hops, .linked hlink, rfl, rfl⟩
    | none =>
      simp only [hlink] at h ⊢
      split at h
      · exact absurd rfl h
      · next hrelative =>
        rw [if_neg hrelative]
        exact .inl ⟨.package hlink (Bool.eq_false_iff.mpr hrelative), Nat.succ_pos hops⟩

/-- A lookup that may leave its answer to one that finds something finds
something itself. -/
theorem Defers.answer_ne_missing {way : Lookup.Way} {lookup next : Lookup}
    (hway : program.Defers way lookup next) (h : program.answer hops next ≠ .missing) :
    program.answer (hops + lookup.cost) lookup ≠ .missing := by
  cases hway with
  | imported hdeclared hbinding hitem =>
    show program.answer (hops + 1) _ ≠ _
    simpa only [answer_written_succ, hdeclared, hbinding, followBinding_eq, hitem] using h
  | renamed halias =>
    show program.answer (hops + 1) _ ≠ _
    simpa only [answer_exported_succ, halias] using h
  | reexported halias hbinding hitem =>
    show program.answer (hops + 1) _ ≠ _
    simpa only [answer_exported_succ, halias, hbinding, followBinding_eq, hitem] using h
  | own halias hbinding =>
    show program.answer (hops + 1) _ ≠ _
    simpa only [answer_exported_succ, halias, hbinding] using h
  | star halias hbinding hspecifier =>
    show program.answer (hops + 1) _ ≠ _
    simp only [answer_exported_succ, halias, hbinding]
    -- Another answer may come first, but then there is one.
    split
    · exact firstFound_ne_missing hspecifier h
    · next hfound => exact hfound
  | linked hlink =>
    show program.answer hops _ ≠ _
    simpa only [answer_item, hlink] using h

/-! ### Whole lookups -/

/-- Of two lookups in a row one takes a hop. -/
theorem Defers.cost_add {way : Lookup.Way} {lookup next : Lookup}
    (hway : program.Defers way lookup next) : 1 ≤ lookup.cost + next.cost ∧ lookup.cost ≤ 1 := by
  cases hway <;> simp [Lookup.cost]

/-- By induction on the hops: an answer that is found is derived, and its cost
stays below the reach of the hops. -/
theorem derives_of_answer {hops : Nat} {lookup : Lookup}
    (h : program.answer hops lookup ≠ .missing) :
    ∃ cost < (program.answer hops lookup).reach hops,
      program.Derives lookup (program.answer hops lookup) cost := by
  rcases answer_cases h with ⟨hderives, hreach⟩ | ⟨way, next, rest, hway, rfl, heq⟩
  · exact ⟨0, hreach, hderives⟩
  · have hcost := hway.cost_add
    rw [← heq] at h ⊢
    obtain ⟨cost, hlt, hderives⟩ := derives_of_answer h
    refine ⟨cost + lookup.cost, ?_, .defers hway hderives⟩
    rw [Resolved.reach_add]
    omega
-- A lookup without a cost leaves its answer to one with a cost.
termination_by 2 * hops + (1 - lookup.cost)
decreasing_by omega

/-- By induction on the derivation: each of its steps takes as many hops as it
costs. Another answer may be found first, but one is. -/
theorem Derives.answer_ne_missing {lookup : Lookup} {answer : Resolved} {cost : Nat}
    (h : program.Derives lookup answer cost) (hcost : cost < answer.reach hops) :
    program.answer hops lookup ≠ .missing := by
  induction h generalizing hops with
  | declared h =>
    obtain ⟨rest, rfl⟩ := Nat.exists_eq_add_of_lt hcost
    simp [answer_written_succ, h]
  | package hlink hrelative => simp [answer_item, hlink, hrelative]
  | @defers way lookup next answer cost hway h ih =>
    have hle : lookup.cost ≤ hops := by
      have hreach := answer.reach_le hops
      have hlookup := hway.cost_add
      omega
    obtain ⟨rest, rfl⟩ := Nat.exists_eq_add_of_le' hle
    rw [Resolved.reach_add] at hcost
    exact hway.answer_ne_missing (ih (by omega))

/-- A lookup stays within the modules of the program. -/
theorem Defers.scope_mem {way : Lookup.Way} {lookup next : Lookup}
    (hway : program.Defers way lookup next) (h : lookup.scope ∈ program.modules) :
    next.scope ∈ program.modules := by
  cases hway with
  | linked hlink => exact linked?_mem hlink
  | _ => exact h

/-- A way to a package ends at a specifier that stands for no file. -/
theorem Derives.of_external {lookup : Lookup} {specifier name : String} {cost : Nat}
    (h : program.Derives lookup (.external specifier name) cost)
    (hscope : lookup.scope ∈ program.modules) :
    SourceFiles.isRelative specifier = false ∧
      ∃ scope ∈ program.modules, program.linked? scope specifier = none := by
  generalize hanswer : Resolved.external specifier name = answer at h
  induction h with
  | declared h => cases hanswer
  | @package scope _ _ hlink hrelative =>
    cases hanswer
    exact ⟨hrelative, scope, hscope, hlink⟩
  | defers hway h ih => exact ih (hway.scope_mem hscope) hanswer

/-! ### Programs without `export *` -/

/-- No module exports all that another one exports. -/
def StarFree (program : Program) : Prop :=
  ∀ scope ∈ program.modules, scope.starExports = []

/-- A list of files is the only choice that a lookup has. -/
theorem Defers.unique {way way' : Lookup.Way} {lookup next next' : Lookup}
    (hstar : lookup.scope.starExports = []) (h : program.Defers way lookup next)
    (h' : program.Defers way' lookup next') : next = next' := by
  cases h <;> cases h' <;> simp_all [Lookup.scope]

/-- Without `export *` no lookup has a choice, so two derivations go the same
way to the same end. -/
theorem Derives.unique (hprogram : program.StarFree) {lookup : Lookup} {answer answer' : Resolved}
    {cost cost' : Nat} (hscope : lookup.scope ∈ program.modules)
    (h : program.Derives lookup answer cost) (h' : program.Derives lookup answer' cost') :
    answer = answer' := by
  induction h generalizing cost' with
  | declared h =>
    cases h' with
    | declared h' => rw [Option.some.inj (h.symm.trans h')]
    | defers hway _ =>
      -- A declared name is not looked up among the imports.
      cases hway with
      | imported hdeclared => simp [h] at hdeclared
  | package hlink _ =>
    cases h' with
    | package _ _ => rfl
    | defers hway _ =>
      cases hway with
      | linked hlink' => simp [hlink] at hlink'
  | defers hway h ih =>
    cases h' with
    | declared h' =>
      cases hway with
      | imported hdeclared => simp [h'] at hdeclared
    | package hlink' _ =>
      cases hway with
      | linked hlink => simp [hlink'] at hlink
    | defers hway' h' =>
      obtain rfl := hway.unique (hprogram _ hscope) hway'
      exact ih (hway.scope_mem hscope) h'

/-! ### The names that stand in a module -/

/-- What is looked up for a name that is written in the module `id`: a name
with a dot is an item of an imported namespace. -/
def lookup? (program : Program) (id : ModuleId) (name : EntityName) : Option Lookup :=
  (program.module? id).bind fun scope =>
    match name with
    | .identifier name => some (.written scope name)
    | .qualified _ =>
      (namespaceMember? name).bind fun (space, member) =>
        match scope.imports.lookup space with
        | some ⟨specifier, .namespace⟩ => some (.item scope specifier member)
        | _ => none

/-- A name is looked up with one hop more than the limit, as the lookup itself
takes none. -/
theorem resolve_eq (program : Program) (id : ModuleId) (name : EntityName) :
    program.resolve id name =
      match program.lookup? id name with
      | some lookup => program.answer (maxHops + 1) lookup
      | none => .missing := by
  unfold resolve lookup?
  cases program.module? id with
  | none => rfl
  | some scope =>
    cases name with
    | identifier name => rfl
    | qualified parts =>
      rw [Option.bind_some]
      cases namespaceMember? (.qualified parts) with
      | none => rfl
      | some entry =>
        obtain ⟨space, member⟩ := entry
        dsimp only [Option.bind_some]
        split <;> simp_all [answer]

/-- It is looked up in a module of the program. -/
theorem lookup?_scope_mem {id : ModuleId} {name : EntityName} {lookup : Lookup}
    (h : program.lookup? id name = some lookup) : lookup.scope ∈ program.modules := by
  obtain ⟨scope, hscope, h⟩ := Option.bind_eq_some_iff.mp h
  have hmem := module?_mem hscope
  split at h
  · cases h
    exact hmem
  · obtain ⟨⟨space, member⟩, -, h⟩ := Option.bind_eq_some_iff.mp h
    dsimp only at h
    split at h
    · cases h
      exact hmem
    · cases h

/-- The answers that a name may have where it is written in the module `id`,
and the hops that lead there. -/
def NameDerives (program : Program) (id : ModuleId) (name : EntityName) (answer : Resolved)
    (cost : Nat) : Prop :=
  ∃ lookup, program.lookup? id name = some lookup ∧ program.Derives lookup answer cost

/-- So a name that is found is derived. -/
theorem nameDerives_of_resolve {id : ModuleId} {name : EntityName}
    (h : program.resolve id name ≠ .missing) :
    ∃ cost < (program.resolve id name).reach (maxHops + 1),
      program.NameDerives id name (program.resolve id name) cost := by
  rw [resolve_eq] at h ⊢
  cases hlookup : program.lookup? id name with
  | none => simp [hlookup] at h
  | some lookup =>
    simp only [hlookup] at h ⊢
    obtain ⟨cost, hcost, hderives⟩ := derives_of_answer h
    exact ⟨cost, hcost, lookup, hlookup, hderives⟩

/-- And a name that is derived within the hops is found. -/
theorem NameDerives.resolve_ne_missing {id : ModuleId} {name : EntityName} {answer : Resolved}
    {cost : Nat} (h : program.NameDerives id name answer cost)
    (hcost : cost < answer.reach (maxHops + 1)) : program.resolve id name ≠ .missing := by
  obtain ⟨lookup, hlookup, hderives⟩ := h
  rw [resolve_eq, hlookup]
  exact hderives.answer_ne_missing hcost

/-- On every module graph, cyclic ones included: a name that is found has a
derivation within the hops, and leads to a declaration of the program or to a
package. A name with a derivation of at most `maxHops` hops is found, and
where no module exports all that another one exports, what is found is what
is derived. -/
theorem resolve_follows_derivations (program : Program) (id : ModuleId) (name : EntityName) :
    (∀ declaration, program.resolve id name = .declaration declaration →
      program.Declares declaration ∧
        ∃ cost ≤ maxHops, program.NameDerives id name (.declaration declaration) cost) ∧
    (∀ specifier item, program.resolve id name = .external specifier item →
      (∃ cost ≤ maxHops + 1, program.NameDerives id name (.external specifier item) cost) ∧
        SourceFiles.isRelative specifier = false ∧
        ∃ scope ∈ program.modules, program.linked? scope specifier = none) ∧
    (∀ answer cost, program.NameDerives id name answer cost → cost ≤ maxHops →
      program.resolve id name ≠ .missing ∧
        (program.StarFree → program.resolve id name = answer)) := by
  refine ⟨fun declaration h => ?_, fun specifier item h => ?_, fun answer cost h hcost => ?_⟩
  · have hfound : program.resolve id name ≠ .missing := by simp [h]
    obtain ⟨cost, hcost, hderives⟩ := nameDerives_of_resolve hfound
    rw [h] at hcost hderives
    exact ⟨resolve_declares h, cost, Nat.lt_succ_iff.mp hcost, hderives⟩
  · have hfound : program.resolve id name ≠ .missing := by simp [h]
    obtain ⟨cost, hcost, hderives⟩ := nameDerives_of_resolve hfound
    rw [h] at hcost hderives
    obtain ⟨lookup, hlookup, hpackage⟩ := hderives
    exact ⟨⟨cost, Nat.lt_succ_iff.mp hcost, lookup, hlookup, hpackage⟩,
      hpackage.of_external (lookup?_scope_mem hlookup)⟩
  · -- Within the hops there is an answer. It has a derivation of its own, which is the
    -- given one if no stars give a choice.
    have hreach : cost < answer.reach (maxHops + 1) :=
      Nat.lt_of_lt_of_le (Nat.lt_succ_of_le hcost) (answer.le_reach _)
    have hfound := h.resolve_ne_missing hreach
    refine ⟨hfound, fun hprogram => ?_⟩
    obtain ⟨_, -, lookup, hlookup, hderives⟩ := nameDerives_of_resolve hfound
    obtain ⟨lookup', hlookup', hderives'⟩ := h
    obtain rfl := Option.some.inj (hlookup.symm.trans hlookup')
    exact hderives.unique hprogram (lookup?_scope_mem hlookup) hderives'

/-- The interface `name`, without properties, declared by the module `scope`. -/
def emptyInterface (name : String) (scope : ModuleId) : Declaration where
  name := name
  form := .interface [] []
  doc := {}
  scope := scope
  location := {}
  isGeneric := false

/-- Two modules export all that the other one exports, and one of them also
all that a third one exports, which declares `User`. The first module imports
this name, and another one from a package. -/
def ring : Program where
  modules := #[
    { path := ⟨true, ["app.ts"]⟩
      imports := [("User", ⟨"./left", .named "User"⟩), ("Model", ⟨"models", .default⟩)]
      links := [("./left", 1)] },
    { path := ⟨true, ["left.ts"]⟩
      starExports := ["./right", "./user"]
      links := [("./right", 2), ("./user", 3)] },
    { path := ⟨true, ["right.ts"]⟩
      starExports := ["./left"]
      links := [("./left", 1)] },
    { path := ⟨true, ["user.ts"]⟩
      declarations := [("User", emptyInterface "User" 3)]
      exports := [⟨"User", .interface, {}, true⟩] }]

/-- The way to `User` past the ring, which takes three hops. -/
theorem ring_derives : ring.NameDerives 0 (.identifier "User")
    (.declaration (emptyInterface "User" 3)) 3 := by
  have huser : ring.Derives (.exported ring.modules[3] "User")
      (.declaration (emptyInterface "User" 3)) 1 := .defers (.own rfl rfl) (.declared rfl)
  have hleft : ring.Derives (.exported ring.modules[1] "User")
      (.declaration (emptyInterface "User" 3)) 2 :=
    .defers (.star rfl rfl (by decide : "./user" ∈ _)) (.defers (.linked rfl) huser)
  exact ⟨_, rfl, .defers (.imported rfl rfl rfl) (.defers (.linked rfl) hleft)⟩

/-- A module imports `Member` under the name `User` from a second one, which
exports the `User` of a third one again as `Member`. -/
def relay : Program where
  modules := #[
    { path := ⟨true, ["app.ts"]⟩
      imports := [("User", ⟨"./names", .named "Member"⟩)]
      links := [("./names", 1)] },
    { path := ⟨true, ["names.ts"]⟩
      reexports := [("Member", ⟨"./user", .named "User"⟩)]
      links := [("./user", 2)] },
    { path := ⟨true, ["user.ts"]⟩
      declarations := [("User", emptyInterface "User" 2)]
      exports := [⟨"User", .interface, {}, true⟩] }]

/-- No module of the relay exports all of another one. -/
theorem relay_starFree : relay.StarFree := by
  simp [StarFree, relay]

/-- The way through the relay, which takes three hops too. -/
theorem relay_derives : relay.NameDerives 0 (.identifier "User")
    (.declaration (emptyInterface "User" 2)) 3 := by
  have huser : relay.Derives (.exported relay.modules[2] "User")
      (.declaration (emptyInterface "User" 2)) 1 := .defers (.own rfl rfl) (.declared rfl)
  have hnames : relay.Derives (.exported relay.modules[1] "Member")
      (.declaration (emptyInterface "User" 2)) 2 :=
    .defers (.reexported rfl rfl rfl) (.defers (.linked rfl) huser)
  exact ⟨_, rfl, .defers (.imported rfl rfl rfl) (.defers (.linked rfl) hnames)⟩

/-- The lookup goes round the ring until no hop is left, and finds the name
all the same. Without a ring, what is found is what is derived. -/
theorem resolve_follows_derivations_ring :
    ring.resolve 0 (.identifier "User") = .declaration (emptyInterface "User" 3) ∧
      ring.Declares (emptyInterface "User" 3) ∧
      ring.resolve 0 (.identifier "Model") = .external "models" "default" ∧
      (∃ cost ≤ maxHops + 1,
        ring.NameDerives 0 (.identifier "Model") (.external "models" "default") cost) ∧
      3 ≤ maxHops ∧ ring.resolve 0 (.identifier "User") ≠ .missing ∧
      relay.StarFree ∧
      relay.resolve 0 (.identifier "User") = .declaration (emptyInterface "User" 2) := by
  have huser : ring.resolve 0 (.identifier "User") = .declaration (emptyInterface "User" 3) := rfl
  have hpackage : SourceFiles.isRelative "models" = false := by decide +kernel
  have hmodel : ring.resolve 0 (.identifier "Model") = .external "models" "default" := by
    show (if SourceFiles.isRelative "models" then .missing else .external "models" "default") =
      Resolved.external "models" "default"
    simp [hpackage]
  have hhops : 3 ≤ maxHops := by decide
  obtain ⟨hdeclared, -, hcomplete⟩ := resolve_follows_derivations ring 0 (.identifier "User")
  obtain ⟨-, hexternal, -⟩ := resolve_follows_derivations ring 0 (.identifier "Model")
  obtain ⟨-, -, hexact⟩ := resolve_follows_derivations relay 0 (.identifier "User")
  exact ⟨huser, (hdeclared _ huser).1, hmodel, (hexternal _ _ hmodel).1, hhops,
    (hcomplete _ 3 ring_derives hhops).1, relay_starFree,
    (hexact _ 3 relay_derives hhops).2 relay_starFree⟩

end Program

end AppMetadata
