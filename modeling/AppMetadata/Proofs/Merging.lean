import AppMetadata.Module
import Mathlib.Data.List.Induction

/-!
# `AppMetadata.Proofs.Merging`: the declarations of a module, by name

A module has one entry for each name that its statements declare. The entry
is the first declaration of the name; if that is an interface, it has the
heritage and the members of all interfaces of the name. So what the loop over
the statements leaves behind is read off the list of declarations, without
its steps.

* `names_mergeInto`, `lookup_mergeInto`: what one declaration changes.
* `names_entered`, `lookup_entered`: what a whole run leaves.
* `declarations_merged_by_name`: the table of declarations of a module.
-/

set_option autoImplicit false

namespace AppMetadata

/-! ### Declarations of one name -/

namespace DeclarationForm

/-- Whether an interface is declared. -/
def isInterface : DeclarationForm → Bool
  | interface _ _ => true
  | _ => false

/-- What an interface extends; nothing for other declarations. -/
def interfaceHeritage : DeclarationForm → List TypeNode
  | interface heritage _ => heritage
  | _ => []

/-- The members of an interface; none for other declarations. -/
def interfaceMembers : DeclarationForm → List Member
  | interface _ members => members
  | _ => []

/-- A form to which the interfaces among `forms` are added, if it is an
interface itself. -/
def withInterfaces (form : DeclarationForm) (forms : List DeclarationForm) : DeclarationForm :=
  match form with
  | interface heritage members =>
    interface (heritage ++ forms.flatMap interfaceHeritage)
      (members ++ forms.flatMap interfaceMembers)
  | form => form

/-- Merging one form after another adds all interfaces at once. -/
theorem foldl_merge (form : DeclarationForm) (forms : List DeclarationForm) :
    forms.foldl merge form = form.withInterfaces forms := by
  induction forms generalizing form with
  | nil => cases form <;> simp [withInterfaces]
  | cons next forms ih =>
    rw [List.foldl_cons, ih]
    cases form <;> cases next <;>
      simp [merge, withInterfaces, interfaceHeritage, interfaceMembers]

/-- Only an interface adds to a form, and only to an interface. -/
theorem merge_of_not_interfaces {first second : DeclarationForm}
    (h : (first.isInterface && second.isInterface) = false) : first.merge second = first := by
  cases first <;> cases second <;> simp_all [merge, isInterface]

/-- What is merged stays of its kind. -/
theorem isInterface_withInterfaces (form : DeclarationForm) (forms : List DeclarationForm) :
    (form.withInterfaces forms).isInterface = form.isInterface := by
  cases form <;> rfl

end DeclarationForm

/-- The entry for declarations of one name, in their order: the first of them,
with all interfaces among the later ones if it is an interface. -/
def Declaration.merged? : List Declaration → Option Declaration
  | [] => none
  | first :: later =>
    some { first with form := first.form.withInterfaces (later.map (·.form)) }

/-- One declaration more of the name is merged into the entry so far. -/
theorem Declaration.merged?_concat (declared : List Declaration) (last : Declaration) :
    Declaration.merged? (declared ++ [last]) =
      some (match Declaration.merged? declared with
        | none => last
        | some first => { first with form := first.form.merge last.form }) := by
  cases declared with
  | nil => simp [Declaration.merged?, ← DeclarationForm.foldl_merge]
  | cons first later =>
    simp [Declaration.merged?, ← DeclarationForm.foldl_merge]

/-- The declaration in a statement. -/
def Statement.declaration? : Statement → Option Declaration
  | .declare declaration | .exportDeclaration declaration _ => some declaration
  | _ => none

namespace Module

variable {table : Table Declaration} {declaration : Declaration}

/-! ### One declaration -/

/-- A declaration adds its name at the end, unless the table has it. -/
theorem names_mergeInto (declaration : Declaration) (table : Table Declaration) :
    Table.names (mergeInto declaration table) =
      if declaration.name ∈ table.names then table.names
      else table.names ++ [declaration.name] := by
  induction table with
  | nil => simp [mergeInto, Table.names]
  | cons entry entries ih =>
    obtain ⟨name, first⟩ := entry
    unfold mergeInto
    by_cases h : name = declaration.name
    · simp [h, Table.names]
    · have h' : ¬ declaration.name = name := fun e => h e.symm
      simp only [Table.names] at ih
      simp only [h, if_false, Table.names, List.map_cons, ih, List.mem_cons, h', false_or]
      split <;> rename_i hm <;> simp [hm]

/-- Under its own name a declaration is merged into the first one, or is the
first one. -/
theorem lookup_mergeInto_self (declaration : Declaration) (table : Table Declaration) :
    (mergeInto declaration table).lookup declaration.name =
      some (match table.lookup declaration.name with
        | none => declaration
        | some first => { first with form := first.form.merge declaration.form }) := by
  induction table with
  | nil => simp [mergeInto]
  | cons entry entries ih =>
    obtain ⟨name, first⟩ := entry
    unfold mergeInto
    by_cases h : name = declaration.name
    · simp [h]
    · have h' : (declaration.name == name) = false := by simpa using fun e => h e.symm
      simp [h, List.lookup_cons, h', ih]

/-- The entries of other names stay as they are. -/
theorem lookup_mergeInto_of_ne {name : String} (h : name ≠ declaration.name)
    (table : Table Declaration) :
    (mergeInto declaration table).lookup name = table.lookup name := by
  induction table with
  | nil =>
    have h' : (name == declaration.name) = false := by simpa using h
    simp [mergeInto, List.lookup_cons, h']
  | cons entry entries ih =>
    obtain ⟨known, first⟩ := entry
    unfold mergeInto
    split
    · next hk =>
      have h' : (name == known) = false := by simpa [hk] using h
      simp [List.lookup_cons, h']
    · simp [List.lookup_cons, ih]

/-- A declaration that adds nothing to the entry of its name leaves the whole
table as it is. -/
theorem mergeInto_eq_self {first : Declaration}
    (hlookup : table.lookup declaration.name = some first)
    (hmerge : first.form.merge declaration.form = first.form) :
    mergeInto declaration table = table := by
  induction table with
  | nil => simp at hlookup
  | cons entry entries ih =>
    obtain ⟨known, found⟩ := entry
    unfold mergeInto
    by_cases h : known = declaration.name
    · have hfound : found = first := by simpa [h] using hlookup
      simp [h, hfound, hmerge]
    · have h' : (declaration.name == known) = false := by simpa using fun e => h e.symm
      rw [List.lookup_cons, h'] at hlookup
      simp [h, ih hlookup]

/-! ### All declarations -/

/-- The table that a list of declarations leaves. -/
def entered (declared : List Declaration) : Table Declaration :=
  declared.foldl (fun table declaration => mergeInto declaration table) []

/-- The last declaration is merged last. -/
theorem entered_concat (declared : List Declaration) (last : Declaration) :
    entered (declared ++ [last]) = mergeInto last (entered declared) := by
  simp [entered]

/-- A statement changes the table by its declaration and by nothing else; in
particular an export clause leaves it alone. -/
theorem declarations_enter (module : Module) (statement : Statement) :
    (module.enter statement).declarations =
      match statement.declaration? with
      | none => module.declarations
      | some declaration => mergeInto declaration module.declarations := by
  cases statement with
  | exportClause specifiers source =>
    have hspecifier (module : Module) (item : ExportSpecifier) :
        (enterSpecifier source module item).declarations = module.declarations := by
      unfold enterSpecifier addExport
      split
      · rfl
      · split <;> rfl
    show (specifiers.foldl (enterSpecifier source) module).declarations = module.declarations
    induction specifiers generalizing module with
    | nil => rfl
    | cons item specifiers ih => rw [List.foldl_cons, ih, hspecifier]
  | _ => rfl

/-- The table of a module is that of the declarations among its statements. -/
theorem declarations_ofStatements (path : Path) (statements : List Statement) :
    (ofStatements path statements).declarations =
      entered (statements.filterMap Statement.declaration?) := by
  induction statements using List.reverseRecOn with
  | nil => rfl
  | append_singleton statements statement ih =>
    have hstep : (ofStatements path (statements ++ [statement])).declarations =
        ((ofStatements path statements).enter statement).declarations := by
      simp [ofStatements]
    rw [hstep, declarations_enter, ih, List.filterMap_append]
    cases hdeclaration : statement.declaration? with
    | none => simp [hdeclaration]
    | some declaration => simp [hdeclaration, entered_concat]

/-- The names of a run: each once, where it occurs first. -/
theorem names_entered (declared : List Declaration) :
    (entered declared).names = (declared.map (·.name)).eraseDups := by
  induction declared using List.reverseRecOn with
  | nil => rfl
  | append_singleton declared last ih =>
    rw [entered_concat, names_mergeInto, ih, List.map_append, List.eraseDups_append]
    by_cases hmem : last.name ∈ declared.map (·.name)
    · rw [if_pos (List.mem_eraseDups.mpr hmem)]
      simp [List.removeAll, List.mem_map.mp hmem]
    · rw [if_neg fun h => hmem (List.mem_eraseDups.mp h)]
      have hnew : ¬ ∃ declaration ∈ declared, declaration.name = last.name := by
        simpa using hmem
      simp [List.removeAll, hnew, List.eraseDups_cons]

/-- The entry of a run under a name: the declarations of this name, merged. -/
theorem lookup_entered (declared : List Declaration) (name : String) :
    (entered declared).lookup name = Declaration.merged? (declared.filter (·.name = name)) := by
  induction declared using List.reverseRecOn with
  | nil => rfl
  | append_singleton declared last ih =>
    rw [entered_concat, List.filter_append]
    by_cases hname : last.name = name
    · subst hname
      rw [lookup_mergeInto_self, ih]
      simp [Declaration.merged?_concat]
    · rw [lookup_mergeInto_of_ne (Ne.symm hname), ih]
      simp [hname]

/-- No name has two entries. -/
theorem nodup_names_entered (declared : List Declaration) : (entered declared).names.Nodup := by
  induction declared using List.reverseRecOn with
  | nil => exact List.nodup_nil
  | append_singleton declared last ih =>
    rw [entered_concat, names_mergeInto]
    split
    · exact ih
    · next hnew =>
      refine List.nodup_append.mpr ⟨ih, List.pairwise_singleton _ _, ?_⟩
      rintro name hname other hother rfl
      exact hnew (List.mem_singleton.mp hother ▸ hname)

/-- What is listed under a name is found under it, if names are listed once. -/
theorem lookup_of_mem {name : String} (hnodup : table.names.Nodup)
    (h : (name, declaration) ∈ table) : table.lookup name = some declaration := by
  obtain ⟨before, after, rfl⟩ := List.append_of_mem h
  refine List.lookup_eq_some_iff.mpr ⟨before, after, rfl, fun entry hentry => bne_iff_ne.mpr ?_⟩
  rw [Table.names, List.map_append] at hnodup
  have hdistinct := (List.nodup_append.mp hnodup).2.2 entry.1 (List.mem_map_of_mem hentry)
  exact Ne.symm (hdistinct name (by simp))

/-- An entry is one of the declarations, to which interfaces may be added. -/
theorem exists_first_of_mem_entered {declared : List Declaration}
    (h : declaration ∈ (entered declared).values) :
    ∃ first ∈ declared, ∃ more,
      declaration = { first with form := first.form.withInterfaces more } := by
  obtain ⟨⟨name, listed⟩, hentry, rfl⟩ := List.mem_map.mp h
  have hlookup := lookup_of_mem (nodup_names_entered declared) hentry
  rw [lookup_entered] at hlookup
  cases hnamed : declared.filter (·.name = name) with
  | nil =>
    rw [hnamed] at hlookup
    exact nomatch hlookup
  | cons first later =>
    rw [hnamed] at hlookup
    have hfirst : first ∈ declared.filter (·.name = name) := hnamed ▸ List.mem_cons_self ..
    exact ⟨first, (List.mem_filter.mp hfirst).1, _, (Option.some.inj hlookup).symm⟩

/-- A declaration under a taken name is ignored, wherever it stands, unless
it and the first of the name are interfaces. -/
theorem entered_eq_without {before : List Declaration} {first later : Declaration}
    (after : List Declaration)
    (hfirst : before.find? (·.name = later.name) = some first)
    (hkind : (first.form.isInterface && later.form.isInterface) = false) :
    entered (before ++ later :: after) = entered (before ++ after) := by
  -- The entry so far is of the kind of the first declaration.
  have hentry : ∃ entry, (entered before).lookup later.name = some entry ∧
      entry.form.isInterface = first.form.isInterface := by
    rw [← List.head?_filter] at hfirst
    obtain ⟨same, hsame⟩ := List.head?_eq_some_iff.mp hfirst
    rw [lookup_entered, hsame]
    exact ⟨_, rfl, DeclarationForm.isInterface_withInterfaces ..⟩
  obtain ⟨entry, hlookup, hform⟩ := hentry
  have hself : mergeInto later (entered before) = entered before := by
    refine mergeInto_eq_self hlookup (DeclarationForm.merge_of_not_interfaces ?_)
    rw [hform, hkind]
  have hbefore : entered (before ++ [later]) = entered before := by
    rw [entered_concat, hself]
  calc entered (before ++ later :: after)
      = after.foldl (fun table declaration => mergeInto declaration table)
          (entered (before ++ [later])) := by simp [entered]
    _ = entered (before ++ after) := by rw [hbefore]; simp [entered]

/-! ### The table of a module -/

/-- The table of declarations lists every declared name once, in the order in
which the names first occur, with the first declaration of the name: all that
it says is kept, and if it is an interface, the heritage and members of every
other interface of the name follow its own. A declaration changes no entry but
that of its name, and none at all if the name is taken and one of the two is
no interface. -/
theorem declarations_merged_by_name (path : Path) (statements : List Statement) :
    let declared := fun statements : List Statement => statements.filterMap Statement.declaration?
    let table := (ofStatements path statements).declarations
    table.names = ((declared statements).map (·.name)).eraseDups ∧ table.names.Nodup ∧
      (∀ name, table.lookup name =
        Declaration.merged? ((declared statements).filter (·.name = name))) ∧
      ∀ before statement after later, statements = before ++ statement :: after →
        statement.declaration? = some later →
        (∀ name ≠ later.name,
          table.lookup name = (ofStatements path (before ++ after)).declarations.lookup name) ∧
        ∀ first, (declared before).find? (·.name = later.name) = some first →
          (first.form.isInterface && later.form.isInterface) = false →
          table = (ofStatements path (before ++ after)).declarations := by
  intro declared table
  have htable : table = entered (declared statements) := declarations_ofStatements path statements
  refine ⟨?_, ?_, fun name => ?_, fun before statement after later hstatements hlater => ?_⟩
  · rw [htable, names_entered]
  · rw [htable]
    exact nodup_names_entered _
  · rw [htable, lookup_entered]
  · -- Both tables are those of lists of declarations, of which one has `later` in
    -- addition.
    have hdeclared : declared statements = declared before ++ later :: declared after := by
      simp [declared, hstatements, hlater]
    have hothers : (ofStatements path (before ++ after)).declarations =
        entered (declared before ++ declared after) := by
      rw [declarations_ofStatements, List.filterMap_append]
    rw [htable, hothers, hdeclared]
    constructor
    · intro name hname
      simp [lookup_entered, Ne.symm hname]
    · intro first hfirst hkind
      exact entered_eq_without _ hfirst hkind

/-- Statements in which one name is declared as an interface, a class, an
exported interface and an enum, and another name in between. -/
def repeatedNames : List Statement :=
  [ .declare ⟨"Model", .interface [] [⟨"first", .signature none, false, {}, {}⟩],
      { description := "The model." }, 0, {}, false⟩,
    .declare ⟨"Other", .typeAlias ⟨.keyword .string, {}⟩, {}, 0, {}, false⟩,
    .declare ⟨"Model", .classType none [⟨"field", .field none, false, {}, {}⟩], {}, 0, {}, true⟩,
    .exportDeclaration ⟨"Model", .interface [⟨.keyword .bigint, {}⟩]
      [⟨"second", .signature none, false, {}, {}⟩], { description := "More." }, 0, {}, true⟩ {},
    .declare ⟨"Model", .enum [⟨"Case", .enumMember none, false, {}, {}⟩], {}, 0, {}, false⟩ ]

/-- The two interfaces are one, with the doc of the first, and the table is
the same without the class between them. -/
theorem repeatedNames_merged :
    let table := (ofStatements ⟨true, ["app.ts"]⟩ repeatedNames).declarations
    table.names = ["Model", "Other"] ∧
      table.lookup "Model" = some ⟨"Model", .interface [⟨.keyword .bigint, {}⟩]
        [⟨"first", .signature none, false, {}, {}⟩, ⟨"second", .signature none, false, {}, {}⟩],
        { description := "The model." }, 0, {}, false⟩ ∧
      table = (ofStatements ⟨true, ["app.ts"]⟩ (repeatedNames.eraseIdx 2)).declarations := by
  obtain ⟨hnames, -, hlookup, hwithout⟩ :=
    declarations_merged_by_name ⟨true, ["app.ts"]⟩ repeatedNames
  refine ⟨hnames, hlookup "Model", ?_⟩
  exact (hwithout (repeatedNames.take 2) _ (repeatedNames.drop 3) _ rfl rfl).2 _ rfl rfl

end Module

end AppMetadata
