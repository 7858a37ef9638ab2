import AppMetadata.Proofs.DepthLimit
import AppMetadata.Proofs.Expansion.PropertyLists
import AppMetadata.Proofs.Expansion.Transparency

/-!
# `AppMetadata.Proofs.Expansion.Spelling`: one model in several spellings

An object type with bases and members of its own can be declared as an
interface, as a class, or as an alias of an intersection (`Spells`). The three
are expanded by different functions: an interface puts its own properties in
the place of inherited ones and gives the name itself, an alias describes the
parts of its target one level deeper and gets its name afterwards. If no own
name occurs twice or is inherited, the difference cannot be seen.

* `declaring_alike`, `twins_isTransparent`: what the rest of the program sees
  of the declaration.
* `expand_cutOff`: a spelling is expanded as the interface is.
* `levelsAgree_of_twins`: so all nodes are described alike.
* `describe_spelling_irrelevant`: any two spellings.
-/

set_option autoImplicit false

namespace AppMetadata

/-- The program in which a module has a declaration in place of what it
declares under the same name. -/
def Program.declaring (program : Program) (scope : ModuleId) (declaration : Declaration) :
    Program :=
  ⟨program.modules.modify scope fun module =>
    { module with declarations := module.declarations.put declaration.name declaration }⟩

/-- The ways to declare an object type with the bases `heritage` and the
members `own`. The members of a class are fields. -/
inductive DeclarationForm.Spells (heritage : List TypeNode) (own : List Member) :
    DeclarationForm → Prop
  | interface {members : List Member} (hmembers : List.Forall₂ (Member.Alike Eq) members own) :
    Spells heritage own (.interface heritage members)
  | classType {base : Option TypeNode} {members : List Member} (hbase : base.toList = heritage)
    (hmembers : List.Forall₂ (Member.Alike Eq) members own) :
    Spells heritage own (.classType base members)
  | intersection {members : List Member} {whole body : Location}
    (hmembers : List.Forall₂ (Member.Alike Eq) members own) :
    Spells heritage own (.typeAlias ⟨.intersection (heritage ++ [⟨.object members, body⟩]), whole⟩)
  | object {members : List Member} {whole : Location} (hnone : heritage = [])
    (hmembers : List.Forall₂ (Member.Alike Eq) members own) :
    Spells heritage own (.typeAlias ⟨.object members, whole⟩)

namespace Expansion

/-! ### Names in two programs that differ in one declaration -/

/-- Equal declarations, or the two in which the programs differ. -/
def Twin (first second declaration declaration' : Declaration) : Prop :=
  declaration = declaration' ∨ declaration = first ∧ declaration' = second

/-- What the two declarations have in common, all twins have. -/
theorem Twin.congr {α : Type} {first second declaration declaration' : Declaration}
    (h : Twin first second declaration declaration') (f : Declaration → α)
    (hf : f first = f second) : f declaration = f declaration' := by
  rcases h with rfl | ⟨rfl, rfl⟩
  · rfl
  · exact hf

/-- The two programs have twins at one name of one module and equal
declarations everywhere else. -/
theorem declaring_alike (program : Program) (scope : ModuleId) {first second : Declaration}
    (hname : first.name = second.name) :
    (program.declaring scope first).Alike (Twin first second) (fun _ _ => False)
      (program.declaring scope second) := by
  have hsame (module : LinkedModule) :
      module.Alike (Twin first second) (fun _ => False) module :=
    .refl fun _ _ _ => .inl rfl
  intro id
  simp only [Program.module?, Program.declaring, Array.getElem?_modify]
  split
  · cases program.modules[id]? with
    | none => exact .none
    | some module =>
      refine .some { hsame module with declarations := fun name => ?_ }
      dsimp only
      by_cases heq : name = first.name
      · rw [heq, Table.lookup_put_self, hname, Table.lookup_put_self]
        exact .some (.inr ⟨rfl, rfl⟩)
      · rw [Table.lookup_put_of_ne heq, Table.lookup_put_of_ne (hname ▸ heq)]
        exact (hsame module).declarations name
  · cases program.modules[id]? with
    | none => exact .none
    | some module => exact .some (hsame module)

section Twins

variable {program program' : Program} {first second : Declaration}
  (h : program.Alike (Twin first second) (fun _ _ => False) program')

include h

/-- A name denotes twins in the two programs. -/
theorem twins_resolve (scope : ModuleId) (name : EntityName) :
    (program.resolve scope name).Alike (Twin first second) (program'.resolve scope name) :=
  Program.resolve_alike h fun _ _ _ _ _ hhidden => hhidden

/-- So does an item of an import type. -/
theorem twins_resolveImport (scope : ModuleId) (specifier : String) (name : EntityName) :
    (program.resolveImport scope specifier name).Alike (Twin first second)
      (program'.resolveImport scope specifier name) :=
  Program.resolveImport_alike h fun _ _ _ _ _ _ hhidden => hhidden

/-- The same types are model wrappers, as long as both declarations have type
parameters or neither does. -/
theorem twins_wrapperArgs? (hgeneric : first.isGeneric = second.isGeneric) (settings : Settings)
    (type : TypeNode) :
    wrapperArgs? program settings type = wrapperArgs? program' settings type := by
  unfold wrapperArgs?
  split
  · next reference _ =>
    have hwrapper : isWrapper program settings reference = isWrapper program' settings reference :=
      Simulation.isWrapper_eq rfl (·.congr (·.isGeneric) hgeneric) reference.args reference.args
        (twins_resolve h reference.scope reference.name)
    rw [hwrapper]
  · rfl
  · rfl

/-- A blueprint has the same name, as the twins are called the same. -/
theorem twins_blueprintName? (hname : first.name = second.name) (blueprint : TypeNode) :
    blueprintName? program blueprint = blueprintName? program' blueprint := by
  obtain ⟨form, location⟩ := blueprint
  cases form with
  | reference reference =>
    exact Simulation.blueprintName?_reference (·.congr (·.name) hname) reference.args reference.args
      location (twins_resolve h reference.scope reference.name)
  | imported link =>
    exact Simulation.blueprintName?_imported (·.congr (·.name) hname) link.args link.args location
      fun item _ => twins_resolveImport h link.scope link.specifier item
  | _ => rfl

/-- An alias that no reference is followed through says nothing about the
transparency of others. -/
theorem twins_isTransparent
    (hfirst : ∀ target, first.form = .typeAlias target →
      ∀ follow, typeTransparent follow target = false)
    (hsecond : ∀ target, second.form ≠ .typeAlias target) (hops : Nat) :
    isTransparent program hops = isTransparent program' hops := by
  induction hops with
  | zero => rfl
  | succ hops ih =>
    have hnamed : (plainTarget? first).any (isTransparent program hops) = false := by
      rw [Option.any_eq_false]
      intro target htarget
      have hnot := hfirst target (form_of_plainTarget? htarget)
      cases hops <;> simp [isTransparent, hnot]
    have hnone : plainTarget? second = none :=
      Option.eq_none_iff_forall_ne_some.mpr fun target htarget =>
        hsecond target (form_of_plainTarget? htarget)
    -- Where the programs differ, both answers are false, on the one side since the
    -- alias is not transparent and on the other since there is no alias.
    have hfollow (reference : Reference) :
        (aliasTarget? program reference).any (isTransparent program hops) =
          (aliasTarget? program' reference).any (isTransparent program' hops) := by
      have hresolve := twins_resolve h reference.scope reference.name
      rw [aliasTarget?_eq, aliasTarget?_eq, ← ih]
      generalize program.resolve reference.scope reference.name = answer,
        program'.resolve reference.scope reference.name = answer' at hresolve
      cases hresolve with
      | external | missing => rfl
      | declaration htwin =>
        rcases htwin with rfl | ⟨rfl, rfl⟩
        · rfl
        · rw [resolvedTarget?, resolvedTarget?, hnamed, hnone]
          rfl
    show typeTransparent _ = typeTransparent _
    rw [funext hfollow]

end Twins

/-! ### The expansion of each spelling -/

/-- An object type under the name of a declaration. -/
def finished (declaration : Declaration) (ctx : Context) (properties : List Shape) : Shape :=
  ({ kind := .object, typeName := some declaration.name, propertyPath := ctx.basePath,
     properties } : Shape).document declaration.doc

section Expand

variable {program : Program} {settings : Settings} {levels : Nat} {declaration : Declaration}
  {ctx : Context}

/-- An interface or class gives the name itself. -/
theorem expand_body {heritage : List TypeNode} {members : List Member}
    (hbody : ∀ w : Walker Attempt,
      w.describeDeclaration declaration ctx = w.describeBody declaration heritage members ctx)
    (hgeneric : declaration.isGeneric = false) (hexpands : ctx.expands = true) :
    ofDeclaration declaration <$>
        describeWithin program settings (levels + 1) (.declaration declaration) ctx =
      finished declaration ctx <$>
        (walkerWithin program settings levels).bodyProperties heritage members ctx := by
  rw [describeWithin_succ, Walker.describeNode, hbody, Walker.describeBody, hexpands, hgeneric]
  cases (walkerWithin program settings levels).bodyProperties heritage members ctx <;> rfl

/-- An alias describes its target in the same place, where there is an owner. -/
theorem describeWithin_alias {target : TypeNode} (hform : declaration.form = .typeAlias target)
    (hwrapper : wrapperArgs? program settings target = none) {owner : String}
    (howner : ctx.owner = some owner) :
    describeWithin program settings (levels + 1) (.declaration declaration) ctx =
      placed ctx <$> describeWithin program settings levels (.type target) ctx := by
  have howned : ctx.ownedBy declaration.name = ctx := by
    obtain ⟨parentPath, flattens, owner'⟩ := ctx
    cases howner
    rfl
  rw [describeWithin_succ, Walker.describeNode, Walker.describeDeclaration, hform]
  simp only [walkerWithin, hwrapper, howned]
  cases describeWithin program settings levels (.type target) ctx <;> rfl

/-- An object type has the properties of its members. -/
theorem describeWithin_object {members : List Member} {location : Location} :
    describeWithin program settings (levels + 1) (.type ⟨.object members, location⟩) ctx =
      (fun properties => placed ctx { kind := .object, properties }) <$>
        (walkerWithin program settings levels).describeMembers members ctx := by
  have hnode : (walkerWithin program settings levels).describeNode
      (.type ⟨.object members, location⟩) ctx = (do
        let properties ← (walkerWithin program settings levels).describeMembers members ctx
        return { kind := .object, properties }) :=
    rfl
  rw [describeWithin_succ, hnode]
  cases (walkerWithin program settings levels).describeMembers members ctx <;> rfl

/-- An intersection has the properties of its parts. -/
theorem describeWithin_intersection {parts : List TypeNode} {location : Location} :
    describeWithin program settings (levels + 1) (.type ⟨.intersection parts, location⟩) ctx =
      (fun properties => placed ctx { kind := .object, properties }) <$>
        (walkerWithin program settings levels).flattened parts ctx := by
  have hnode : (walkerWithin program settings levels).describeNode
      (.type ⟨.intersection parts, location⟩) ctx = (do
        let properties ← (walkerWithin program settings levels).flattened parts ctx
        return { kind := .object, properties }) :=
    rfl
  rw [describeWithin_succ, hnode]
  cases (walkerWithin program settings levels).flattened parts ctx <;> rfl

/-- What is placed twice gets its name last. -/
theorem ofDeclaration_placed_placed (properties : List Shape) :
    ofDeclaration declaration (placed ctx (placed ctx { kind := .object, properties })) =
      finished declaration ctx properties := by
  rw [placed_placed]
  rfl

/-- An alias gets its name last. -/
theorem expand_alias {target : TypeNode} (hform : declaration.form = .typeAlias target)
    (hwrapper : wrapperArgs? program settings target = none) {owner : String}
    (howner : ctx.owner = some owner) {properties : Attempt (List Shape)}
    (htarget : describeWithin program settings levels (.type target) ctx =
      (fun properties => placed ctx { kind := .object, properties }) <$> properties) :
    ofDeclaration declaration <$>
        describeWithin program settings (levels + 1) (.declaration declaration) ctx =
      finished declaration ctx <$> properties := by
  rw [describeWithin_alias hform hwrapper howner, htarget]
  cases properties with
  | error e => rfl
  | ok properties => exact congrArg Except.ok (ofDeclaration_placed_placed properties)

end Expand

/-! ### Two programs -/

section Walks

variable {program : Program} {scope : ModuleId} {settings : Settings} {heritage : List TypeNode}
  {own : List Member} {first : Declaration}

/-- The interface with the bases `heritage` and the members `own`, under the
name and the documentation of a declaration. -/
def asInterface (scope : ModuleId) (heritage : List TypeNode) (own : List Member)
    (declaration : Declaration) : Declaration where
  name := declaration.name
  form := .interface heritage own
  doc := declaration.doc
  scope := scope
  location := {}
  isGeneric := false

/-- No own name occurs twice or is the name of an inherited property. -/
structure Disjoint (program : Program) (settings : Settings) (heritage : List TypeNode)
    (own : List Member) : Prop where
  distinct : (own.map (·.name)).Nodup
  inherited : ∀ type ∈ heritage, ∀ (ctx : Context) (shape : Shape),
    (describe program settings (.type type) ctx.flattening : Attempt Shape) = .ok shape →
      ∀ property ∈ shape.properties, property.propertyName ∉ own.map (·.name)

/-- The walkers of two programs on two levels agree about types, members and
declarations, up to the limit on nested nodes. -/
abbrev LevelsAgree (program program' : Program) (settings : Settings) (levels more : Nat) : Prop :=
  (walkerWithin program settings levels).AgreeThroughout (cutting settings.maxDepth) Eq
    (Member.Alike Eq) Eq (walkerWithin program' settings more)

/-- Whatever number of levels the heritage is described with, no own name is
among the inherited properties. -/
theorem Disjoint.flattened {program' : Program} (h : Disjoint program' settings heritage own)
    {levels : Nat} (hlevels : levels ≤ settings.maxDepth) {ctx : Context} {inherited : List Shape}
    (hinherited : (walkerWithin program' settings levels).flattened heritage ctx = .ok inherited) :
    ∀ property ∈ inherited, property.propertyName ∉ own.map (·.name) := by
  obtain ⟨parts, hparts, rfl⟩ := Walker.flattened_eq_ok.mp hinherited
  intro property hproperty
  obtain ⟨part, hpart, hproperty⟩ := List.mem_flatMap.mp hproperty
  obtain ⟨type, htype, hdescribe⟩ := Attempt.exists_of_mem_right hparts hpart
  -- With all levels the answer is the same.
  have hall := describe_of_describeWithin hlevels hdescribe
  exact h.inherited type htype ctx part hall property hproperty

/-- Own properties are put behind the inherited ones. -/
theorem Disjoint.foldl_override {program' : Program} (h : Disjoint program' settings heritage own)
    {levels : Nat} (hlevels : levels ≤ settings.maxDepth) {ctx : Context}
    {inherited properties : List Shape}
    (hinherited : (walkerWithin program' settings levels).flattened heritage ctx = .ok inherited)
    (hown : (walkerWithin program' settings levels).describeMembers own ctx = .ok properties) :
    properties.foldl override inherited = inherited ++ properties := by
  have hnames := names_of_describeMembers hown
  refine foldl_override_eq_append (hnames ▸ h.distinct) fun property hproperty => ?_
  rw [hnames]
  exact h.flattened hlevels hinherited property hproperty

/-- The parts of an intersection are described in order, so the last one comes
after all of the heritage. -/
theorem flattened_concat (w : Walker Attempt) (types : List TypeNode) (type : TypeNode)
    (ctx : Context) :
    w.flattened (types ++ [type]) ctx =
      (do
        let inherited ← w.flattened types ctx
        let last ← w.describe (.type type) ctx.flattening
        return inherited ++ last.properties) := by
  simp only [Walker.flattened, List.mapM_append, List.mapM_cons, List.mapM_nil]
  cases types.mapM fun type => w.describe (.type type) ctx.flattening with
  | error e => rfl
  | ok parts =>
    cases w.describe (.type type) ctx.flattening with
    | error e => rfl
    | ok last =>
      have happend : (parts ++ [last]).flatMap (·.properties) =
          parts.flatMap (·.properties) ++ last.properties := by
        simp
      exact congrArg Except.ok happend

/-- The properties of an intersection, whose last part stands for the own
members and is described one level deeper than those of an interface. -/
theorem flattened_cutOff {program' : Program} {levels more : Nat}
    (hall : ∀ fewer ≤ levels, LevelsAgree program program' settings fewer more)
    (hmore : more ≤ settings.maxDepth) (hdisjoint : Disjoint program' settings heritage own)
    {members : List Member} (hmembers : List.Forall₂ (Member.Alike Eq) members own)
    (body : Location) (ctx : Context) :
    CutOff settings.maxDepth
      ((walkerWithin program settings levels).flattened (heritage ++ [⟨.object members, body⟩]) ctx)
      ((walkerWithin program' settings more).bodyProperties heritage own ctx) := by
  let S := cutting settings.maxDepth
  have hinherited := S.flattened (hall levels le_rfl).toAgree
    (List.forall₂_same.mpr fun (type : TypeNode) (_ : type ∈ heritage) => rfl) ctx
  rw [flattened_concat]
  refine CutOff.bind_of_ok hinherited fun inherited hok => ?_
  cases levels with
  | zero => exact .inr ⟨_, rfl⟩
  | succ levels =>
    -- The last part takes one more level than the members of an interface do.
    have hobject : (walkerWithin program settings (levels + 1)).describe
        (.type ⟨.object members, body⟩) ctx.flattening = _ := describeWithin_object
    have hown := S.describeMembers (hall levels (Nat.le_succ levels)).toAgree hmembers ctx
    rw [hobject, bind_map_left]
    refine CutOff.bind_of_ok hown fun properties hproperties => ?_
    rw [hdisjoint.foldl_override hmore hok hproperties]
    exact .refl _

/-- A declaration in any spelling is expanded as the interface is. -/
theorem expand_cutOff {program' : Program} {levels more : Nat}
    (hall : ∀ fewer ≤ levels, LevelsAgree program program' settings fewer more)
    (hmore : more ≤ settings.maxDepth) (hdisjoint : Disjoint program' settings heritage own)
    (hspells : first.form.Spells heritage own) (hgeneric : first.isGeneric = false)
    {ctx : Context} (hexpands : ctx.expands = true) {owner : String}
    (howner : ctx.owner = some owner) :
    CutOff settings.maxDepth
      (ofDeclaration first <$>
        describeWithin program settings (levels + 1) (.declaration first) ctx)
      (ofDeclaration (asInterface scope heritage own first) <$>
        describeWithin program' settings (more + 1)
          (.declaration (asInterface scope heritage own first)) ctx) := by
  let S := cutting settings.maxDepth
  have hheritage : List.Forall₂ Eq heritage heritage := List.forall₂_same.mpr fun _ _ => rfl
  have hinterface : ofDeclaration (asInterface scope heritage own first) <$>
      describeWithin program' settings (more + 1)
        (.declaration (asInterface scope heritage own first)) ctx = _ :=
    expand_body (fun _ => rfl) rfl hexpands
  rw [hinterface]
  obtain ⟨name, form, doc, declared, location, isGeneric⟩ := first
  dsimp only at hspells hgeneric
  cases hspells with
  | interface hmembers =>
    rw [expand_body (fun _ => rfl) hgeneric hexpands]
    have hbody := S.bodyProperties (hall levels le_rfl).toAgree hheritage hmembers ctx
    exact CutOff.map hbody _
  | @classType base members hbase hmembers =>
    subst hbase
    rw [expand_body (fun _ => rfl) hgeneric hexpands]
    have hbody := S.bodyProperties (hall levels le_rfl).toAgree hheritage hmembers ctx
    exact CutOff.map hbody _
  | @intersection members whole body hmembers =>
    cases levels with
    | zero => exact .inr ⟨_, rfl⟩
    | succ levels =>
      rw [expand_alias rfl rfl howner describeWithin_intersection]
      exact CutOff.map (flattened_cutOff (fun fewer hle => hall fewer (Nat.le_succ_of_le hle)) hmore
        hdisjoint hmembers body ctx) _
  | @object members whole hnone hmembers =>
    subst hnone
    cases levels with
    | zero => exact .inr ⟨_, rfl⟩
    | succ levels =>
      rw [expand_alias rfl rfl howner describeWithin_object]
      have hown := S.describeMembers (hall levels (Nat.le_succ levels)).toAgree hmembers ctx
      -- Nothing is inherited, so there is nothing to put own properties behind.
      have hnone : (walkerWithin program' settings more).flattened [] ctx = .ok [] := rfl
      have hbody : (walkerWithin program' settings more).bodyProperties [] own ctx = (do
          let properties ← (walkerWithin program' settings more).describeMembers own ctx
          return properties.foldl override []) :=
        rfl
      rw [hbody, ← bind_pure ((walkerWithin program settings levels).describeMembers members ctx)]
      refine CutOff.map (CutOff.bind_of_ok hown fun properties hproperties => ?_) _
      rw [hdisjoint.foldl_override hmore hnone hproperties]
      exact .refl _

/-- So it is where it is expanded under its name, if the nodes on all levels
below are described alike. -/
theorem expandDeclaration_cutOff {program' : Program} {levels more : Nat} (hle : levels ≤ more)
    (hall : ∀ fewer < levels, LevelsAgree program program' settings fewer (more - 1))
    (hmore : more ≤ settings.maxDepth) (hdisjoint : Disjoint program' settings heritage own)
    (hspells : first.form.Spells heritage own) (hgeneric : first.isGeneric = false)
    {ctx : Context} (hexpands : ctx.expands = true) :
    CutOff settings.maxDepth
      ((walkerWithin program settings levels).expandDeclaration first ctx)
      ((walkerWithin program' settings more).expandDeclaration
        (asInterface scope heritage own first) ctx) := by
  cases levels with
  | zero => exact .inr ⟨first.location, rfl⟩
  | succ levels =>
    obtain ⟨rest, rfl⟩ : ∃ rest, more = rest + 1 := ⟨more - 1, by omega⟩
    -- An alias asks its context for a name, and there always is one inside of a
    -- declaration.
    obtain ⟨owner, howner⟩ : ∃ owner, (ctx.within first.name).owner = some owner := by
      simp only [Context.within]
      split
      · cases ctx.owner with
        | none => exact ⟨_, rfl⟩
        | some owner => exact ⟨owner, rfl⟩
      · exact ⟨_, rfl⟩
    have hwithin : (ctx.within first.name).expands = true := hexpands
    exact CutOff.bind (.refl (note (.expanding first.name ctx.basePath))) fun _ =>
      expand_cutOff (fun fewer hfewer => hall fewer (Nat.lt_succ_of_le hfewer))
        (Nat.le_of_succ_le hmore) hdisjoint hspells hgeneric hwithin howner

/-! ### The use of each spelling -/

/-- The target of an alias that spells an object type is an object or an
intersection, and no reference is followed from either. -/
theorem typeTransparent_of_spells {target : TypeNode}
    (hspells : DeclarationForm.Spells heritage own (.typeAlias target))
    (follow : Reference → Bool) : typeTransparent follow target = false := by
  cases hspells <;> rfl

/-- So such an alias is never followed itself. -/
theorem isTransparent_of_spells {target : TypeNode}
    (hspells : DeclarationForm.Spells heritage own (.typeAlias target)) (program : Program)
    (hops : Nat) : isTransparent program hops target = false := by
  cases hops <;> exact typeTransparent_of_spells hspells _

/-- Nor is its target a model wrapper. -/
theorem wrapperArgs?_of_spells {target : TypeNode}
    (hspells : DeclarationForm.Spells heritage own (.typeAlias target)) (program : Program)
    (settings : Settings) : wrapperArgs? program settings target = none := by
  cases hspells <;> rfl

/-- A declaration in any spelling is used under its name alone. -/
theorem describeUse_of_spells (hspells : first.form.Spells heritage own) (w : Walker Attempt)
    (location : Location) (ctx : Context) :
    w.describeUse first location ctx = w.describeNamed first ctx := by
  unfold Walker.describeUse
  cases hform : first.form with
  | typeAlias target =>
    rw [hform] at hspells
    simp only [wrapperArgs?_of_spells hspells, isTransparent_of_spells hspells, Bool.and_false,
      Bool.false_eq_true, if_false]
  | interface | classType | enum => rfl

end Walks

/-! ### The whole walk -/

section Levels

variable {program program' : Program} {scope : ModuleId} {settings : Settings}
  {heritage : List TypeNode} {own : List Member} {first : Declaration}
  (h : program.Alike (Twin first (asInterface scope heritage own first)) (fun _ _ => False)
    program')
  (hspells : first.form.Spells heritage own) (hgeneric : first.isGeneric = false)

include h hspells hgeneric

/-- Targets that are equal are model wrappers alike and transparent alike. -/
theorem targetsAgree_of_twins {levels more : Nat} (target : TypeNode) :
    (walkerWithin program settings levels).TargetsAgree Eq (walkerWithin program' settings more)
      target target := by
  have hfirst (target : TypeNode) (hform : first.form = .typeAlias target)
      (follow : Reference → Bool) : typeTransparent follow target = false :=
    typeTransparent_of_spells (hform ▸ hspells) follow
  have hinterface (target : TypeNode) :
      (asInterface scope heritage own first).form ≠ .typeAlias target :=
    DeclarationForm.noConfusion
  refine ⟨rfl, ?_, congrFun (twins_isTransparent h hfirst hinterface _) target⟩
  have hwrapper : wrapperArgs? program settings target = wrapperArgs? program' settings target :=
    twins_wrapperArgs? h hgeneric settings target
  rw [walkerWithin, walkerWithin, hwrapper]
  cases wrapperArgs? program' settings target with
  | none => exact .none
  | some args =>
    refine .some ⟨List.forall₂_same.mpr fun _ _ => rfl, ?_⟩
    rw [funext (twins_blueprintName? h rfl)]

/-- Names are used alike if the nodes on all levels below are described
alike. -/
theorem usesAgree_of_twins (hdisjoint : Disjoint program' settings heritage own) {levels more : Nat}
    (hle : levels ≤ more) (hmore : more ≤ settings.maxDepth)
    (hbelow : LevelsAgree program program' settings levels more)
    (hall : ∀ fewer < levels, LevelsAgree program program' settings fewer (more - 1)) :
    (walkerWithin program settings levels).UsesAgree (cutting settings.maxDepth)
      (Twin first (asInterface scope heritage own first))
      (walkerWithin program' settings more) where
  name htwin := htwin.congr (·.name) rfl
  isGeneric htwin := htwin.congr (·.isGeneric) hgeneric
  use {declaration declaration'} htwin location ctx := by
    let S := cutting settings.maxDepth
    rcases htwin with rfl | ⟨hfirst, hsecond⟩
    · refine S.describeUse hbelow.toAgree (.refl .refl declaration) (hbelow.declaration rfl)
        (fun hform hform' => ?_) location ctx
      cases hform.symm.trans hform'
      exact targetsAgree_of_twins h hspells hgeneric _
    · -- The twins themselves: what they are linked by is the name, and in full they are
      -- expanded alike.
      subst hfirst
      have hname : declaration.name = declaration'.name := by rw [hsecond]; rfl
      have hnamed : (walkerWithin program' settings more).describeUse declaration' location ctx =
          (walkerWithin program' settings more).describeNamed declaration' ctx := by
        rw [hsecond]
        rfl
      rw [describeUse_of_spells hspells, hnamed]
      exact S.describeNamed hname fun hexpands => hsecond ▸
        expandDeclaration_cutOff hle hall hmore hdisjoint hspells hgeneric hexpands

/-- With as many levels or more, the second program describes every node as
the first one does. -/
theorem levelsAgree_of_twins (hdisjoint : Disjoint program' settings heritage own)
    {levels more : Nat} (hle : levels ≤ more) (hmore : more ≤ settings.maxDepth) :
    LevelsAgree program program' settings levels more := by
  let S := cutting settings.maxDepth
  -- A name is expanded two levels at once, so all levels below are needed.
  induction levels using Nat.strong_induction_on generalizing more with
  | _ levels ih =>
    cases levels with
    | zero =>
      exact
        { likeness := likeness_eq .refl id
          wrapper := rfl
          type := fun htype _ => htype ▸ .inr ⟨_, rfl⟩
          member := fun _ _ => .inr ⟨_, rfl⟩
          declaration := fun _ _ => .inr ⟨_, rfl⟩ }
    | succ levels =>
      obtain ⟨rest, rfl⟩ : ∃ rest, more = rest + 1 := ⟨more - 1, by omega⟩
      have hbelow : LevelsAgree program program' settings levels rest :=
        ih levels (Nat.lt_succ_self levels) (by omega) (by omega)
      have huses := usesAgree_of_twins h hspells hgeneric hdisjoint (by omega) (by omega) hbelow
        fun fewer hfewer => ih fewer (by omega) (by omega) (by omega)
      have hargs (args : List TypeNode) : ArgsAgree Eq program program' args args :=
        ⟨List.forall₂_same.mpr fun _ _ => rfl, by rw [funext (twins_blueprintName? h rfl)]⟩
      refine agreeThroughout_succ program settings hbelow ?name (fun heq => heq ▸ .refl .refl _)
        ?target
      case name =>
        rintro ⟨form, location⟩ _ rfl hname - ctx
        cases hname with
        | reference reference =>
          exact S.describeReference hbelow.toAgree huses (hargs _)
            (twins_resolve h reference.scope reference.name) location ctx
        | imported link =>
          exact S.describeImport hbelow.toAgree huses (hargs _)
            (fun item _ => twins_resolveImport h link.scope link.specifier item) location ctx
      case target =>
        rintro declaration _ rfl target target' hform hform'
        cases hform.symm.trans hform'
        exact targetsAgree_of_twins h hspells hgeneric target

end Levels

/-- A program with any spelling describes every node as the program with the
interface does, or it is cut off. -/
theorem spells_cutOff (program : Program) (scope : ModuleId) (settings : Settings)
    {heritage : List TypeNode} {own : List Member} {first : Declaration}
    (hspells : first.form.Spells heritage own) (hgeneric : first.isGeneric = false)
    (hdisjoint : Disjoint (program.declaring scope (asInterface scope heritage own first)) settings
      heritage own) (node : Node) (ctx : Context) :
    CutOff settings.maxDepth (describe (program.declaring scope first) settings node ctx)
      (describe (program.declaring scope (asInterface scope heritage own first)) settings node
        ctx) := by
  rw [describe_eq_describeWithin, describe_eq_describeWithin]
  have hname : first.name = (asInterface scope heritage own first).name := rfl
  have hlevels := levelsAgree_of_twins (declaring_alike program scope hname) hspells hgeneric
    hdisjoint le_rfl le_rfl
  cases node with
  | type type => exact hlevels.type rfl ctx
  | declaration declaration => exact hlevels.declaration rfl ctx
  | member member => exact hlevels.member (.refl member) ctx

/-- A model means the same in every spelling. Two programs that declare one
model, in two of the spellings of the bases `heritage` and the members `own`,
describe every node in every context with equal results, or one of the two
walks reaches the limit on nested nodes. -/
theorem describe_spelling_irrelevant (program : Program) (scope : ModuleId) (settings : Settings)
    {heritage : List TypeNode} {own : List Member} {first second : Declaration}
    (hfirst : first.form.Spells heritage own) (hsecond : second.form.Spells heritage own)
    (hname : first.name = second.name) (hdoc : first.doc = second.doc)
    (hplain : first.isGeneric = false) (hplain' : second.isGeneric = false)
    (hdisjoint : Disjoint (program.declaring scope (asInterface scope heritage own first)) settings
      heritage own) (node : Node) (ctx : Context) :
    let one : Attempt Shape := describe (program.declaring scope first) settings node ctx
    let other : Attempt Shape := describe (program.declaring scope second) settings node ctx
    one = other ∨ ∃ location, one = .error (.depthExceeded settings.maxDepth location) ∨
      other = .error (.depthExceeded settings.maxDepth location) := by
  have hcut := spells_cutOff program scope settings hfirst hplain hdisjoint node ctx
  have hsame : asInterface scope heritage own first = asInterface scope heritage own second := by
    rw [asInterface, asInterface, hname, hdoc]
  have hcut' := spells_cutOff program scope settings hsecond hplain' (hsame ▸ hdisjoint) node ctx
  rw [← hsame] at hcut'
  rcases hcut with hone | ⟨location, hone⟩
  · rcases hcut' with hother | ⟨location, hother⟩
    · exact .inl (hone.trans hother.symm)
    · exact .inr ⟨location, .inr hother⟩
  · exact .inr ⟨location, .inl hone⟩

/-! ### Names that are inherited -/

/-- The place of a shape leaves its properties alone. -/
theorem properties_placed (ctx : Context) (shape : Shape) :
    (placed ctx shape).properties = shape.properties := by
  unfold placed
  split <;> rfl

/-- So does the name and the documentation of a declaration. -/
theorem properties_ofDeclaration (declaration : Declaration) (shape : Shape) :
    (ofDeclaration declaration shape).properties = shape.properties := by
  unfold ofDeclaration
  dsimp only [Shape.document]
  split <;> rfl

/-- An interface or class without bases has the properties of its members, if
these have different names. -/
theorem describeWithin_body {program : Program} {settings : Settings} {levels : Nat}
    {declaration : Declaration} {members : List Member}
    (hform : declaration.form = .interface [] members ∨ declaration.form = .classType none members)
    (hgeneric : declaration.isGeneric = false) (hdistinct : (members.map (·.name)).Nodup)
    {ctx : Context} (hexpands : ctx.expands = true) :
    describeWithin program settings (levels + 1) (.declaration declaration) ctx =
      (fun properties => placed ctx
        { kind := .object, typeName := some declaration.name, properties }) <$>
        (walkerWithin program settings levels).describeMembers members ctx := by
  have hbody (w : Walker Attempt) :
      w.describeDeclaration declaration ctx = w.describeBody declaration [] members ctx := by
    unfold Walker.describeDeclaration
    rcases hform with hform | hform
    · rw [hform]
    · rw [hform]
      rfl
  have hproperties : (walkerWithin program settings levels).bodyProperties [] members ctx =
      (walkerWithin program settings levels).describeMembers members ctx := by
    unfold Walker.bodyProperties
    cases hown : (walkerWithin program settings levels).describeMembers members ctx with
    | error e => rfl
    | ok own =>
      -- Nothing is inherited that the members could take the place of.
      have hown_distinct : (own.map (·.propertyName)).Nodup := by
        rwa [names_of_describeMembers hown]
      exact congrArg Except.ok (foldl_override_eq_append hown_distinct (by simp))
  rw [describeWithin_succ, Walker.describeNode, hbody, Walker.describeBody, hexpands, hgeneric,
    hproperties]
  cases (walkerWithin program settings levels).describeMembers members ctx <;> rfl

/-- An interface without bases passes on properties that are called as its
members. -/
theorem names_of_expandDeclaration {program : Program} {settings : Settings} {levels : Nat}
    {declaration : Declaration} {members : List Member}
    (hform : declaration.form = .interface [] members) (hgeneric : declaration.isGeneric = false)
    (hdistinct : (members.map (·.name)).Nodup) {ctx : Context} (hexpands : ctx.expands = true)
    {shape : Shape}
    (h : (walkerWithin program settings levels).expandDeclaration declaration ctx = .ok shape) :
    shape.properties.map (·.propertyName) = members.map (·.name) := by
  obtain ⟨described, hdescribe, rfl⟩ := Walker.expandDeclaration_eq_ok.mp h
  cases levels with
  | zero => cases hdescribe
  | succ levels =>
    have hwithin : (ctx.within declaration.name).expands = true := hexpands
    have hdescribe : describeWithin program settings (levels + 1) (.declaration declaration)
        (ctx.within declaration.name) = .ok described := hdescribe
    rw [describeWithin_body (.inl hform) hgeneric hdistinct hwithin, Attempt.map_eq_ok] at hdescribe
    obtain ⟨own, hown, rfl⟩ := hdescribe
    rw [properties_ofDeclaration, properties_placed]
    exact names_of_describeMembers hown

/-- A property of type `string`. -/
def textMember (name : String) : Member :=
  ⟨name, .signature (some ⟨.keyword .string, {}⟩), false, {}, {}⟩

/-- `interface Entry { id: string }`. -/
def entry : Declaration where
  name := "Entry"
  form := .interface [] [textMember "id"]
  doc := {}
  scope := 0
  location := {}
  isGeneric := false

/-- The reference to `Entry`. -/
def entryType : TypeNode :=
  ⟨.reference ⟨.identifier "Entry", [], 0⟩, {}⟩

/-- A declaration of `Post` in one form or another. -/
def post (form : DeclarationForm) : Declaration where
  name := "Post"
  form := form
  doc := {}
  scope := 0
  location := {}
  isGeneric := false

/-- `interface Post extends Entry { title: string }`. -/
def postInterface : Declaration :=
  post (.interface [entryType] [textMember "title"])

/-- `type Post = Entry & { title: string }`. -/
def postIntersection : Declaration :=
  post (.typeAlias ⟨.intersection [entryType, ⟨.object [textMember "title"], {}⟩], {}⟩)

/-- A module that declares `Entry`. -/
def entries : Program :=
  ⟨#[{ path := ⟨true, ["app.ts"]⟩, declarations := [("Entry", entry)] }]⟩

/-- The bases of a post do not have its title, which is the side condition
here. -/
theorem disjoint_post :
    Disjoint (entries.declaring 0 (asInterface 0 [entryType] [textMember "title"] postInterface)) {}
      [entryType] [textMember "title"] where
  distinct := by decide
  inherited := by
    intro type htype ctx shape h property hproperty
    obtain rfl := List.mem_singleton.mp htype
    have hexpands : ctx.flattening.expands = true := Bool.or_true _
    rw [describe_eq_describeWithin] at h
    obtain ⟨named, hnamed, rfl⟩ := describeWithin_succ_eq_ok.mp h
    have hnamed : (walkerWithin _ _ 255).describeNamed entry ctx.flattening = .ok named := hnamed
    obtain ⟨hlinked, -⟩ | ⟨-, hexpanded⟩ := Walker.describeNamed_eq_ok.mp hnamed
    · cases hexpands.symm.trans hlinked
    have hnames : named.properties.map (·.propertyName) = [textMember "id"].map (·.name) :=
      names_of_expandDeclaration rfl rfl (by decide) hexpands hexpanded
    rw [properties_placed] at hproperty
    have hid : property.propertyName ∈ [textMember "id"].map (·.name) :=
      hnames ▸ List.mem_map_of_mem hproperty
    rw [List.mem_singleton.mp hid]
    decide

/-- `Post` has the properties `id` and `title` in both spellings. -/
theorem describe_spelling_irrelevant_post :
    let node : Node := .type ⟨.reference ⟨.identifier "Post", [], 0⟩, {}⟩
    let one : Attempt Shape := describe (entries.declaring 0 postInterface) {} node (.root "App")
    let other : Attempt Shape :=
      describe (entries.declaring 0 postIntersection) {} node (.root "App")
    let names : Attempt Shape → Option (List String) := fun answer =>
      answer.toOption.map fun shape => shape.properties.map (·.propertyName)
    postInterface.form.Spells [entryType] [textMember "title"] ∧
      postIntersection.form.Spells [entryType] [textMember "title"] ∧
      one = other ∧ names one = some ["id", "title"] := by
  intro node one other names
  have hmembers : List.Forall₂ (Member.Alike Eq) [textMember "title"] [textMember "title"] :=
    .cons (.refl _) .nil
  have hinterface : postInterface.form.Spells [entryType] [textMember "title"] :=
    .interface hmembers
  have hintersection : postIntersection.form.Spells [entryType] [textMember "title"] :=
    .intersection hmembers
  have hone : names one = some ["id", "title"] := rfl
  have hother : names other = some ["id", "title"] := rfl
  refine ⟨hinterface, hintersection, ?_, hone⟩
  refine (describe_spelling_irrelevant entries 0 {} hinterface hintersection rfl rfl rfl rfl
    disjoint_post node (.root "App")).resolve_right ?_
  -- A walk that is cut off has no properties.
  rintro ⟨location, hcut | hcut⟩
  · exact Option.some_ne_none _ (hone.symm.trans (congrArg names hcut))
  · exact Option.some_ne_none _ (hother.symm.trans (congrArg names hcut))

end Expansion

end AppMetadata
