import AppMetadata.Proofs.DepthLimit
import AppMetadata.Proofs.Expansion.Paths
import AppMetadata.Proofs.Expansion.Trace
import AppMetadata.Proofs.Shape

/-!
# `AppMetadata.Proofs.Expansion.Rooting`: the paths of the parts of a shape

The parts of a shape are given their paths while the shape itself stands
nowhere yet: a path below the base path of the context. The shape is put there
later, unless it has a place already. So the paths of a shape and of its parts
fit together only if the base path of the context that made the parts is the
place that the shape ends up in, also where the parts are handed on to another
shape.

There is one exception. A model wrapper describes its arguments below the label
of the model, and then gives them to properties that stand somewhere else.
`Gives` says which wrapper did so: one that the description came to, at the
site where its model was described.

* `Walker.Roots.stands_of_made`: each way in which a walker makes a shape
  keeps the paths together.
* `rooted_of_run`: so does a run, whose sites are those that wrappers are
  found at.
* `describe_rooted`: the statement about whole descriptions. The arguments of
  a model are the only parts that stand elsewhere, under the label of the
  model.
-/

set_option autoImplicit false

namespace AppMetadata

namespace Shape

/-- A shape that stands below `path` as a property does: at the path of its
name or, without a name, at the path of its position in a union. -/
def ChildAt (path : String) (c : Shape) : Prop :=
  c.propertyPath = joinPath path c.propertyName ∨
    c.propertyName = "" ∧ ∃ index : Nat, c.propertyPath = path ++ "." ++ toString index

/-- A shape whose parts stand below `path`: its properties as children do, its
return type at the path itself, and its arguments at the paths of their
names. -/
structure PartsAt (path : String) (n : Shape) : Prop where
  properties : ∀ c ∈ n.properties, c.ChildAt path
  returnType : ∀ t ∈ n.returnType, t.propertyPath = path
  args : ∀ a ∈ n.args, a.propertyPath = joinPath path a.propertyName

/-- A shape whose parts stand below it. Its arguments do so too, or there is a
single one, which was given to it under a label (`gives`) and stands as a child
of the arguments of this label. -/
structure Rooted (gives : String → Shape → Shape → Prop) (n : Shape) : Prop where
  properties : ∀ c ∈ n.properties, c.ChildAt n.propertyPath
  returnType : ∀ t ∈ n.returnType, t.propertyPath = n.propertyPath
  args : (∀ a ∈ n.args, a.propertyPath = joinPath n.propertyPath a.propertyName) ∨
    ∃ label argument, gives label n argument ∧ n.args = [argument] ∧
      argument.ChildAt (joinPath label "args")

/-- A shape that is rooted, with all below it. -/
def RootedThroughout (gives : String → Shape → Shape → Prop) (s : Shape) : Prop :=
  ∀ n ∈ s.walk, n.Rooted gives

/-- A shape whose parts stand below `path`, and which is rooted from its parts
on. It may stand elsewhere itself, and nothing was given to it. -/
structure RootedAt (gives : String → Shape → Shape → Prop) (path : String) (s : Shape) :
    Prop where
  here : s.PartsAt path
  properties : ∀ c ∈ s.properties, c.RootedThroughout gives
  returnType : ∀ t ∈ s.returnType, t.RootedThroughout gives
  args : ∀ a ∈ s.args, a.RootedThroughout gives

variable {gives : String → Shape → Shape → Prop} {path : String} {s t : Shape}

/-- A shape that stands where its parts do is rooted, with all below it. -/
theorem RootedAt.throughout (h : s.RootedAt gives s.propertyPath) : s.RootedThroughout gives :=
  forall_mem_walk.mpr ⟨⟨h.here.properties, h.here.returnType, .inl h.here.args⟩, h.properties,
    h.args, h.returnType⟩

/-- Only the parts count. -/
theorem RootedAt.congr (h : t.RootedAt gives path) (hproperties : s.properties = t.properties)
    (hargs : s.args = t.args) (hreturn : s.returnType = t.returnType) :
    s.RootedAt gives path where
  here :=
    { properties := hproperties ▸ h.here.properties
      returnType := hreturn ▸ h.here.returnType
      args := hargs ▸ h.here.args }
  properties := hproperties ▸ h.properties
  returnType := hreturn ▸ h.returnType
  args := hargs ▸ h.args

/-- A shape with nothing but its name, its path and its parts. -/
def outline (shape : Shape) : Shape where
  kind := .object
  propertyName := shape.propertyName
  propertyPath := shape.propertyPath
  properties := shape.properties
  args := shape.args
  returnType := shape.returnType

/-- Shapes whose only parts are properties. -/
theorem rootedAt_of_properties
    (h : ∀ part ∈ s.properties, part.ChildAt path ∧ part.RootedThroughout gives)
    (hargs : s.args = []) (hreturn : s.returnType = none) : s.RootedAt gives path where
  here :=
    { properties := fun part hpart => (h part hpart).1
      returnType := by simp [hreturn]
      args := by simp [hargs] }
  properties part hpart := (h part hpart).2
  returnType := by simp [hreturn]
  args := by simp [hargs]

end Shape

namespace Expansion

open Shape

/-- A model wrapper gave `argument` to `property`, and described it under
`label`.

The wrapper is the node of one of the sites in `came`. The shape of this node
is a model that has the property, and the model has the label: its name, else
that of its type, else the base path of the site. The argument is one of the
properties of the second type argument of the wrapper, which was described
under the label, and it has the name of the property. -/
inductive Gives (program : Program) (settings : Settings) (came : Site → Prop) (label : String)
    (property argument : Shape) : Prop
  | intro {node : Node} {ctx : Context} {blueprint args : TypeNode} {named : Option Declaration}
      {force : Bool} {model shape : Shape}
      (hwraps : Wraps program settings [blueprint, args] node named force)
      (hsite : came ⟨node, ctx⟩)
      (hmodel : (describe program settings node ctx : Attempt Shape) = .ok model)
      (hlabel : label = Walker.argsLabel model ctx)
      (hproperty : property ∈ model.properties)
      (hcame : came ⟨.type args, argsContext label⟩)
      (hargs : (describe program settings (.type args) (argsContext label) : Attempt Shape) =
        .ok shape)
      (hargument : argument ∈ shape.properties)
      (hname : argument.propertyName = property.propertyName) :
      Gives program settings came label property argument

/-- A shape as `ctx` asks for it: without a name, at a path, and rooted there.
Below a property and where it becomes part of another type the path is that
of the context. Elsewhere it may be that of a declaration which a name led
to. -/
structure Stands (program : Program) (gives : String → Shape → Shape → Prop) (ctx : Context)
    (s : Shape) : Prop where
  name : s.propertyName = ""
  placed : s.propertyPath ≠ ""
  path : s.propertyPath = ctx.basePath ∨
    (ctx.parentPath = "" ∧ ctx.flattens = false) ∧
      ∃ declaration, program.Declares declaration ∧ s.propertyPath = declaration.name
  rooted : s.RootedAt gives s.propertyPath

section

variable {program : Program} {gives : String → Shape → Shape → Prop} {ctx : Context}
  {s t : Shape}

/-- Only the outline of a shape counts. -/
theorem Stands.congr (h : Stands program gives ctx t) (houtline : s.outline = t.outline) :
    Stands program gives ctx s := by
  have ht : Stands program gives ctx t.outline :=
    ⟨h.name, h.placed, h.path, h.rooted.congr rfl rfl rfl⟩
  rw [← houtline] at ht
  exact ⟨ht.name, ht.placed, ht.path, ht.rooted.congr rfl rfl rfl⟩

/-- A context that differs in the owner alone, or asks for parts of another
type. -/
theorem Stands.mono {inner : Context} (h : Stands program gives inner s)
    (hbase : inner.basePath = ctx.basePath) (hparent : inner.parentPath = ctx.parentPath)
    (hflattens : inner.flattens = false → ctx.flattens = false) : Stands program gives ctx s where
  name := h.name
  placed := h.placed
  path := by
    rcases h.path with hpath | ⟨⟨hroot, hnot⟩, hdeclared⟩
    · exact .inl (hpath.trans hbase)
    · exact .inr ⟨⟨hparent ▸ hroot, hflattens hnot⟩, hdeclared⟩
  rooted := h.rooted

/-- Below a property a shape stands at the path of the property. -/
theorem Stands.path_of_parentPath (h : Stands program gives ctx s) (hpath : ctx.parentPath ≠ "") :
    s.propertyPath = ctx.parentPath := by
  rcases h.path with hbase | ⟨⟨hempty, -⟩, -⟩
  · rw [hbase, Context.basePath_of_parentPath hpath]
  · exact absurd hempty hpath

/-- What becomes part of another type stands at the base path. -/
theorem Stands.path_of_flattens (h : Stands program gives ctx s)
    (hflattens : ctx.flattens = true) : s.propertyPath = ctx.basePath := by
  rcases h.path with hbase | ⟨⟨-, hnot⟩, -⟩
  · exact hbase
  · rw [hflattens] at hnot
    cases hnot

/-- So below a property the parts stand below the path of the property. -/
theorem Stands.rootedAt_of_parentPath (h : Stands program gives ctx s)
    (hpath : ctx.parentPath ≠ "") : s.RootedAt gives ctx.parentPath := by
  rw [← h.path_of_parentPath hpath]
  exact h.rooted

/-- The parts of what becomes part of another type stand below the base path,
which the other type has as well. -/
theorem Stands.rootedAt_of_flattens (h : Stands program gives ctx s)
    (hflattens : ctx.flattens = true) : s.RootedAt gives ctx.basePath := by
  rw [← h.path_of_flattens hflattens]
  exact h.rooted

/-- What has a place is left there. -/
theorem Stands.stays (h : Stands program gives ctx s) :
    Stands program gives ctx (Expansion.placed ctx s) := by
  unfold Expansion.placed
  rw [if_neg (by simpa [String.isEmpty_iff] using h.placed)]
  exact h

/-- A shape that stands nowhere is put at the base path, where its parts
are. -/
theorem stands_of_new (hbase : ctx.basePath ≠ "") (hname : s.propertyName = "")
    (hpath : s.propertyPath = "") (h : s.RootedAt gives ctx.basePath) :
    Stands program gives ctx (placed ctx s) := by
  unfold placed
  rw [if_pos (by simp [hpath])]
  exact ⟨hname, hbase, .inl rfl, h.congr rfl rfl rfl⟩

end

/-- The name and the documentation of a declaration are not in the outline. -/
theorem outline_ofDeclaration (declaration : Declaration) (shape : Shape) :
    (ofDeclaration declaration shape).outline = shape.outline := by
  unfold ofDeclaration
  split <;> rfl

/-! ### One level of a walk -/

/-- A position is joined to a path as a name is. -/
theorem joinPath_index {path : String} (h : path ≠ "") (index : Nat) :
    joinPath path (toString index) = path ++ "." ++ toString index := by
  simp [joinPath, String.isEmpty_iff, h]

namespace Walker

/-- The label of a model does not depend on its place. -/
theorem argsLabel_placed (ctx inner : Context) (model : Shape) :
    argsLabel (placed ctx model) inner = argsLabel model inner := by
  unfold placed
  split <;> rfl

/-- A walker that comes to some sites, answers as a whole description does,
and whose shapes stand where their contexts ask for. -/
structure Roots (w : Walker Attempt) (came : Site → Prop) : Prop where
  named : w.program.Named
  site {node : Node} {ctx : Context} {s : Shape} : w.describe node ctx = .ok s → came ⟨node, ctx⟩
  described {node : Node} {ctx : Context} {s : Shape} : w.describe node ctx = .ok s →
    (Expansion.describe w.program w.settings node ctx : Attempt Shape) = .ok s
  stands {node : Node} {ctx : Context} {s : Shape} : ctx.basePath ≠ "" →
    w.describe node ctx = .ok s → Stands w.program (Gives w.program w.settings came) ctx s

variable {w : Walker Attempt} {came : Site → Prop} {node : Node} {ctx : Context} {s : Shape}

/-- A part that stands below a path with all below it rooted. -/
theorem Roots.member (hw : w.Roots came) {base : String} {owner : Option String}
    {member : Member} (hbase : base ≠ "") (h : w.describeMember base owner member = .ok s) :
    s.ChildAt base ∧ s.RootedThroughout (Gives w.program w.settings came) := by
  obtain ⟨t, ht, rfl⟩ := describeMember_eq_ok.mp h
  have hpath := joinPath_ne_empty hbase member.name
  have hstands := hw.stands (by rwa [Context.basePath_of_parentPath hpath]) ht
  -- The type stands at the path that the member is put at.
  have hrooted := hstands.rootedAt_of_parentPath hpath
  exact ⟨.inl rfl, RootedAt.throughout (hrooted.congr rfl rfl rfl)⟩

/-- Members stand below the base path of the object that they are written in. -/
theorem Roots.members (hw : w.Roots came) (hbase : ctx.basePath ≠ "") {members : List Member}
    {shapes : List Shape} (h : w.describeMembers members ctx = .ok shapes) :
    ∀ part ∈ shapes, part.ChildAt ctx.basePath ∧
      part.RootedThroughout (Gives w.program w.settings came) := by
  intro part hpart
  obtain ⟨member, -, hmember⟩ := Attempt.exists_of_mem_right (describeMembers_eq_ok.mp h) hpart
  exact hw.member hbase hmember

/-- The properties of a part become those of the whole, which has the same
base path. -/
theorem Roots.flattened (hw : w.Roots came) (hbase : ctx.basePath ≠ "") {types : List TypeNode}
    {properties : List Shape} (h : w.flattened types ctx = .ok properties) :
    ∀ part ∈ properties, part.ChildAt ctx.basePath ∧
      part.RootedThroughout (Gives w.program w.settings came) := by
  intro part hpart
  obtain ⟨type, -, whole, hwhole, hpart⟩ := mem_of_mem_flattened h hpart
  have hinner : ctx.flattening.basePath ≠ "" := hbase
  have hrooted := (hw.stands hinner hwhole).rootedAt_of_flattens rfl
  exact ⟨hrooted.here.properties part hpart, hrooted.properties part hpart⟩

/-- A parameter stands below the base path, at the path of its name. -/
theorem Roots.parameter (hw : w.Roots came) (hbase : ctx.basePath ≠ "") {param : Parameter}
    {location : Location} (h : w.describeParameter param location ctx = .ok s) :
    s.propertyPath = joinPath ctx.basePath s.propertyName ∧
      s.RootedThroughout (Gives w.program w.settings came) := by
  obtain ⟨type, t, -, ht, rfl⟩ := describeParameter_eq_ok.mp h
  have hpath := joinPath_ne_empty hbase param.name
  have hstands := hw.stands (by rwa [Context.below_basePath hpath]) ht
  have hrooted := hstands.rootedAt_of_parentPath hpath
  exact ⟨rfl, RootedAt.throughout (hrooted.congr rfl rfl rfl)⟩

/-- An alternative of a union stands at the path of its position, without a
name. -/
theorem Roots.alternative (hw : w.Roots came) (hbase : ctx.basePath ≠ "") {type : TypeNode}
    {index : Nat}
    (h : w.describe (.type type) (ctx.below (joinPath ctx.basePath (toString index))) = .ok s) :
    s.ChildAt ctx.basePath ∧ s.RootedThroughout (Gives w.program w.settings came) := by
  have hpath := joinPath_ne_empty hbase (toString index)
  have hstands := hw.stands (by rwa [Context.below_basePath hpath]) h
  refine ⟨.inr ⟨hstands.name, index, ?_⟩, hstands.rooted.throughout⟩
  rw [hstands.path_of_parentPath hpath]
  exact joinPath_index hbase index

/-- The arguments of a model stand below its label. -/
theorem Roots.arguments (hw : w.Roots came) {args : TypeNode} {label : String}
    (h : w.describe (.type args) (argsContext label) = .ok s) :
    s.RootedAt (Gives w.program w.settings came) (joinPath label "args") := by
  have hlabel : (argsContext label).basePath ≠ "" := joinPath_args_ne_empty label
  exact (hw.stands hlabel h).rootedAt_of_flattens rfl

end Walker

/-- Once it has its arguments, a model stands where its blueprint did. A
property with an argument keeps its place and its parts. -/
theorem splice_stands {program : Program} {gives : String → Shape → Shape → Prop} {ctx : Context}
    {label : String} {t shape : Shape} {properties : List Shape} (ht : Stands program gives ctx t)
    (harguments : shape.RootedAt gives (joinPath label "args"))
    (hgives : ∀ part ∈ properties, ∀ argument ∈ shape.properties,
      argument.propertyName = part.propertyName → gives label part argument)
    (hgiven : ∀ part ∈ properties, Given t.properties shape.properties part) :
    Stands program gives ctx { t with properties } := by
  have hparts (part : Shape) (hpart : part ∈ properties) :
      part.ChildAt t.propertyPath ∧ part.RootedThroughout gives := by
    rcases hgiven part hpart with hold | ⟨property, hproperty, argument, hargument, hname, rfl⟩
    · exact ⟨ht.rooted.here.properties part hold, ht.rooted.properties part hold⟩
    · -- The argument replaces those that the property had; the rest of it is as it was.
      obtain ⟨hold, hbelow, -, hreturn⟩ :=
        forall_mem_walk.mp (ht.rooted.properties property hproperty)
      have hgave := hgives _ hpart argument hargument hname
      have hchild := harguments.here.properties argument hargument
      refine ⟨ht.rooted.here.properties property hproperty, forall_mem_walk.mpr ?_⟩
      exact ⟨⟨hold.properties, hold.returnType, .inr ⟨label, argument, hgave, rfl, hchild⟩⟩, hbelow,
        List.forall_mem_singleton.mpr (harguments.properties argument hargument), hreturn⟩
  exact
    { name := ht.name
      placed := ht.placed
      path := ht.path
      rooted :=
        { here :=
            { properties := fun part hpart => (hparts part hpart).1
              returnType := ht.rooted.here.returnType
              args := ht.rooted.here.args }
          properties := fun part hpart => (hparts part hpart).2
          returnType := ht.rooted.returnType
          args := ht.rooted.args } }

namespace Walker

variable {w : Walker Attempt} {came : Site → Prop} {node : Node} {ctx : Context} {s : Shape}

/-- Where a name leads to a declaration, the shape stands where the
declaration does. -/
theorem Roots.declaration (hw : w.Roots came) (hbase : ctx.basePath ≠ "")
    {declaration : Declaration} (hdeclared : w.program.Declares declaration)
    (h : w.describe (.declaration declaration) (ctx.within declaration.name) = .ok s) :
    Stands w.program (Gives w.program w.settings came) ctx s := by
  have hname := hw.named declaration hdeclared
  have hstands := hw.stands (Context.within_basePath_ne_empty hname hbase) h
  refine ⟨hstands.name, hstands.placed, ?_, hstands.rooted⟩
  rcases hstands.path with hpath | hother
  · rcases Context.within_basePath hbase with hsame | ⟨hroot, hwithin⟩
    · exact .inl (hpath.trans hsame)
    · exact .inr ⟨hroot, declaration, hdeclared, hpath.trans hwithin⟩
  · exact .inr hother

/-- The blueprint of a model stands where the model does. -/
theorem Roots.model (hw : w.Roots came) (hbase : ctx.basePath ≠ "") {blueprint : TypeNode}
    {force : Bool}
    (h : w.describe (.type blueprint) { ctx with flattens := ctx.flattens || force } = .ok s) :
    Stands w.program (Gives w.program w.settings came) ctx s := by
  have hinner : Context.basePath { ctx with flattens := ctx.flattens || force } ≠ "" := hbase
  refine (hw.stands hinner h).mono rfl rfl fun hnot => ?_
  rw [Bool.or_eq_false_iff] at hnot
  exact hnot.1

/-- The parts of an operation stand at the base path, where it is put itself:
the parameter below it, and the return type at it. -/
theorem Roots.operation (hw : w.Roots came) (hbase : ctx.basePath ≠ "")
    {params : List Parameter} {returns : TypeNode} {args : List Shape} {t : Shape}
    {location : Location}
    (hargs : List.Forall₂ (fun param s => w.describeParameter param location ctx = .ok s)
      params args)
    (hreturns : w.describe (.type returns) (ctx.below ctx.basePath) = .ok t) :
    RootedAt (Gives w.program w.settings came) ctx.basePath
      { kind := .function, args, returnType := some t } := by
  have hstands := hw.stands (by rwa [Context.below_basePath hbase]) hreturns
  have hparts (part : Shape) (hpart : part ∈ args) :
      part.propertyPath = joinPath ctx.basePath part.propertyName ∧
        part.RootedThroughout (Gives w.program w.settings came) := by
    obtain ⟨param, -, hparam⟩ := Attempt.exists_of_mem_right hargs hpart
    exact hw.parameter hbase hparam
  refine ⟨⟨by simp, ?_, ?_⟩, by simp, ?_, ?_⟩
  · rintro _ ⟨⟩
    exact hstands.path_of_parentPath hbase
  · exact fun part hpart => (hparts part hpart).1
  · rintro _ ⟨⟩
    exact hstands.rooted.throughout
  · exact fun part hpart => (hparts part hpart).2

/-- A model with arguments stands where its blueprint does. What is described at
the site is the model, so it is this wrapper that gives. -/
theorem Roots.modelWith (hw : w.Roots came) (hsite : came ⟨node, ctx⟩)
    (hbase : ctx.basePath ≠ "") {blueprint args : TypeNode} {named : Option Declaration}
    {force : Bool} {location : Location} {t : Shape}
    (hwraps : Wraps w.program w.settings [blueprint, args] node named force)
    (ht : w.describe (.type blueprint) { ctx with flattens := ctx.flattens || force } = .ok t)
    (hs : w.spliceArgs { t with modelName := wrapperModelName? w.program named blueprint } args
      location ctx = .ok s)
    (hwhole : (Expansion.describe w.program w.settings node ctx : Attempt Shape) =
      .ok (placed ctx s)) :
    Stands w.program (Gives w.program w.settings came) ctx (placed ctx s) := by
  obtain ⟨shape, properties, hshape, -, hspliced, rfl⟩ := spliceArgs_eq_ok.mp hs
  have hblueprint := hw.model hbase ht
  have hmodel : Stands w.program (Gives w.program w.settings came) ctx
      { t with modelName := wrapperModelName? w.program named blueprint } :=
    hblueprint.congr rfl
  have hgiven (part : Shape) (hpart : part ∈ properties) := given_of_mem_spliced hspliced hpart
  refine (splice_stands hmodel (hw.arguments hshape) ?_ hgiven).stays
  intro part hpart argument hargument hname
  have hlabel := argsLabel_placed ctx ctx
    { t with modelName := wrapperModelName? w.program named blueprint, properties }
  refine ⟨hwraps, hsite, hwhole, hlabel.symm, ?_, hw.site hshape, hw.described hshape,
    hargument, hname⟩
  rw [properties_congr (content_placed ..)]
  exact hpart

/-- Each way in which a walker makes a shape at one of its sites puts the shape
where the context asks for, with its parts below it. -/
theorem Roots.stands_of_made (hw : w.Roots came) (hsite : came ⟨node, ctx⟩)
    (hbase : ctx.basePath ≠ "") (h : w.Made node ctx s)
    (hwhole : (Expansion.describe w.program w.settings node ctx : Attempt Shape) =
      .ok (placed ctx s)) :
    Stands w.program (Gives w.program w.settings came) ctx (placed ctx s) := by
  -- A shape that is made here stands nowhere yet, and its parts were put below the
  -- base path, so `placed` joins them. One that is handed on was described in a
  -- context with the same base path, or is named after a declaration.
  cases h with
  | primitive hkind =>
    exact stands_of_new hbase rfl rfl (rootedAt_of_properties (by simp) rfl rfl)
  | value => exact stands_of_new hbase rfl rfl (rootedAt_of_properties (by simp) rfl rfl)
  | link typeName modelName =>
    exact stands_of_new hbase rfl rfl (rootedAt_of_properties (by simp [Shape.link]) rfl rfl)
  | nameOnly name => exact stands_of_new hbase rfl rfl (rootedAt_of_properties (by simp) rfl rfl)
  | literals name literals nullable =>
    refine stands_of_new hbase rfl rfl (rootedAt_of_properties ?_ rfl rfl)
    refine List.forall_mem_map.mpr fun literal _ => ⟨.inl rfl, RootedAt.throughout ?_⟩
    exact rootedAt_of_properties (by simp [literalProperty]) rfl rfl
  | union name nullable hmany hproperties =>
    refine stands_of_new hbase rfl rfl (rootedAt_of_properties (fun part hpart => ?_) rfl rfl)
    obtain ⟨entry, -, hentry⟩ := Attempt.exists_of_mem_right hproperties hpart
    exact hw.alternative hbase hentry
  | object hproperties =>
    exact stands_of_new hbase rfl rfl
      (rootedAt_of_properties (hw.members hbase hproperties) rfl rfl)
  | merged hproperties =>
    exact stands_of_new hbase rfl rfl
      (rootedAt_of_properties (hw.flattened hbase hproperties) rfl rfl)
  | body name hproperties =>
    obtain ⟨inherited, own, hinherited, hown, rfl⟩ := bodyProperties_eq_ok.mp hproperties
    refine stands_of_new hbase rfl rfl (rootedAt_of_properties (fun part hpart => ?_) rfl rfl)
    rcases mem_of_mem_overridden hpart with hpart | hpart
    · exact hw.members hbase hown part hpart
    · exact hw.flattened hbase hinherited part hpart
  | enum hnode hform hproperties =>
    refine stands_of_new hbase rfl rfl (rootedAt_of_properties (fun part hpart => ?_) rfl rfl)
    obtain ⟨member, -, hmember⟩ := Attempt.exists_of_mem_right hproperties hpart
    exact hw.member hbase hmember
  | function location hparams hargs hreturns =>
    exact stands_of_new hbase rfl rfl (hw.operation hbase hargs hreturns)
  | same array nullable ht =>
    have hstands := hw.stands hbase ht
    exact Stands.stays (hstands.congr rfl)
  | target name ht =>
    have hsame : (ctx.ownedBy name).basePath = ctx.basePath := Context.ownedBy_basePath hbase
    have hstands := hw.stands (hsame ▸ hbase) ht
    exact (hstands.mono hsame rfl id).stays
  | named hdeclared ht =>
    have hstands := hw.declaration hbase hdeclared ht
    exact Stands.stays (hstands.congr (outline_ofDeclaration _ _))
  | model force modelName ht =>
    have hmodel := hw.model hbase ht
    exact Stands.stays (hmodel.congr rfl)
  | modelWith force named location hwraps ht hs =>
    exact hw.modelWith hsite hbase hwraps ht hs hwhole

end Walker

/-! ### Whole descriptions -/

variable {program : Program} {settings : Settings}

/-- A run that keeps to some sites puts what it describes where the context
asks for, and what is given in it is given at these sites. -/
theorem rooted_of_run (hnamed : program.Named) {came : Site → Prop} {levels : Nat}
    (hlevels : levels ≤ settings.maxDepth) {node : Node} {ctx : Context} (hbase : ctx.basePath ≠ "")
    {s : Shape} {sites : List Site}
    (h : (describeTraced program settings levels node ctx).run = .ok (s, sites))
    (hcame : ∀ site ∈ sites, came site) : Stands program (Gives program settings came) ctx s := by
  -- On the levels: the walker below a node has fewer levels and keeps to the same
  -- sites. No limit is reached, so what it answers is what a whole description gives.
  induction levels generalizing node ctx s sites with
  | zero => cases h
  | succ levels ih =>
    have hbelowLimit : levels ≤ settings.maxDepth := Nat.le_of_succ_le hlevels
    have hwhole := describe_of_describeWithin hlevels (describeWithin_of_run h)
    obtain ⟨hsite, t, ht, rfl⟩ := made_of_run h hcame
    have hw : (walkerConfined came program settings levels).Roots came := by
      refine ⟨hnamed, fun hdescribed => ?_, fun hdescribed => ?_, fun hinner hdescribed => ?_⟩
      all_goals obtain ⟨_, hrun, hbelow⟩ := walkerConfined_eq_ok.mp hdescribed
      · -- What is described takes a level, and the first site is its own.
        cases levels with
        | zero => cases hrun
        | succ levels => exact (made_of_run hrun hbelow).1
      · exact describe_of_describeWithin hbelowLimit (describeWithin_of_run hrun)
      · exact ih hbelowLimit hinner hrun hbelow
    exact hw.stands_of_made hsite hbase ht hwhole

/-- In a program whose declarations have names, a node that is described in a
context with a base path stands there, with all parts below it.

The shape itself stands at the parent path if there is one, and at the base
path if it becomes part of another type; at a root it may also stand at the
name of a declaration. Its own arguments, which are parameters, stand at the
paths of their names. Every shape in the description is rooted: its properties
stand at the paths of their names or of their positions in a union, its return
type stands at its own path, and so does its argument below it, unless a model
wrapper put it there. Then the wrapper is the node of a site that the
description comes to, the shape is a property of the model that is described at
this site, and its argument stands below the label of this model. So no part
stands where it was declared or inherited from. -/
theorem describe_rooted (hnamed : program.Named) {node : Node} {ctx : Context}
    (hbase : ctx.basePath ≠ "") {s : Shape}
    (h : (describe program settings node ctx : Attempt Shape) = .ok s) :
    (ctx.parentPath ≠ "" → s.propertyPath = ctx.parentPath) ∧
      (ctx.flattens = true → s.propertyPath = ctx.basePath) ∧
      (s.propertyPath = ctx.basePath ∨
        ∃ declaration, program.Declares declaration ∧ s.propertyPath = declaration.name) ∧
      (∀ a ∈ s.args, a.propertyPath = joinPath s.propertyPath a.propertyName) ∧
      ∀ n ∈ s.walk, n.Rooted (Gives program settings (· ∈ visited program settings node ctx)) := by
  have hstands := rooted_of_run hnamed (Nat.le_refl settings.maxDepth) hbase (run_of_describe h)
    fun _ => id
  exact ⟨hstands.path_of_parentPath, hstands.path_of_flattens, hstands.path.imp_right (·.2),
    hstands.rooted.here.args, hstands.rooted.throughout⟩

/-- A program that declares

* `interface Titled { title: string }`,
* `interface Post extends Titled { id: number }`,
* `type PostModel = Model<Post, { title: { size: number } }>`. -/
def posts : Program where
  modules :=
    let property (name : String) (form : TypeForm) : Member :=
      { name, form := .signature (some ⟨form, {}⟩), isOptional := false, doc := {}, location := {} }
    let declaration (name : String) (form : DeclarationForm) : String × Declaration :=
      (name, { name, form, doc := {}, scope := 0, location := {}, isGeneric := false })
    let named (name : String) (args : List TypeNode) : TypeNode :=
      ⟨.reference ⟨.identifier name, args, 0⟩, {}⟩
    #[{ path := ⟨true, ["app.ts"]⟩
        declarations := [
          declaration "Titled" (.interface [] [property "title" (.keyword .string)]),
          declaration "Post"
            (.interface [named "Titled" []] [property "id" (.keyword .number)]),
          declaration "PostModel"
            (.typeAlias (named "Model" [named "Post" [],
              ⟨.object [property "title" (.object [property "size" (.keyword .number)])], {}⟩]))] }]

/-- The argument of the title of a post, below the label of the model. -/
def titleArgument : Shape where
  kind := .object
  propertyName := "title"
  propertyPath := "PostModel.args.title"
  properties := [
    { kind := .number, propertyName := "size", propertyPath := "PostModel.args.title.size" }]

/-- The inherited title of a post, below `Post`. -/
def postTitle : Shape where
  kind := .string
  propertyName := "title"
  propertyPath := "Post.title"
  args := [titleArgument]

/-- The model of `posts`. -/
def postModel : Shape where
  kind := .object
  typeName := some "Post"
  modelName := some "PostModel"
  propertyPath := "Post"
  properties := [postTitle, { kind := .number, propertyName := "id", propertyPath := "Post.id" }]

/-- All declarations of `posts` have names. -/
theorem posts_named : posts.Named := by
  rintro declaration ⟨scope, hscope, hentry⟩
  obtain rfl : scope = posts.modules[0] := by simpa [posts] using hscope
  have hnames : ∀ declared ∈ posts.modules[0].declarations.values, declared.name ≠ "" := by
    simp [posts, Table.values]
  exact hnames declaration hentry

/-- The model of `posts`, described at a root of another name. The argument of
the title does not stand below it, so it comes from a wrapper. -/
theorem describe_rooted_posts :
    let model : TypeNode := ⟨.reference ⟨.identifier "PostModel", [], 0⟩, {}⟩
    let came := (· ∈ visited posts {} (.type model) (.root "App"))
    (describe posts {} (.type model) (.root "App") : Attempt Shape) = .ok postModel ∧
      (postModel.propertyPath = "App" ∨
        ∃ declaration, posts.Declares declaration ∧ postModel.propertyPath = declaration.name) ∧
      postTitle ∈ postModel.properties ∧
      ∃ label, Gives posts {} came label postTitle titleArgument := by
  intro model came
  have hmodel : (describe posts {} (.type model) (.root "App") : Attempt Shape) = .ok postModel :=
    rfl
  have hbase : (Context.root "App").basePath ≠ "" := by decide
  obtain ⟨-, -, hpath, -, hrooted⟩ := describe_rooted posts_named hbase hmodel
  have htitle : postTitle ∈ postModel.properties := List.mem_cons_self ..
  have hbelow := (forall_mem_walk.mp hrooted).2.1 postTitle htitle
  refine ⟨hmodel, hpath, htitle, ?_⟩
  rcases (forall_mem_walk.mp hbelow).1.args with hown | ⟨label, argument, hgives, hargs, -⟩
  · exact absurd (hown titleArgument (List.mem_singleton_self _)) (by decide)
  · obtain rfl := List.singleton_inj.mp hargs
    exact ⟨label, hgives⟩

end Expansion

end AppMetadata
