import AppMetadata.Proofs.DepthLimit
import AppMetadata.Proofs.Expansion.Reach
import AppMetadata.Proofs.Program.Loaded

/-!
# `AppMetadata.Proofs.Expansion.Documentation`: whose documentation a shape has

What is said about a declaration goes to the shape that describes it in full,
and what is said about a member to the shape of its type. Both only fill what
is still empty, so a member has its own documentation exactly if the shape of
its type comes without any. This holds wherever types are linked: only a
declaration that is described in full has something to say, and only a model
wrapper that is an import type would describe one there.

The shapes below a root are those of members, parameters, return types and
alternatives, and the values of enums (`ShapeOf`). Heritage, intersections and
models hand on such shapes as they are, and arguments of a model leave what is
said about a property alone.

* `undocumented`: a shape where types are linked.
* `ShapeOf.doc_eq`: what is said about the shape of a part.
* `Walker.Traces.partsBelow_of_made`: there are only shapes of parts below the
  shapes that a walker makes.
* `describe_documented`: the statement about programs that were loaded.
-/

set_option autoImplicit false

namespace AppMetadata

namespace Shape

/-- What is said about a shape. -/
def doc (shape : Shape) : Doc where
  description := shape.description
  deprecated := shape.deprecated

/-- Where nothing is said yet, all of the documentation is added. -/
theorem doc_document {shape : Shape} (h : shape.doc = {}) (doc : Doc) :
    (shape.document doc).doc = doc := by
  obtain ⟨hdescription, hdeprecated⟩ := Doc.mk.inj h
  obtain ⟨description, deprecated⟩ := doc
  simp only [Shape.doc, document, hdescription, hdeprecated, String.isEmpty_iff, if_true]
  -- A plain mark that is not set is what was there before.
  match deprecated with
  | .flag true | .flag false | .reason _ => rfl

end Shape

namespace Expansion

open Shape

variable {program : Program} {settings : Settings}

/-! ### Where types are linked -/

/-- The place of a shape says nothing about it. -/
theorem doc_placed (ctx : Context) (shape : Shape) : (placed ctx shape).doc = shape.doc := by
  unfold placed
  split <;> rfl

/-- A shape without documentation takes all of the member's. -/
theorem doc_ofMember (member : Member) (path : String) {shape : Shape} (h : shape.doc = {}) :
    (ofMember member path shape).doc = member.doc :=
  @doc_document { shape with propertyName := member.name, propertyPath := path } h member.doc

/-- An imported wrapper is an import type in itself. -/
theorem not_importsModel {node : Node} (h : PlainLinks settings node.importTypes) :
    ¬ImportsModel settings node := by
  rintro ⟨link, location, rfl, hwrapper⟩
  rw [h link (List.mem_cons_self ..)] at hwrapper
  cases hwrapper

/-- A walker that says nothing about a shape where types are linked. -/
def Walker.Undocumented (w : Walker Attempt) : Prop :=
  ∀ {node ctx s}, ctx.expands = false → w.describe node ctx = .ok s → s.doc = {}

/-- One level: a node that is linked has no say itself, and what it hands on
comes from below, where nothing is said either. -/
theorem Walker.Undocumented.of_made {w : Walker Attempt} (hw : w.Undocumented) {node : Node}
    {ctx : Context} {s : Shape} (hplain : ¬ImportsModel w.settings node)
    (hctx : ctx.expands = false) (h : w.Made node ctx s) : s.doc = {} := by
  -- A blueprint is described in full only if its model is.
  have hmodel {force : Bool} (hforce : force = true → ImportsModel w.settings node) :
      Context.expands { ctx with flattens := ctx.flattens || force } = false := by
    cases force with
    | true => exact absurd (hforce rfl) hplain
    | false => rwa [Context.forced_expands, Bool.false_or]
  cases h with
  | primitive | value | link | nameOnly | literals | union | object | merged | body | enum
  | function => rfl
  | same array nullable ht =>
    have hdoc := hw hctx ht
    exact hdoc
  | target name ht => exact @hw _ (ctx.ownedBy name) _ hctx ht
  | named hdeclared ht hexpands =>
    -- Here a declaration would have its say.
    rw [hctx] at hexpands
    cases hexpands
  | model force modelName ht hwraps =>
    have hdoc := hw (hmodel hwraps.importsModel) ht
    exact hdoc
  | modelWith force named location hwraps ht hs =>
    obtain ⟨shape, properties, -, -, -, rfl⟩ := spliceArgs_eq_ok.mp hs
    have hdoc := hw (hmodel hwraps.importsModel) ht
    exact hdoc

/-- A run that starts where types are linked and comes to no imported wrapper
says nothing about its shape. -/
theorem undocumented_of_run {levels : Nat} {node : Node} {ctx : Context} {s : Shape}
    {sites : List Site} (h : (describeTraced program settings levels node ctx).run = .ok (s, sites))
    (hplain : ∀ site ∈ sites, ¬ImportsModel settings site.node) (hctx : ctx.expands = false) :
    s.doc = {} := by
  induction levels generalizing node ctx s sites with
  | zero => cases h
  | succ levels ih =>
    let plain (site : Site) : Prop := ¬ImportsModel settings site.node
    have hsites : ∀ site ∈ sites, plain site := hplain
    obtain ⟨hnode, t, ht, rfl⟩ := made_of_run h hsites
    have hw : (walkerConfined plain program settings levels).Undocumented := by
      intro node ctx s hctx hdescribed
      obtain ⟨sites, hrun, hsites⟩ := walkerConfined_eq_ok.mp hdescribed
      exact ih hrun hsites hctx
    rw [doc_placed]
    exact hw.of_made hnode hctx ht

/-- Where types are linked, nothing is said about the shape of a node. -/
theorem undocumented (hprogram : PlainProgram program settings) {node : Node} {ctx : Context}
    {s : Shape} (hlinks : PlainLinks settings node.importTypes) (hctx : ctx.expands = false)
    (h : (describe program settings node ctx : Attempt Shape) = .ok s) : s.doc = {} := by
  have hpath : ctx.basePath ≠ "" := by
    have hparent := (Context.expands_eq_false.mp hctx).1
    rwa [Context.basePath_of_parentPath hparent]
  refine undocumented_of_run (run_of_describe h) (fun site hsite => ?_) hctx
  exact not_importsModel (plainLinks_of_visited hprogram hlinks hpath site hsite).1

/-- A member is described at the path of its name. -/
theorem describeMember_eq_ok {member : Member} {base : String} {owner : Option String} {s : Shape} :
    (describeMember program settings member base owner : Attempt Shape) = .ok s ↔
      ∃ t, (describe program settings (.member member)
          { parentPath := joinPath base member.name, owner } : Attempt Shape) = .ok t ∧
        s = ofMember member (joinPath base member.name) t := by
  rw [describeMember_eq_walkerWithin, Walker.describeMember_eq_ok]
  simp only [describe_eq_describeWithin]
  rfl

/-- A member below a path has its own documentation. -/
theorem doc_of_describeMember (hprogram : PlainProgram program settings) {member : Member}
    {base : String} {owner : Option String} {s : Shape}
    (hlinks : PlainLinks settings member.importTypes) (hbase : base ≠ "")
    (h : (describeMember program settings member base owner : Attempt Shape) = .ok s) :
    s.doc = member.doc := by
  obtain ⟨t, ht, rfl⟩ := describeMember_eq_ok.mp h
  have hpath := joinPath_ne_empty hbase member.name
  have hctx : Context.expands { parentPath := joinPath base member.name, owner } = false :=
    Context.expands_eq_false.mpr ⟨hpath, rfl⟩
  have hnode : PlainLinks settings (Node.member member).importTypes := hlinks
  exact doc_ofMember member _ (undocumented hprogram hnode hctx ht)

/-! ### The parts of a description -/

/-- What a shape below a root is the shape of. -/
inductive Part
  | member (member : Member)
  | parameter (param : Parameter)
  | returnType (type : TypeNode)
  /-- One of the types of a union. -/
  | alternative (type : TypeNode)
  /-- A string literal as the value of an enum. -/
  | value (literal : String)

/-- What the source says about a part: something about members alone. -/
def Part.doc : Part → Doc
  | member written => written.doc
  | parameter _ | returnType _ | alternative _ | value _ => {}

/-- The shape of a part that is described at one of the sites in `came`. A
member is described below a path, by itself or as an argument of a model; the
other parts belong to the node of a site. -/
inductive ShapeOf (program : Program) (settings : Settings) (came : Site → Prop) :
    Part → Shape → Prop
  | member {member : Member} {base : String} {owner : Option String} {n : Shape}
    (hbase : base ≠ "")
    (hsite : came ⟨.member member, { parentPath := joinPath base member.name, owner }⟩)
    (h : (describeMember program settings member base owner : Attempt Shape) = .ok n) :
    ShapeOf program settings came (.member member) n
  | parameter {node : Node} {ctx : Context} {signature : Signature} {param : Parameter}
    {type : TypeNode} {t : Shape} (hnode : came ⟨node, ctx⟩) (hoperates : Operates node signature)
    (hparam : param ∈ signature.params) (htype : param.type = some type)
    (hsite : came ⟨.type type, ctx.below (joinPath ctx.basePath param.name)⟩)
    (h : (describe program settings (.type type)
      (ctx.below (joinPath ctx.basePath param.name)) : Attempt Shape) = .ok t) :
    ShapeOf program settings came (.parameter param)
      (ofParameter param (joinPath ctx.basePath param.name) t)
  | returnType {node : Node} {ctx : Context} {signature : Signature} {type : TypeNode} {n : Shape}
    (hnode : came ⟨node, ctx⟩) (hoperates : Operates node signature)
    (htype : signature.returns = some type) (hsite : came ⟨.type type, ctx.below ctx.basePath⟩)
    (h : (describe program settings (.type type)
      (ctx.below ctx.basePath) : Attempt Shape) = .ok n) :
    ShapeOf program settings came (.returnType type) n
  | alternative {union type : TypeNode} {ctx : Context} {types : List TypeNode} {index : Nat}
    {n : Shape} (hnode : came ⟨.type union, ctx⟩) (hunion : unionTypes? union = some types)
    (hentry : (type, index) ∈ types.zipIdx)
    (hsite : came ⟨.type type, ctx.below (joinPath ctx.basePath (toString index))⟩)
    (h : (describe program settings (.type type)
      (ctx.below (joinPath ctx.basePath (toString index))) : Attempt Shape) = .ok n) :
    ShapeOf program settings came (.alternative type) n
  | value {type : TypeNode} {ctx : Context} {literals : List String} {literal : String}
    (hnode : came ⟨.type type, ctx⟩) (hliterals : enumLiterals? type = some literals)
    (hliteral : literal ∈ literals) :
    ShapeOf program settings came (.value literal) (literalProperty ctx.basePath literal)
  /-- A model gives the shape of a part an argument, which is one too. -/
  | given {part other : Part} {n argument : Shape} (h : ShapeOf program settings came part n)
    (hargument : ShapeOf program settings came other argument) :
    ShapeOf program settings came part { n with args := [argument] }

/-- Nothing else is said about the shape of a part than about the part. -/
theorem ShapeOf.doc_eq (hprogram : PlainProgram program settings) {came : Site → Prop}
    (hcame : ∀ site, came site →
      PlainLinks settings site.node.importTypes ∧ site.ctx.basePath ≠ "")
    {part : Part} {n : Shape} (h : ShapeOf program settings came part n) : n.doc = part.doc := by
  have hbelow {type : TypeNode} {ctx : Context} {path : String} {t : Shape} (hpath : path ≠ "")
      (hsite : came ⟨.type type, ctx.below path⟩)
      (ht : (describe program settings (.type type) (ctx.below path) : Attempt Shape) = .ok t) :
      t.doc = {} :=
    undocumented hprogram (hcame _ hsite).1 (Context.below_expands hpath) ht
  induction h with
  | member hbase hsite h => exact doc_of_describeMember hprogram (hcame _ hsite).1 hbase h
  | parameter hnode _ _ _ hsite h =>
    have hdoc := hbelow (joinPath_ne_empty (hcame _ hnode).2 _) hsite h
    exact hdoc
  | returnType hnode _ _ hsite h => exact hbelow (hcame _ hnode).2 hsite h
  | alternative hnode _ _ hsite h =>
    exact hbelow (joinPath_ne_empty (hcame _ hnode).2 _) hsite h
  | value => rfl
  | given _ _ ih => exact ih

/-! ### One level of a walk -/

/-- A shape that is the shape of a part, with all below it. -/
def PartsThroughout (program : Program) (settings : Settings) (came : Site → Prop) (s : Shape) :
    Prop :=
  ∀ n ∈ s.walk, ∃ part, ShapeOf program settings came part n

/-- A shape below which there are only shapes of parts. -/
def PartsBelow (program : Program) (settings : Settings) (came : Site → Prop) (s : Shape) :
    Prop :=
  ∀ n ∈ s.descendants, ∃ part, ShapeOf program settings came part n

/-- A walker that comes to some sites, all of which have a path, and answers
as a whole description does. -/
structure Walker.Traces (w : Walker Attempt) (program : Program) (settings : Settings)
    (came : Site → Prop) : Prop where
  path {site : Site} : came site → site.ctx.basePath ≠ ""
  site {node : Node} {ctx : Context} {s : Shape} : w.describe node ctx = .ok s → came ⟨node, ctx⟩
  described {node : Node} {ctx : Context} {s : Shape} : w.describe node ctx = .ok s →
    (Expansion.describe program settings node ctx : Attempt Shape) = .ok s
  below {node : Node} {ctx : Context} {s : Shape} : w.describe node ctx = .ok s →
    PartsBelow program settings came s

section

variable {came : Site → Prop} {s t : Shape}

/-- What stands below a shape is in its content alone. -/
theorem PartsBelow.congr (h : PartsBelow program settings came t)
    (hcontent : s.content = t.content) : PartsBelow program settings came s := by
  unfold PartsBelow
  rw [descendants_congr hcontent]
  exact h

/-- A model has the parts of its blueprint. -/
theorem PartsBelow.model (h : PartsBelow program settings came s) (modelName : Option String) :
    PartsBelow program settings came { s with modelName } :=
  h

/-- Throughout a shape: at the shape itself and below it. -/
theorem partsThroughout_iff :
    PartsThroughout program settings came s ↔
      (∃ part, ShapeOf program settings came part s) ∧ PartsBelow program settings came s := by
  unfold PartsThroughout PartsBelow
  rw [walk_eq, List.forall_mem_cons]

/-- Below a shape: throughout its properties, its arguments and its return
type. -/
theorem partsBelow_iff :
    PartsBelow program settings came s ↔
      (∀ part ∈ s.properties, PartsThroughout program settings came part) ∧
      (∀ part ∈ s.args, PartsThroughout program settings came part) ∧
      (∀ part ∈ s.returnType, PartsThroughout program settings came part) :=
  forall_mem_descendants

/-- Shapes whose only parts are properties. -/
theorem partsBelow_of_properties
    (h : ∀ part ∈ s.properties, PartsThroughout program settings came part) (hargs : s.args = [])
    (hreturn : s.returnType = none) : PartsBelow program settings came s :=
  forall_mem_descendants_of_properties h hargs hreturn

end

namespace Walker.Traces

variable {came : Site → Prop} {w : Walker Attempt} (hw : w.Traces program settings came)
  {node : Node} {ctx : Context} {s : Shape}
include hw

/-- The shape of a member is that of a part, and so is everything below it. -/
theorem member {base : String} (hbase : base ≠ "") {owner : Option String} {member : Member}
    (h : w.describeMember base owner member = .ok s) : PartsThroughout program settings came s := by
  obtain ⟨t, ht, rfl⟩ := Walker.describeMember_eq_ok.mp h
  have hmember := Expansion.describeMember_eq_ok.mpr ⟨t, hw.described ht, rfl⟩
  exact partsThroughout_iff.mpr ⟨⟨_, .member hbase (hw.site ht) hmember⟩,
    (hw.below ht).congr (content_ofMember ..)⟩

/-- The same for all members of a list. -/
theorem members {members : List Member} {shapes : List Shape} (hbase : ctx.basePath ≠ "")
    (h : w.describeMembers members ctx = .ok shapes) :
    ∀ part ∈ shapes, PartsThroughout program settings came part := by
  intro part hpart
  obtain ⟨member, -, hmember⟩ := Attempt.exists_of_mem_right (describeMembers_eq_ok.mp h) hpart
  exact hw.member hbase hmember

/-- Heritage hands on the properties of its types, which are shapes of parts
already. -/
theorem flattened {types : List TypeNode} {shapes : List Shape}
    (h : w.flattened types ctx = .ok shapes) :
    ∀ part ∈ shapes, PartsThroughout program settings came part := by
  intro part hpart
  obtain ⟨type, -, whole, hwhole, hpart⟩ := mem_of_mem_flattened h hpart
  exact (partsBelow_iff.mp (hw.below hwhole)).1 part hpart

/-- Arguments come below properties that stay the shapes of their parts. -/
theorem splice {model : Shape} {args : TypeNode} {location : Location}
    (hmodel : PartsBelow program settings came model)
    (h : w.spliceArgs model args location ctx = .ok s) : PartsBelow program settings came s := by
  obtain ⟨shape, properties, hshape, -, hspliced, rfl⟩ := spliceArgs_eq_ok.mp h
  have harguments := (partsBelow_iff.mp (hw.below hshape)).1
  obtain ⟨hparts, hargs, hreturn⟩ := partsBelow_iff.mp hmodel
  have hgive (property argument : Shape)
      (hproperty : ∃ part, ShapeOf program settings came part property)
      (hargument : ∃ part, ShapeOf program settings came part argument) :
      ∃ part, ShapeOf program settings came part { property with args := [argument] } := by
    obtain ⟨part, hpart⟩ := hproperty
    obtain ⟨other, hother⟩ := hargument
    exact ⟨part, .given hpart hother⟩
  refine partsBelow_iff.mpr ⟨fun part hpart => ?_, hargs, hreturn⟩
  exact forall_mem_walk_of_given hgive hparts harguments (given_of_mem_spliced hspliced hpart)

/-- Each way in which a walker makes a shape puts nothing but parts below
it. -/
theorem partsBelow_of_made (hsite : came ⟨node, ctx⟩) (h : w.Made node ctx s) :
    PartsBelow program settings came s := by
  have hbase : ctx.basePath ≠ "" := hw.path hsite
  cases h with
  | primitive | value | link | nameOnly => exact partsBelow_of_properties nofun rfl rfl
  | literals name literals nullable hnode hliterals =>
    subst hnode
    refine partsBelow_of_properties (List.forall_mem_map.mpr fun literal hliteral => ?_) rfl rfl
    exact partsThroughout_iff.mpr
      ⟨⟨_, .value hsite hliterals hliteral⟩, partsBelow_of_properties nofun rfl rfl⟩
  | union name nullable hmany hproperties hnode htypes =>
    subst hnode
    refine partsBelow_of_properties (fun part hpart => ?_) rfl rfl
    obtain ⟨entry, hentry, hdescribed⟩ := Attempt.exists_of_mem_right hproperties hpart
    exact partsThroughout_iff.mpr
      ⟨⟨_, .alternative hsite htypes hentry (hw.site hdescribed) (hw.described hdescribed)⟩,
        hw.below hdescribed⟩
  | object hproperties => exact partsBelow_of_properties (hw.members hbase hproperties) rfl rfl
  | merged hproperties => exact partsBelow_of_properties (hw.flattened hproperties) rfl rfl
  | body name hproperties =>
    -- Inherited properties are those of the bases, and so are their parts.
    obtain ⟨inherited, own, hinherited, hown, rfl⟩ := bodyProperties_eq_ok.mp hproperties
    refine partsBelow_of_properties (fun part hpart => ?_) rfl rfl
    rcases mem_of_mem_overridden hpart with hpart | hpart
    · exact hw.members hbase hown part hpart
    · exact hw.flattened hinherited part hpart
  | enum hnode hform hproperties =>
    refine partsBelow_of_properties (fun part hpart => ?_) rfl rfl
    obtain ⟨member, -, hmember⟩ := Attempt.exists_of_mem_right hproperties hpart
    exact hw.member hbase hmember
  | function location hparams hargs hreturns hoperates =>
    refine partsBelow_iff.mpr ⟨nofun, fun part hpart => ?_, fun part hpart => ?_⟩
    · obtain ⟨param, hparam, hdescribed⟩ := Attempt.exists_of_mem_right hargs hpart
      obtain ⟨type, t, htype, ht, rfl⟩ := describeParameter_eq_ok.mp hdescribed
      have hpart := ShapeOf.parameter hsite hoperates hparam htype (hw.site ht) (hw.described ht)
      exact partsThroughout_iff.mpr ⟨⟨_, hpart⟩, (hw.below ht).congr (content_ofParameter ..)⟩
    · obtain rfl := Option.some.inj hpart
      have hpart := ShapeOf.returnType hsite hoperates rfl (hw.site hreturns)
        (hw.described hreturns)
      exact partsThroughout_iff.mpr ⟨⟨_, hpart⟩, hw.below hreturns⟩
  | same array nullable ht => exact (hw.below ht).congr rfl
  | target name ht => exact hw.below ht
  | named hdeclared ht =>
    have hbelow := hw.below ht
    unfold ofDeclaration Shape.document
    split <;> exact hbelow
  | model force modelName ht => exact (hw.below ht).model modelName
  | modelWith force named location hwraps ht hs =>
    exact hw.splice ((hw.below ht).model _) hs

end Walker.Traces

/-! ### Whole descriptions -/

/-- All shapes below the result of a run are those of parts at the sites that
the run came to. -/
theorem partsBelow_of_run {came : Site → Prop} (hpath : ∀ site, came site → site.ctx.basePath ≠ "")
    {levels : Nat} (hlevels : levels ≤ settings.maxDepth) {node : Node} {ctx : Context} {s : Shape}
    {sites : List Site} (h : (describeTraced program settings levels node ctx).run = .ok (s, sites))
    (hcame : ∀ site ∈ sites, came site) : PartsBelow program settings came s := by
  induction levels generalizing node ctx s sites with
  | zero => cases h
  | succ levels ih =>
    obtain ⟨hsite, t, ht, rfl⟩ := made_of_run h hcame
    have hw : (walkerConfined came program settings levels).Traces program settings came := by
      refine ⟨fun {site} => hpath site, fun hdescribed => ?_, fun hdescribed => ?_,
        fun hdescribed => ?_⟩
      all_goals obtain ⟨_, hrun, hbelow⟩ := walkerConfined_eq_ok.mp hdescribed
      · -- What is described takes a level, and the first site is its own.
        cases levels with
        | zero => cases hrun
        | succ levels => exact (made_of_run hrun hbelow).1
      · exact describe_of_describeWithin (by omega) (describeWithin_of_run hrun)
      · exact ih (by omega) hrun hbelow
    exact (hw.partsBelow_of_made hsite ht).congr (content_placed ctx t)

/-- In a loaded program without imported wrappers:

* a member that is described below a path has the description and the
  deprecation of its own doc comment, whatever its type is;
* below every shape that is described in a context with a path there are only
  shapes of parts, members among them that were reached through heritage,
  intersections and models;
* and about the shape of a part nothing is said but what the source says about
  the part: of a member its own doc comment, and of a parameter, a return type,
  an alternative or a value nothing at all. -/
theorem describe_documented {files : SourceFiles} {root : Path}
    (hload : (Program.load files root : Attempt Program) = .ok program)
    (hprogram : ∀ declaration, program.Declares declaration →
      PlainLinks settings declaration.importTypes) :
    (∀ member base owner s, PlainLinks settings member.importTypes → base ≠ "" →
      (describeMember program settings member base owner : Attempt Shape) = .ok s →
        s.description = member.doc.description ∧ s.deprecated = member.doc.deprecated) ∧
    ∀ node ctx s, PlainLinks settings node.importTypes → ctx.basePath ≠ "" →
      (describe program settings node ctx : Attempt Shape) = .ok s →
        let came := (· ∈ visited program settings node ctx)
        (∀ n ∈ s.descendants, ∃ part, ShapeOf program settings came part n) ∧
        ∀ part n, ShapeOf program settings came part n →
          n.description = part.doc.description ∧ n.deprecated = part.doc.deprecated := by
  have hplain : PlainProgram program settings := ⟨Program.named_of_load hload, hprogram⟩
  constructor
  · intro member base owner s hlinks hbase h
    exact Doc.mk.inj (doc_of_describeMember hplain hlinks hbase h)
  · intro node ctx s hlinks hbase h came
    have hvisited := plainLinks_of_visited hplain hlinks hbase
    refine ⟨?_, fun part n hpart => Doc.mk.inj (hpart.doc_eq hplain hvisited)⟩
    exact partsBelow_of_run (fun site hsite => (hvisited site hsite).2) (Nat.le_refl _)
      (run_of_describe h) fun _ => id

/-- An interface with an inherited member, a link to what it inherits from, and
an operation that takes such a link. -/
def postFiles : SourceFiles where
  entries :=
    [(⟨true, ["app.ts"]⟩,
      .text ("/** What has a label. */\n" ++
        "interface Tagged \x7b /** The label. */ label: string \x7d\n" ++
        "interface Post extends Tagged \x7b\n" ++
        "  author: Tagged; find(key: Tagged): \"low\" | \"high\"\n" ++
        "\x7d\n"))]

/-- The type `Post` in the first module. -/
def postType : TypeNode :=
  ⟨.reference ⟨.identifier "Post", [], 0⟩, {}⟩

/-- The paths and descriptions from a shape down. -/
def summaries (s : Shape) : List (String × String) :=
  s.walk.map fun n => (n.propertyPath, n.description)

/-- What is said about `Post`: the label has its own documentation, and that of
`Tagged` is nowhere. -/
def postSummaries : List (String × String) :=
  [("Post", ""), ("Post.label", "The label."), ("Post.author", ""), ("Post.find", ""),
    ("Post.find.key", ""), ("Post.find", ""), ("Post.find.low", ""), ("Post.find.high", "")]

/-- The run that the witness is about: the files load without an import type,
and the post is described with the summaries that were written. -/
theorem postFiles_loads :
    ∃ program s, (Program.load postFiles (Path.ofText "/app.ts") : Attempt Program) = .ok program ∧
      (∀ declaration, program.Declares declaration → declaration.importTypes = []) ∧
      (describe program {} (.type postType) (.root "Post") : Attempt Shape) = .ok s ∧
      summaries s = postSummaries := by
  have hanswer : (Program.load postFiles (Path.ofText "/app.ts") : Attempt Program).toOption.map
      (fun program =>
        (program.modules.toList.all fun scope =>
            scope.declarations.values.all (·.importTypes.isEmpty),
          (describe program {} (.type postType) (.root "Post") : Attempt Shape).toOption.map
            summaries)) =
        some (true, some postSummaries) := by
    decide +kernel
  obtain ⟨program, hload, hanswer⟩ := Attempt.exists_of_toOption_map hanswer
  obtain ⟨hplain, hsummaries⟩ := Prod.mk.inj hanswer
  obtain ⟨s, hdescribe, hsummaries⟩ := Attempt.exists_of_toOption_map hsummaries
  refine ⟨program, s, hload, ?_, hdescribe, hsummaries⟩
  rintro declaration ⟨scope, hscope, hdeclared⟩
  have hvalues := List.all_eq_true.mp hplain scope (Array.mem_toList_iff.mpr hscope)
  exact List.isEmpty_iff.mp (List.all_eq_true.mp hvalues declaration hdeclared)

/-- The author is linked and has nothing of the documentation of its type. -/
theorem describe_documented_posts :
    ∃ program s, (Program.load postFiles (Path.ofText "/app.ts") : Attempt Program) = .ok program ∧
      (describe program {} (.type postType) (.root "Post") : Attempt Shape) = .ok s ∧
      summaries s = postSummaries ∧
      ∀ n ∈ s.descendants, ∃ part,
        ShapeOf program {} (· ∈ visited program {} (.type postType) (.root "Post")) part n ∧
          n.description = part.doc.description := by
  obtain ⟨program, s, hload, hplain, hdescribe, hsummaries⟩ := postFiles_loads
  have hlinks (links : List ImportType) (h : links = []) : PlainLinks {} links := by
    simp [h, PlainLinks]
  obtain ⟨-, hdocumented⟩ := describe_documented hload
    fun declaration hdeclared => hlinks _ (hplain declaration hdeclared)
  obtain ⟨hparts, hdocs⟩ := hdocumented (.type postType) (.root "Post") s (hlinks _ rfl) (by decide)
    hdescribe
  refine ⟨program, s, hload, hdescribe, hsummaries, fun n hn => ?_⟩
  obtain ⟨part, hpart⟩ := hparts n hn
  exact ⟨part, hpart, (hdocs part n hpart).1⟩

end Expansion

end AppMetadata
