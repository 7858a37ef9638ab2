import AppMetadata.Proofs.Expansion.Rooting
import AppMetadata.Proofs.Expansion.WellFormed
import AppMetadata.Proofs.Group

/-!
# `AppMetadata.Proofs.Group.Members`: what a group makes of its members

Operations and actions are made of the properties of one root, which is the
object type of the group; models, inputs and selections are described member
by member. Either way each member is described as on its own.

* `properties_of_root`: the properties of a root, one for each member.
* `foldl_addUnique`: a list of types without the later ones of a name.
* `Extractor.groups_keep_members`: every group has what its members give, in
  their order, and nothing else.
-/

set_option autoImplicit false

namespace AppMetadata

open Expansion

namespace Group

/-! ### Types without the later ones of a name -/

/-- Whether no type of a list has a name. -/
def isNew (types : List Shape) (name : Option String) : Bool :=
  types.all (·.typeName != name)

/-- The types whose name no type before them has. -/
def firstNamed (types : List Shape) : List Shape :=
  (types.zipIdx.filter fun entry => isNew (types.take entry.2) entry.1.typeName).map (·.1)

/-- A name is new after two lists if it is after each of them. -/
theorem isNew_append (types more : List Shape) (name : Option String) :
    isNew (types ++ more) name = (isNew types name && isNew more name) :=
  List.all_append

/-- A type is added at the end, unless one of its name is there. -/
theorem addUnique_eq (types : List Shape) (type : Shape) :
    addUnique types type = types ++ if isNew types type.typeName then [type] else [] := by
  have hnew : (types.find? (·.typeName == type.typeName)).isNone = isNew types type.typeName := by
    rw [Bool.eq_iff_iff]
    simp [isNew]
  unfold addUnique novelty
  rw [← hnew]
  cases types.find? (·.typeName == type.typeName) with
  | none => simp
  | some known =>
    have hknown : (if known == type then Novelty.repeated else .conflicting) ≠ .new := by
      split <;> simp
    simp [hknown]

/-- The same for the closed form: the last type counts if no earlier one has
its name. -/
theorem firstNamed_concat (types : List Shape) (type : Shape) :
    firstNamed (types ++ [type]) =
      firstNamed types ++ if isNew types type.typeName then [type] else [] := by
  have hbefore : types.zipIdx.filter (fun entry =>
      isNew ((types ++ [type]).take entry.2) entry.1.typeName) =
      types.zipIdx.filter fun entry => isNew (types.take entry.2) entry.1.typeName := by
    refine List.filter_congr fun entry hentry => ?_
    have hlt := (List.mem_zipIdx' hentry).1
    rw [List.take_append_of_le_length (Nat.le_of_lt hlt)]
  rw [firstNamed, List.zipIdx_append, List.filter_append, hbefore, List.map_append]
  congr 1
  simp [List.filter_cons, apply_ite]

/-- Leaving out later types of a name leaves out no name. -/
theorem isNew_firstNamed (types : List Shape) (name : Option String) :
    isNew (firstNamed types) name = isNew types name := by
  induction types using List.reverseRecOn with
  | nil => rfl
  | append_singleton types type ih =>
    rw [firstNamed_concat, isNew_append, ih, isNew_append]
    cases hnew : isNew types type.typeName with
    | true => rfl
    | false =>
      -- A type that is left out has the name of an earlier one.
      obtain ⟨known, hknown, hname⟩ := List.all_eq_false.mp hnew
      rw [bne_iff_ne, ne_eq, Decidable.not_not] at hname
      cases hold : isNew types name with
      | false => rfl
      | true =>
        have := List.all_eq_true.mp hold known hknown
        simpa [isNew, hname] using this

/-- Adding types one by one keeps the first ones of their names. -/
theorem foldl_addUnique (types : List Shape) :
    types.foldl addUnique [] = firstNamed types := by
  induction types using List.reverseRecOn with
  | nil => rfl
  | append_singleton types type ih =>
    rw [List.foldl_append, ih, List.foldl_cons, List.foldl_nil, addUnique_eq, firstNamed_concat,
      isNew_firstNamed]

/-- No two of them have one name. -/
theorem nodup_firstNamed (types : List Shape) : ((firstNamed types).map (·.typeName)).Nodup := by
  rw [← foldl_addUnique]
  induction types using List.reverseRecOn with
  | nil => exact List.nodup_nil
  | append_singleton types type ih =>
    rw [List.foldl_append]
    exact typeNames_addUnique ih

/-- And each was among the given ones. -/
theorem mem_of_mem_firstNamed {types : List Shape} {type : Shape} (h : type ∈ firstNamed types) :
    type ∈ types := by
  obtain ⟨entry, hentry, rfl⟩ := List.mem_map.mp h
  exact List.fst_mem_of_mem_zipIdx (List.mem_filter.mp hentry).1

/-- A group that is found is an object type with these members. -/
theorem form_of_find {group : Group} {options : List Member} {type : TypeNode}
    {members : List Member} (h : group.find options = .ok (some (type, members))) :
    type.form = .object members := by
  unfold find at h
  split at h
  · cases h
  · split at h
    · split at h <;> cases h
      assumption
    · cases h

end Group

/-! ### Properties of a root -/

section

variable {program : Program} {settings : Settings}

/-- A member on its own is its type at the path of the member, with its name
and its comment. -/
theorem describeMember_eq_ok {member : Member} {base : String} {owner : Option String} {s : Shape} :
    (describeMember program settings member base owner : Attempt Shape) = .ok s ↔
      ∃ t, (describe program settings (.member member)
          { parentPath := joinPath base member.name, owner } : Attempt Shape) = .ok t ∧
        s = ofMember member (joinPath base member.name) t := by
  rw [describeMember_eq_walkerWithin, Walker.describeMember_eq_ok]
  simp only [describe_eq_describeWithin]
  rfl

/-- The properties of an object type at a root are its members, each described
as on its own. -/
theorem properties_of_root {type : TypeNode} {members : List Member} {owner : String} {root : Shape}
    (hform : type.form = .object members)
    (h : (describe program settings (.type type) (.root owner) : Attempt Shape) = .ok root) :
    List.Forall₂ (fun member property =>
        (describeMember program settings member owner (some owner) : Attempt Shape) = .ok property)
      members root.properties := by
  obtain ⟨levels, hlevels, h⟩ := describe_eq_ok.mp h
  obtain ⟨s, hs, rfl⟩ := describeWithin_succ_eq_ok.mp h
  have hobject :
        (walkerWithin program settings levels).describeType type (.root owner) = .ok s := hs
  unfold Walker.describeType at hobject
  rw [hform] at hobject
  obtain ⟨properties, hproperties, hs⟩ := Attempt.bind_eq_ok.mp hobject
  cases Attempt.pure_eq_ok.mp hs
  rw [Shape.properties_congr (content_placed ..)]
  refine (Walker.describeMembers_eq_ok.mp hproperties).imp fun member property hmember => ?_
  obtain ⟨t, ht, rfl⟩ := Walker.describeMember_eq_ok.mp hmember
  exact describeMember_eq_ok.mpr ⟨t, describe_of_describeWithin (by omega) ht, rfl⟩

end

/-! ### Steps that are taken one by one -/

namespace Attempt

/-- Collecting the answers of several steps is the same as taking all steps
first and then collecting. -/
theorem foldlM_eq_ok {α β γ : Type} {f : α → Attempt β} {add : γ → β → γ} {as : List α}
    {start result : γ} :
    as.foldlM (fun collected a => do return add collected (← f a)) start = .ok result ↔
      ∃ bs, List.Forall₂ (fun a b => f a = .ok b) as bs ∧ result = bs.foldl add start := by
  induction as generalizing start with
  | nil => simp
  | cons a as ih =>
    simp only [List.foldlM_cons, bind_eq_ok, pure_eq_ok, ih, List.forall₂_cons_left_iff]
    constructor
    · rintro ⟨_, ⟨b, hb, rfl⟩, bs, hbs, rfl⟩
      exact ⟨b :: bs, ⟨b, bs, hb, hbs, rfl⟩, rfl⟩
    · rintro ⟨_, ⟨b, bs, hb, hbs, rfl⟩, rfl⟩
      exact ⟨_, ⟨b, hb, rfl⟩, bs, hbs, rfl⟩

/-- A list of steps fails with its first failure. -/
theorem mapM_eq_error {α β : Type} {f : α → Attempt β} {as : List α} {e : ExtractionError} :
    as.mapM f = .error e ↔
      ∃ before a after, as = before ++ a :: after ∧ (∀ earlier ∈ before, ∃ b, f earlier = .ok b) ∧
        f a = .error e := by
  induction as with
  | nil => exact ⟨nofun, by simp⟩
  | cons a as ih =>
    have hpure (bs : List β) : (pure bs : Attempt _) ≠ .error e := nofun
    simp only [List.mapM_cons, bind_eq_error, hpure, and_false, exists_false, or_false]
    constructor
    · rintro (hhead | ⟨b, hb, htail⟩)
      · exact ⟨[], a, as, rfl, by simp, hhead⟩
      · obtain ⟨before, failed, after, rfl, hbefore, hfailed⟩ := ih.mp htail
        exact ⟨a :: before, failed, after, rfl, List.forall_mem_cons.mpr ⟨⟨b, hb⟩, hbefore⟩, hfailed⟩
    · rintro ⟨before, failed, after, hsplit, hbefore, hfailed⟩
      cases before with
      | nil =>
        cases hsplit
        exact .inl hfailed
      | cons first before =>
        cases hsplit
        obtain ⟨⟨b, hb⟩, hbefore⟩ := List.forall_mem_cons.mp hbefore
        exact .inr ⟨b, hb, ih.mpr ⟨before, failed, after, rfl, hbefore, hfailed⟩⟩

/-- Steps on results are steps on what they are results of. -/
theorem mapM_of_forall₂ {α β γ : Type} {f : α → Attempt β} {as : List α} {bs : List β}
    (h : List.Forall₂ (fun a b => f a = .ok b) as bs) (g : β → Attempt γ) :
    bs.mapM g = as.mapM fun a => f a >>= g := by
  induction h with
  | nil => rfl
  | cons hhead _ ih =>
    rw [List.mapM_cons, List.mapM_cons, ih, hhead]
    rfl

end Attempt

namespace Extractor

variable {extractor : Extractor} {group : Group} {type : TypeNode} {members : List Member}

/-! ### Members on their own -/

/-- The property that one member of a group is for the root of the group,
described by a walker of its own. -/
def propertyAlone (extractor : Extractor) (group : Group) (member : Member) : Attempt Shape :=
  describeMember extractor.program extractor.settings member group.rootName (some group.rootName)

/-- The pair of types of one member of the selections, each described by a
walker of its own. -/
def selectionAlone (extractor : Extractor) (member : Member) : Attempt Selection := do
  let (source, selection) ← Group.selectionTypes member
  let source ← Expansion.describe extractor.program extractor.settings (.type source)
    (.root member.name)
  let selection ← Expansion.describe extractor.program extractor.settings (.type selection)
    (.root member.name)
  return { source, selection }

/-- An answer that is brought into this computation is itself. -/
theorem ofExcept_eq {α : Type} (x : Except ExtractionError α) :
    (MonadExcept.ofExcept x : Attempt α) = x := by
  cases x <;> rfl

/-- A root of a group is described with a new count, so as a description of its
own. -/
theorem describeRoot_eq (extractor : Extractor) (type : TypeNode) (owner : String) :
    (fresh (extractor.describeRoot type owner) : Attempt Shape) =
      describe extractor.program extractor.settings (.type type) (.root owner) :=
  fresh_eq (describeRoot_related extractor type owner)

/-- A selection with its counts has the answer of one that counts nothing. -/
theorem selection_related (extractor : Extractor) (member : Member) :
    (counting 0).Related (extractor.selection member) (extractor.selectionAlone member) := by
  let S := counting 0
  unfold selection selectionAlone
  refine S.bind ?_ fun types => ?_
  · cases Group.selectionTypes member with
    | ok types => exact S.pure types
    | error e => exact S.throw e
  · exact S.bind (describeRoot_related extractor types.1 member.name) fun _ =>
      S.bind (describeRoot_related extractor types.2 member.name) fun _ => S.pure _

/-- Nothing is made of a note. -/
theorem noted_eq {α : Type} (x : Attempt α) (event : α → Event) :
    (do let a ← x
        note (event a)
        return a) = x := by
  cases x <;> rfl

/-- The operations of a group are the properties of its one root. -/
theorem operations_eq (h : group.find extractor.options = .ok (some (type, members))) :
    (extractor.operations group : Attempt _) =
      describe extractor.program extractor.settings (.type type) (.root group.rootName) >>=
        fun root => pure (root.properties.map Group.operation) := by
  unfold Extractor.operations Extractor.group
  rw [h, ofExcept_eq]
  show (fresh (extractor.describeRoot type group.rootName) : Attempt Shape) >>= _ = _
  rw [describeRoot_eq]
  rfl

/-- The actions are made of these properties, and the first one that is no
action fails. -/
theorem actions_eq (h : Group.actions.find extractor.options = .ok (some (type, members))) :
    (extractor.actions : Attempt _) =
      describe extractor.program extractor.settings (.type type) (.root Group.actions.rootName) >>=
        fun root => root.properties.mapM Group.action := by
  unfold Extractor.actions Extractor.group
  rw [h, ofExcept_eq]
  show (fresh (extractor.describeRoot type Group.actions.rootName) : Attempt Shape) >>= _ = _
  simp only [describeRoot_eq, ofExcept_eq, noted_eq]

/-- Each selection is described on its own. -/
theorem selections_eq (h : Group.selections.find extractor.options = .ok (some (type, members))) :
    (extractor.selections : Attempt _) = members.mapM extractor.selectionAlone := by
  have hfresh : fresh (members.mapM extractor.selection) =
      members.mapM extractor.selectionAlone :=
    fresh_eq ((counting 0).mapM members fun member _ => selection_related extractor member)
  unfold Extractor.selections Extractor.group
  rw [h, ofExcept_eq]
  show (fresh (members.mapM extractor.selection) : Attempt _) >>= _ = _
  rw [hfresh, noted_eq]

/-- The models are described on their own too, and repeated names are left out. -/
theorem models_eq (h : Group.models.find extractor.options = .ok (some (type, members))) :
    (extractor.models : Attempt _) = extractor.namedTypesAlone .models members := by
  unfold Extractor.models Extractor.group
  rw [h, ofExcept_eq]
  exact fresh_eq (namedTypes_related extractor .models members)

/-- So are the inputs. -/
theorem inputs_eq (h : Group.inputs.find extractor.options = .ok (some (type, members))) :
    (extractor.inputs : Attempt _) = extractor.namedTypesAlone .inputs members := by
  unfold Extractor.inputs Extractor.group
  rw [h, ofExcept_eq]
  exact fresh_eq (namedTypes_related extractor .inputs members)

/-- The types of a group are those of its members, without the later ones of a
name. -/
theorem namedTypesAlone_eq_ok {types : List Shape} :
    extractor.namedTypesAlone group members = .ok types ↔
      ∃ entries, List.Forall₂ (fun member entry => extractor.namedTypeAlone group member = .ok entry)
          members entries ∧ types = Group.firstNamed entries := by
  simp only [namedTypesAlone, Attempt.foldlM_eq_ok, Group.foldl_addUnique]

/-! ### What each member gives -/

variable {member : Member}

/-- A property of a root has the name of its member and stands below the name
of the group. If it is an operation it has a return type. -/
theorem property_at {property : Shape} (h : extractor.propertyAlone group member = .ok property) :
    property.propertyName = member.name ∧
      property.propertyPath = joinPath group.rootName member.name ∧
      (property.kind = .function → property.returnType.isSome = true) := by
  obtain ⟨t, ht, rfl⟩ := describeMember_eq_ok.mp h
  refine ⟨rfl, rfl, fun hkind => ?_⟩
  have hwell := describe_wellFormed ht t (by rw [Shape.walk_eq]; exact List.mem_cons_self ..)
  exact hwell.returnType.mpr hkind

/-- A node for an operation, made of the property of its member. -/
structure OperationOf (extractor : Extractor) (group : Group) (member : Member)
    (operation : Shape) : Prop where
  kind : operation.kind = .function
  returnType : operation.returnType.isSome = true
  propertyName : operation.propertyName = member.name
  propertyPath : operation.propertyPath = joinPath group.rootName member.name
  made : ∃ property, extractor.propertyAlone group member = .ok property ∧
    operation = Group.operation property

/-- An action, made of the property of its member. -/
structure ActionOf (member : Member) (property : Shape) (action : Action) : Prop where
  name : action.name = member.name
  returnType : property.property? "return" = some action.returnType
  query : action.query = property.property? "query"
  params : action.params = property.property? "params"
  headers : action.headers = property.property? "headers"
  cookies : action.cookies = property.property? "cookies"
  body : action.body = property.property? "body"

/-- An entry for a type, made of the description of its member. -/
structure EntryOf (extractor : Extractor) (member : Member) (type : TypeNode) (s entry : Shape) :
    Prop where
  type? : member.type? = some type
  described : (describe extractor.program extractor.settings (.type type) (.root member.name) :
    Attempt Shape) = .ok s
  made : entry = { s with
    typeName := some (s.typeName.getD member.name)
    description := if s.description.isEmpty then member.doc.description else s.description }

/-- The operation of a member is a function with a return type, at the place of
the member: the property itself if it is a function, else one that returns it. -/
theorem operationOf_operation {property : Shape}
    (h : extractor.propertyAlone group member = .ok property) :
    extractor.OperationOf group member (Group.operation property) := by
  obtain ⟨hname, hpath, hreturn⟩ := property_at h
  unfold Group.operation
  split
  · next hkind =>
    exact ⟨hkind, hreturn hkind, hname, hpath, property, h, by rw [Group.operation, if_pos hkind]⟩
  · next hkind =>
    exact ⟨rfl, rfl, hname, hpath, property, h, by rw [Group.operation, if_neg hkind]⟩

/-- An action has the name of its property and the shapes of those properties
of it that actions know. It needs the one called `return`. -/
theorem action_eq_ok {property : Shape} {action : Action} :
    Group.action property = .ok action ↔
      action.name = property.propertyName ∧ property.property? "return" = some action.returnType ∧
      action.query = property.property? "query" ∧ action.params = property.property? "params" ∧
      action.headers = property.property? "headers" ∧
      action.cookies = property.property? "cookies" ∧ action.body = property.property? "body" := by
  obtain ⟨name, returnType, query, params, headers, cookies, body⟩ := action
  unfold Group.action
  cases property.property? "return" with
  | none => simp
  | some answer =>
    simp only [Except.ok.injEq, Action.mk.injEq, Option.some.injEq]
    constructor
    · rintro ⟨rfl, rfl, rfl, rfl, rfl, rfl, rfl⟩
      exact ⟨rfl, rfl, rfl, rfl, rfl, rfl, rfl⟩
    · rintro ⟨rfl, rfl, rfl, rfl, rfl, rfl, rfl⟩
      exact ⟨rfl, rfl, rfl, rfl, rfl, rfl, rfl⟩

/-- The only failure is that this one is missing, and it names the action. -/
theorem action_eq_error {property : Shape} {name : String} :
    Group.action property = .error (.missingReturn name) ↔
      property.property? "return" = none ∧ property.propertyName = name := by
  unfold Group.action
  cases property.property? "return" <;> simp

/-- So a property becomes an action exactly if it has a `return`. -/
theorem exists_action {property : Shape} :
    (∃ action, Group.action property = .ok action) ↔
      (property.property? "return").isSome = true := by
  unfold Group.action
  cases property.property? "return" <;> simp

/-- An entry of the models or inputs is the type of its member, described as a
root, as `EntryOf` says. -/
theorem entryOf_namedTypeAlone {entry : Shape} :
    extractor.namedTypeAlone group member = .ok entry ↔
      ∃ type s, extractor.EntryOf member type s entry := by
  unfold namedTypeAlone
  cases htype : member.type? with
  | none =>
    constructor
    · intro h
      simp at h
    · rintro ⟨type, s, htype', -, -⟩
      rw [htype] at htype'
      cases htype'
  | some type =>
    have hname (s : Shape) : (s.typeName <|> some member.name) =
        some (s.typeName.getD member.name) := by
      cases s.typeName <;> rfl
    simp only [Attempt.bind_eq_ok, Attempt.pure_eq_ok, hname]
    constructor
    · rintro ⟨s, hs, rfl⟩
      exact ⟨type, s, htype, hs, rfl⟩
    · rintro ⟨_, s, htype', hs, rfl⟩
      obtain rfl := Option.some.inj (htype'.symm.trans htype)
      exact ⟨s, hs, rfl⟩

/-! ### Whole groups -/

/-- Whether the action of a member has an answer. -/
def HasReturn (extractor : Extractor) (member : Member) : Prop :=
  ∃ property, extractor.propertyAlone .actions member = .ok property ∧
    (property.property? "return").isSome = true

/-- The types that the members of a group give: their entries, without those
whose name an earlier one has. -/
def TypesOf (extractor : Extractor) (members : List Member) (types : List Shape) : Prop :=
  ∃ entries,
    List.Forall₂ (fun member entry => ∃ type s, extractor.EntryOf member type s entry)
      members entries ∧
    types = Group.firstNamed entries ∧ (∀ type ∈ types, type.typeName.isSome = true) ∧
    (types.map (·.typeName)).Nodup

/-- The entries of a whole group, with the first one for each name. -/
theorem typesOf_namedTypesAlone {types : List Shape}
    (h : extractor.namedTypesAlone group members = .ok types) :
    extractor.TypesOf members types := by
  obtain ⟨entries, hentries, rfl⟩ := namedTypesAlone_eq_ok.mp h
  simp only [entryOf_namedTypeAlone] at hentries
  refine ⟨entries, hentries, rfl, fun entry hentry => ?_, Group.nodup_firstNamed entries⟩
  obtain ⟨member, -, type, s, hentry⟩ :=
    Attempt.exists_of_mem_right hentries (Group.mem_of_mem_firstNamed hentry)
  rw [hentry.made]
  rfl

/-- The action of one member, described by a walker of its own. -/
def actionAlone (extractor : Extractor) (member : Member) : Attempt Action :=
  extractor.propertyAlone .actions member >>= Group.action

/-- Since the properties of the root are those of the members in order, the
actions can be made member by member. -/
theorem actions_eq_mapM (h : Group.actions.find extractor.options = .ok (some (type, members)))
    {root : Shape}
    (hroot : (describe extractor.program extractor.settings (.type type)
      (.root Group.actions.rootName) : Attempt Shape) = .ok root) :
    (extractor.actions : Attempt _) = members.mapM extractor.actionAlone := by
  rw [actions_eq h, hroot]
  exact Attempt.mapM_of_forall₂ (properties_of_root (Group.form_of_find h) hroot) Group.action

/-- An action that is made of a member alone, as `ActionOf` says. -/
theorem actionOf_actionAlone {action : Action} (h : extractor.actionAlone member = .ok action) :
    ∃ property, extractor.propertyAlone .actions member = .ok property ∧
      ActionOf member property action := by
  obtain ⟨property, hproperty, haction⟩ := Attempt.bind_eq_ok.mp h
  obtain ⟨hname, hreturn, hquery, hparams, hheaders, hcookies, hbody⟩ := action_eq_ok.mp haction
  exact ⟨property, hproperty, hname.trans (property_at hproperty).1, hreturn, hquery, hparams,
    hheaders, hcookies, hbody⟩

/-- A member has a `return` exactly if it becomes an action. -/
theorem hasReturn_iff : extractor.HasReturn member ↔
    ∃ action, extractor.actionAlone member = .ok action := by
  simp only [HasReturn, actionAlone, Attempt.bind_eq_ok, ← exists_action]
  constructor
  · rintro ⟨property, hproperty, action, haction⟩
    exact ⟨action, property, hproperty, haction⟩
  · rintro ⟨action, property, hproperty, haction⟩
    exact ⟨property, hproperty, action, haction⟩

/-- The first member without an answer is the one that is missed. -/
theorem actions_eq_error (h : Group.actions.find extractor.options = .ok (some (type, members)))
    {root : Shape} {name : String}
    (hroot : (describe extractor.program extractor.settings (.type type)
      (.root Group.actions.rootName) : Attempt Shape) = .ok root) :
    (extractor.actions : Attempt _) = .error (.missingReturn name) ↔
      ∃ before member after, members = before ++ member :: after ∧
        (∀ earlier ∈ before, extractor.HasReturn earlier) ∧
        ¬extractor.HasReturn member ∧ member.name = name := by
  rw [actions_eq_mapM h hroot, Attempt.mapM_eq_error]
  simp only [← hasReturn_iff]
  refine exists_congr fun before => exists_congr fun member => exists_congr fun after =>
    and_congr_right fun hsplit => and_congr_right fun _ => ?_
  -- Every member has been described, so only an answer can be missing.
  have hmember : member ∈ members := by simp [hsplit]
  have hproperties := (properties_of_root (Group.form_of_find h) hroot).flip
  obtain ⟨property, -, hproperty⟩ := Attempt.exists_of_mem_right hproperties hmember
  have halone : extractor.propertyAlone .actions member = .ok property := hproperty
  have hreturn : extractor.HasReturn member ↔ (property.property? "return").isSome = true := by
    simp only [HasReturn, halone, Except.ok.injEq, exists_eq_left']
  have haction : extractor.actionAlone member = Group.action property := by
    rw [actionAlone, halone]
    rfl
  rw [haction, action_eq_error, hreturn, (property_at halone).1, Option.not_isSome_iff_eq_none]

/-- What the groups of an application hold, where they are there and can be
extracted. Operations, actions and selections have one entry for each member,
in order: an operation has a return type and stands at the path of its
member, an action has the parts that its member has, and a selection has the
two types that its member names. The first action without an answer fails by
its name. Models and inputs are called by their own names or else by their
keys, and of a name only the first is kept. -/
theorem groups_keep_members (extractor : Extractor) :
    (∀ group ∈ [Group.queries, .mutations, .subscriptions], ∀ type members operations,
      group.find extractor.options = .ok (some (type, members)) →
      (extractor.operations group : Attempt _) = .ok operations →
      List.Forall₂ (extractor.OperationOf group) members operations) ∧
    (∀ type members, Group.actions.find extractor.options = .ok (some (type, members)) →
      (∀ actions, (extractor.actions : Attempt _) = .ok actions →
        List.Forall₂ (fun member action =>
            ∃ property, extractor.propertyAlone .actions member = .ok property ∧
              ActionOf member property action)
          members actions) ∧
      (∀ root name,
        (describe extractor.program extractor.settings (.type type)
          (.root Group.actions.rootName) : Attempt Shape) = .ok root →
        ((extractor.actions : Attempt _) = .error (.missingReturn name) ↔
          ∃ before member after, members = before ++ member :: after ∧
            (∀ earlier ∈ before, extractor.HasReturn earlier) ∧
            ¬extractor.HasReturn member ∧ member.name = name))) ∧
    (∀ type members pairs, Group.selections.find extractor.options = .ok (some (type, members)) →
      (extractor.selections : Attempt _) = .ok pairs →
      List.Forall₂ (fun member pair =>
          ∃ source selection, Group.selectionTypes member = .ok (source, selection) ∧
            (describe extractor.program extractor.settings (.type source) (.root member.name) :
              Attempt Shape) = .ok pair.source ∧
            (describe extractor.program extractor.settings (.type selection) (.root member.name) :
              Attempt Shape) = .ok pair.selection)
        members pairs) ∧
    (∀ type members types, Group.models.find extractor.options = .ok (some (type, members)) →
      (extractor.models : Attempt _) = .ok types → extractor.TypesOf members types) ∧
    (∀ type members types, Group.inputs.find extractor.options = .ok (some (type, members)) →
      (extractor.inputs : Attempt _) = .ok types → extractor.TypesOf members types) := by
  refine ⟨?operations, ?actions, ?selections, ?models, ?inputs⟩
  case operations =>
    intro group _ type members operations hfind h
    -- An operation group is one object type, so its members are the properties of the
    -- root, in their order.
    rw [operations_eq hfind] at h
    obtain ⟨root, hroot, h⟩ := Attempt.bind_eq_ok.mp h
    rw [Attempt.pure_eq_ok.mp h, List.forall₂_map_right_iff]
    exact (properties_of_root (Group.form_of_find hfind) hroot).imp fun member property hproperty =>
      operationOf_operation hproperty
  case actions =>
    intro type members hfind
    -- The error for a missing return type says which member is the first without one.
    refine ⟨fun actions h => ?_, fun root name hroot => actions_eq_error hfind hroot⟩
    obtain ⟨root, hroot, -⟩ := Attempt.bind_eq_ok.mp ((actions_eq hfind).symm.trans h)
    rw [actions_eq_mapM hfind hroot, Attempt.mapM_eq_ok] at h
    exact h.imp fun member action => actionOf_actionAlone
  case selections =>
    intro type members pairs hfind h
    rw [selections_eq hfind, Attempt.mapM_eq_ok] at h
    refine h.imp fun member pair hpair => ?_
    -- Both sides are described under the name of the member, the source first.
    obtain ⟨types, htypes, hpair⟩ := Attempt.bind_eq_ok.mp hpair
    obtain ⟨source, hsource, hpair⟩ := Attempt.bind_eq_ok.mp hpair
    obtain ⟨selection, hselection, hpair⟩ := Attempt.bind_eq_ok.mp hpair
    cases Attempt.pure_eq_ok.mp hpair
    exact ⟨types.1, types.2, htypes, hsource, hselection⟩
  case models =>
    intro type members types hfind h
    exact typesOf_namedTypesAlone ((models_eq hfind).symm.trans h)
  case inputs =>
    intro type members types hfind h
    exact typesOf_namedTypesAlone ((inputs_eq hfind).symm.trans h)

/-! ### A shop -/

/-- A property called `name`, of type `type`. -/
def keyed (name : String) (type : TypeNode) : Member where
  name := name
  form := .signature (some type)
  isOptional := false
  doc := {}
  location := {}

/-- A number. -/
def amount : TypeNode := ⟨.keyword .number, {}⟩

/-- An object type with `members`. -/
def record (members : List Member) : TypeNode := ⟨.object members, {}⟩

/-- An item with a price. -/
def item : Declaration where
  name := "Item"
  form := .interface [] [keyed "price" amount]
  doc := {}
  scope := 0
  location := {}
  isGeneric := false

/-- Items and the total of their prices. -/
def shopModels : List Member := [
  keyed "Item" ⟨.reference ⟨.identifier "Item", [], 0⟩, {}⟩,
  keyed "Other" ⟨.reference ⟨.identifier "Item", [], 0⟩, {}⟩,
  keyed "Total" amount]

/-- An action with an answer and one without. -/
def shopActions : List Member := [
  keyed "GET /total" (record [keyed "query" amount, keyed "return" amount]),
  keyed "POST /order" (record [keyed "body" amount])]

/-- Two models of one name, a field as an operation, and an action without an
answer after one that has one. -/
def shop : Extractor where
  program := { modules := #[{ path := ⟨true, ["app.ts"]⟩, declarations := [("Item", item)] }] }
  settings := {}
  options := [
    keyed "models" (record shopModels),
    keyed "queries" (record [keyed "total" amount]),
    keyed "actions" (record shopActions)]

/-- The shape of an item. -/
def itemShape : Shape where
  kind := .object
  typeName := some "Item"
  propertyPath := "Item"
  properties := [{ kind := .number, propertyName := "price", propertyPath := "Item.price" }]

/-- The total, as a model. -/
def totalShape : Shape where
  kind := .number
  typeName := some "Total"
  propertyPath := "Total"

/-- The total, as an operation. -/
def totalOperation : Shape where
  kind := .function
  propertyName := "total"
  propertyPath := "Query.total"
  returnType := some { kind := .number, propertyName := "total", propertyPath := "Query.total" }

/-- The second name for an item is left out, the field becomes an operation,
and the order misses its answer. -/
theorem groups_keep_members_shop :
    (shop.models : Attempt _) = .ok [itemShape, totalShape] ∧
      shop.TypesOf shopModels [itemShape, totalShape] ∧
      List.Forall₂ (shop.OperationOf .queries) [keyed "total" amount] [totalOperation] ∧
      (shop.actions : Attempt _) = .error (.missingReturn "POST /order") := by
  obtain ⟨hoperations, hactions, -, hmodels, -⟩ := groups_keep_members shop
  have hextracted : (shop.models : Attempt _) = .ok [itemShape, totalShape] :=
    (models_eq rfl).trans (namedTypesAlone_eq_ok.mpr
      ⟨[itemShape, itemShape, totalShape], .cons rfl (.cons rfl (.cons rfl .nil)), rfl⟩)
  refine ⟨hextracted, hmodels _ _ _ rfl hextracted, ?_, ?_⟩
  · exact hoperations .queries (by simp) _ _ _ rfl rfl
  · have hanswer : shop.HasReturn (shopActions[0]) := ⟨_, rfl, rfl⟩
    have hmissing : ¬shop.HasReturn (shopActions[1]) := by
      rintro ⟨property, hproperty, hreturn⟩
      cases hproperty
      cases hreturn
    refine ((hactions _ shopActions rfl).2 _ "POST /order" rfl).mpr
      ⟨[shopActions[0]], shopActions[1], [], rfl, ?_, hmissing, rfl⟩
    rintro earlier (_ | ⟨_, ⟨⟩⟩)
    exact hanswer

end Extractor

end AppMetadata
