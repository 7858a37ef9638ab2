import AppMetadata.Application
import AppMetadata.Proofs.Json
import AppMetadata.Proofs.Shape

/-!
# `AppMetadata.Proofs.RoundTrip`: what is written is read again

A record of the metadata is told by the formats of its fields (`Format`).
Two JSON values say the same in a format (`Same`) if they differ only in what
a reader forgets: fields of other names, whether a field is null or missing,
the order of the fields, and how a record or a kind is laid out.

* `ReadAs`: exactly the values that say the same as the written one are read
  as a value. It is proved for texts, flags, kinds and deprecations, and then
  from the parts of a list or a record for the whole.
* `Application.roundTrip`: the metadata of an application, read and written.
-/

set_option autoImplicit false

namespace AppMetadata

namespace Json

/-! ### Formats -/

/-- The records of the metadata. -/
inductive RecordType
  | shape
  | action
  | selection
  | application
deriving DecidableEq, Repr

/-- The formats of its values. -/
inductive Format
  | text
  | flag
  | kind
  | deprecation
  | record (type : RecordType)
  | list (items : Format)
deriving DecidableEq, Repr

/-- The fields of a record with their formats. -/
def RecordType.fields : RecordType → List (String × Format)
  | shape => [
      ("kind", .kind), ("typeName", .text), ("modelName", .text), ("propertyName", .text),
      ("propertyPath", .text), ("array", .flag), ("nullable", .flag), ("canBeUndefined", .flag),
      ("description", .text), ("deprecated", .deprecation), ("properties", .list (.record .shape)),
      ("args", .list (.record .shape)), ("returnType", .record .shape)]
  | action => [
      ("name", .text), ("return", .record .shape), ("query", .record .shape),
      ("params", .record .shape), ("headers", .record .shape), ("cookies", .record .shape),
      ("body", .record .shape)]
  | selection => [("source", .record .shape), ("selection", .record .shape)]
  | application => [
      ("name", .text), ("actions", .list (.record .action)), ("models", .list (.record .shape)),
      ("inputs", .list (.record .shape)), ("queries", .list (.record .shape)),
      ("mutations", .list (.record .shape)), ("subscriptions", .list (.record .shape)),
      ("selections", .list (.record .selection))]

/-- The names of the fields of a record. -/
def RecordType.names (type : RecordType) : List String :=
  type.fields.map (·.1)

/-- The word for a kind, alone or as the only field of an object. -/
def kindWord? : Json → Option String
  | .string word => some word
  | .object [(word, .null)] => some word
  | _ => none

/-- Two values that say the same in a format. Records are compared by what is
given under the names of their fields, and by nothing else. -/
inductive Same : Format → Json → Json → Prop
  | text (text : String) : Same .text (.string text) (.string text)
  | flag (value : Bool) : Same .flag (.bool value) (.bool value)
  | kind {json json' : Json} {word : String} :
      json.kindWord? = some word → json'.kindWord? = some word → Same .kind json json'
  | marked (value : Bool) : Same .deprecation (.bool value) (.bool value)
  | reason (text : String) : Same .deprecation (.string text) (.string text)
  | list {format : Format} {items items' : List Json} :
      items.length = items'.length →
      (∀ pair ∈ items.zip items', Same format pair.1 pair.2) →
      Same (.list format) (.array items) (.array items')
  | record {type : RecordType} {json json' : Json} {record : json.Record}
      {record' : json'.Record} :
      json.record? type.names = some record → json'.record? type.names = some record' →
      (∀ field ∈ type.fields,
        (record.given? field.1).isSome = (record'.given? field.1).isSome) →
      (∀ field ∈ type.fields, ∀ value ∈ record.given? field.1, ∀ value' ∈ record'.given? field.1,
        Same field.2 value value') →
      Same (.record type) json json'

/-- Two optional values are related if both are missing, or both are there and
related. -/
theorem optionRel_iff {α β : Type} {R : α → β → Prop} {a : Option α} {b : Option β} :
    Option.Rel R a b ↔ a.isSome = b.isSome ∧ ∀ x ∈ a, ∀ y ∈ b, R x y := by
  cases a <;> cases b <;> simp

/-- Two arrays are the same as lists of a format if their items are, one by
one. -/
theorem same_list_iff {format : Format} {json : Json} {items' : List Json} :
    Same (.list format) json (.array items') ↔
      ∃ items, json = .array items ∧ List.Forall₂ (Same format) items items' := by
  constructor
  · intro h
    cases h with
    | list hlength hitems =>
      exact ⟨_, rfl, List.forall₂_iff_zip.mpr ⟨hlength, fun h => hitems _ h⟩⟩
  · rintro ⟨items, rfl, h⟩
    obtain ⟨hlength, hitems⟩ := List.forall₂_iff_zip.mp h
    exact .list hlength fun _ h => hitems h

/-- What is the same as a record has the same fields, whatever their order and
whatever else there is. -/
theorem same_record_iff {type : RecordType} {json json' : Json} {record' : json'.Record}
    (hrecord' : json'.record? type.names = some record') :
    Same (.record type) json json' ↔
      ∃ record, json.record? type.names = some record ∧
        ∀ field ∈ type.fields,
          Option.Rel (Same field.2) (record.given? field.1) (record'.given? field.1) := by
  simp only [optionRel_iff]
  constructor
  · intro h
    cases h with
    | record hrecord hknown hgiven hvalues =>
      obtain rfl := Option.some.inj (hknown.symm.trans hrecord')
      exact ⟨_, hrecord, fun field hfield => ⟨hgiven field hfield, hvalues field hfield⟩⟩
  · rintro ⟨record, hrecord, hfields⟩
    exact .record hrecord hrecord' (fun field hfield => (hfields field hfield).1)
      fun field hfield => (hfields field hfield).2

/-- A record says the same as itself if its fields do. -/
theorem same_self {type : RecordType} {json : Json} {record : json.Record}
    (hrecord : json.record? type.names = some record)
    (hfields : ∀ field ∈ type.fields, ∀ value ∈ record.given? field.1,
      Same field.2 value value) :
    Same (.record type) json json := by
  refine .record hrecord hrecord (fun _ _ => rfl) fun field hfield value hvalue value' hvalue' => ?_
  obtain rfl := Option.mem_unique hvalue hvalue'
  exact hfields field hfield value hvalue

/-- A list of values that are written each as the same is written as the same. -/
theorem same_self_list {α : Type} {format : Format} {write : α → Json} {values : List α}
    (h : ∀ value ∈ values, Same format (write value) (write value)) :
    Same (.list format) (.array (values.map write)) (.array (values.map write)) :=
  same_list_iff.mpr ⟨_, rfl, List.forall₂_same.mpr (List.forall_mem_map.mpr h)⟩

/-- So is a value that may be missing. -/
theorem same_self_option {α : Type} {format : Format} {write : α → Json} {value : Option α}
    (h : ∀ known ∈ value, Same format (write known) (write known)) :
    ∀ written ∈ value.map write, Same format written written := by
  intro written hwritten
  obtain ⟨known, hknown, rfl⟩ := Option.map_eq_some_iff.mp hwritten
  exact h known hknown

/-- Each deprecation is written as a flag or a text, which are read as they
stand. -/
theorem same_self_deprecation (value : Deprecation) :
    Same .deprecation value.toJson value.toJson := by
  cases value
  · exact .marked _
  · exact .reason _

/-! ### Readers -/

section

variable {α : Type}

/-- A deprecation is never written as null, so its field is always there. -/
theorem isNull_deprecation (value : Deprecation) : value.toJson.isNull = false := by
  cases value <;> rfl

/-- Exactly the values that say the same as `written` are read as `value`. -/
def ReadAs (read : Json → Option α) (format : Format) (value : α) (written : Json) : Prop :=
  ∀ json, read json = some value ↔ Same format json written

/-- A text is what is read from it, and from nothing else. -/
theorem readAs_text (value : String) : ReadAs text? .text value (.string value) := by
  intro json
  constructor
  · intro h
    cases json <;> cases h
    exact .text _
  · rintro ⟨⟩
    rfl

/-- So is a truth value. -/
theorem readAs_flag (value : Bool) : ReadAs bool? .flag value (.bool value) := by
  intro json
  constructor
  · intro h
    cases json <;> cases h
    exact .flag _
  · rintro ⟨⟩
    rfl

/-- A deprecation is a text with the reason, or a truth value. -/
theorem readAs_deprecation (value : Deprecation) :
    ReadAs Deprecation.ofJson? .deprecation value value.toJson := by
  intro json
  constructor
  · intro h
    cases json <;> cases h
    · exact .marked _
    · exact .reason _
  · intro h
    cases value <;> cases h <;> rfl

/-- A kind is read from a word. -/
theorem ofJson?_eq_kindWord? (json : Json) :
    Kind.ofJson? json = json.kindWord?.bind Kind.ofName? := by
  unfold Kind.ofJson? kindWord?
  split <;> simp_all

/-- The words of the kinds are different, so the word tells the kind. -/
theorem ofName?_eq_some {word : String} {kind : Kind} :
    Kind.ofName? word = some kind ↔ word = kind.name := by
  constructor
  · intro h
    unfold Kind.ofName? at h
    have hname := List.find?_some h
    exact (beq_iff_eq.mp hname).symm
  · rintro rfl
    exact kind.ofName?_name

/-- A kind is read from its own word alone. -/
theorem readAs_kind (value : Kind) : ReadAs Kind.ofJson? .kind value (.string value.name) := by
  intro json
  rw [ofJson?_eq_kindWord?, Option.bind_eq_some_iff]
  constructor
  · rintro ⟨word, hword, hkind⟩
    rw [ofName?_eq_some] at hkind
    exact .kind hword (congrArg some hkind.symm)
  · intro h
    cases h with
    | kind hword hkind => exact ⟨_, hword, ofName?_eq_some.mpr (Option.some.inj hkind).symm⟩

/-- Lists are read item by item. -/
theorem readAs_list {read : Json → Option α} {format : Format} {write : α → Json}
    {values : List α} (h : ∀ value ∈ values, ReadAs read format value (write value)) :
    ReadAs (readItems read) (.list format) values (.array (values.map write)) := by
  intro json
  rw [readItems_eq_some, same_list_iff]
  refine exists_congr fun items => and_congr_right fun _ => ?_
  rw [List.forall₂_map_right_iff, List.forall₂_iff_zip, List.forall₂_iff_zip]
  refine and_congr_right fun _ => ?_
  constructor
  · exact fun hread _ _ hpair => (h _ (List.of_mem_zip hpair).2 _).mp (hread hpair)
  · exact fun hsame _ _ hpair => (h _ (List.of_mem_zip hpair).2 _).mpr (hsame hpair)

variable {json : Json} {record : json.Record} {name : String}

/-- A field that must be there is read as what is written in it. -/
theorem ReadAs.required {read : Json → Option α} {format : Format} {value : α} {written : Json}
    (h : ReadAs read format value written) (hnull : read .null = none) :
    record.required name read = some value ↔
      Option.Rel (Same format) (record.given? name) (some written) := by
  rw [Record.required_eq_some hnull]
  cases record.given? name <;> simp [h _]

/-- And so is one that may be missing, if it is written. -/
theorem ReadAs.optional {read : Json → Option α} {format : Format} {value : Option α}
    {write : α → Json} (h : ∀ known ∈ value, ReadAs read format known (write known)) :
    record.optional name read = some value ↔
      Option.Rel (Same format) (record.given? name) (value.map write) := by
  rw [Record.optional_eq_some]
  cases value with
  | none => cases record.given? name <;> simp
  | some known => cases record.given? name <;> simp [h known rfl _]

end

end Json

open Json

/-! ### Shapes -/

namespace Shape

/-- Shapes are written one by one. -/
theorem toJsonAll_eq_map (shapes : List Shape) : toJsonAll shapes = shapes.map toJson := by
  induction shapes with
  | nil => rfl
  | cons shape shapes ih => rw [toJsonAll, ih, List.map_cons]

/-- And read one by one. -/
theorem ofJsonAll?_eq (json : Json) : ofJsonAll? json = readItems ofJson? json :=
  Json.bind_items? ofJson? json

/-- A shape is read from a record, field by field. -/
theorem ofJson?_eq_some {json : Json} {s : Shape} :
    ofJson? json = some s ↔
      ∃ record, json.record? fieldNames = some record ∧
        record.required "kind" Kind.ofJson? = some s.kind ∧
        record.optional "typeName" Json.text? = some s.typeName ∧
        record.optional "modelName" Json.text? = some s.modelName ∧
        record.required "propertyName" Json.text? = some s.propertyName ∧
        record.required "propertyPath" Json.text? = some s.propertyPath ∧
        record.required "array" Json.bool? = some s.array ∧
        record.required "nullable" Json.bool? = some s.nullable ∧
        record.required "canBeUndefined" Json.bool? = some s.canBeUndefined ∧
        record.required "description" Json.text? = some s.description ∧
        record.required "deprecated" Deprecation.ofJson? = some s.deprecated ∧
        record.required "properties" (readItems ofJson?) = some s.properties ∧
        record.required "args" (readItems ofJson?) = some s.args ∧
        record.optional "returnType" ofJson? = some s.returnType := by
  rw [ofJson?]
  constructor
  · intro h
    -- A list is read in two steps: it must be there, and then its items.
    obtain ⟨record, hrecord, h⟩ := Option.bind_eq_some_iff.mp h
    obtain ⟨_, hkind, h⟩ := Option.bind_eq_some_iff.mp h
    obtain ⟨_, htypeName, h⟩ := Option.bind_eq_some_iff.mp h
    obtain ⟨_, hmodelName, h⟩ := Option.bind_eq_some_iff.mp h
    obtain ⟨_, hpropertyName, h⟩ := Option.bind_eq_some_iff.mp h
    obtain ⟨_, hpropertyPath, h⟩ := Option.bind_eq_some_iff.mp h
    obtain ⟨_, harray, h⟩ := Option.bind_eq_some_iff.mp h
    obtain ⟨_, hnullable, h⟩ := Option.bind_eq_some_iff.mp h
    obtain ⟨_, hundefined, h⟩ := Option.bind_eq_some_iff.mp h
    obtain ⟨_, hdescription, h⟩ := Option.bind_eq_some_iff.mp h
    obtain ⟨_, hdeprecated, h⟩ := Option.bind_eq_some_iff.mp h
    obtain ⟨_, hproperties, h⟩ := Option.bind_eq_some_iff.mp h
    obtain ⟨_, hproperty, h⟩ := Option.bind_eq_some_iff.mp h
    obtain ⟨_, hargs, h⟩ := Option.bind_eq_some_iff.mp h
    obtain ⟨_, harg, h⟩ := Option.bind_eq_some_iff.mp h
    obtain ⟨_, hreturn, h⟩ :=
      Option.bind_eq_some_iff.mp ((Record.match_present? _ _).symm.trans h)
    obtain rfl := Option.some.inj h
    exact ⟨record, hrecord, hkind, htypeName, hmodelName, hpropertyName, hpropertyPath, harray,
      hnullable, hundefined, hdescription, hdeprecated,
      Record.required_readItems_eq_some.mpr ⟨_, hproperties, hproperty⟩,
      Record.required_readItems_eq_some.mpr ⟨_, hargs, harg⟩, hreturn⟩
  · rintro ⟨record, hrecord, hkind, htypeName, hmodelName, hpropertyName, hpropertyPath, harray,
      hnullable, hundefined, hdescription, hdeprecated, hproperties, hargs, hreturn⟩
    obtain ⟨_, hproperties, hproperty⟩ := Record.required_readItems_eq_some.mp hproperties
    obtain ⟨_, hargs, harg⟩ := Record.required_readItems_eq_some.mp hargs
    refine Option.bind_eq_some_iff.mpr ⟨record, hrecord, ?_⟩
    refine Option.bind_eq_some_iff.mpr ⟨_, hkind, ?_⟩
    refine Option.bind_eq_some_iff.mpr ⟨_, htypeName, ?_⟩
    refine Option.bind_eq_some_iff.mpr ⟨_, hmodelName, ?_⟩
    refine Option.bind_eq_some_iff.mpr ⟨_, hpropertyName, ?_⟩
    refine Option.bind_eq_some_iff.mpr ⟨_, hpropertyPath, ?_⟩
    refine Option.bind_eq_some_iff.mpr ⟨_, harray, ?_⟩
    refine Option.bind_eq_some_iff.mpr ⟨_, hnullable, ?_⟩
    refine Option.bind_eq_some_iff.mpr ⟨_, hundefined, ?_⟩
    refine Option.bind_eq_some_iff.mpr ⟨_, hdescription, ?_⟩
    refine Option.bind_eq_some_iff.mpr ⟨_, hdeprecated, ?_⟩
    refine Option.bind_eq_some_iff.mpr ⟨_, hproperties, ?_⟩
    refine Option.bind_eq_some_iff.mpr ⟨_, hproperty, ?_⟩
    refine Option.bind_eq_some_iff.mpr ⟨_, hargs, ?_⟩
    refine Option.bind_eq_some_iff.mpr ⟨_, harg, ?_⟩
    refine (Record.match_present? _ _).trans (Option.bind_eq_some_iff.mpr ⟨_, hreturn, ?_⟩)
    cases s
    rfl

/-- A text that is missing is no field. -/
theorem textField_eq (name : String) (text : Option String) :
    textField name text = Json.field name (text.map .string) := by
  cases text <;> rfl

/-- Neither is a return type that is missing. -/
theorem returnField_eq (returnType : Option Shape) :
    returnField returnType = Json.field "returnType" (returnType.map toJson) := by
  cases returnType <;> rfl

/-- A shape is an object, so a field that holds one is there. -/
theorem isNull_toJson (s : Shape) : s.toJson.isNull = false := by
  cases s
  rfl

/-- What the record of a written shape holds. -/
theorem exists_record (s : Shape) :
    ∃ record, s.toJson.record? RecordType.shape.names = some record ∧
      record.given? "kind" = some (.string s.kind.name) ∧
      record.given? "typeName" = s.typeName.map .string ∧
      record.given? "modelName" = s.modelName.map .string ∧
      record.given? "propertyName" = some (.string s.propertyName) ∧
      record.given? "propertyPath" = some (.string s.propertyPath) ∧
      record.given? "array" = some (.bool s.array) ∧
      record.given? "nullable" = some (.bool s.nullable) ∧
      record.given? "canBeUndefined" = some (.bool s.canBeUndefined) ∧
      record.given? "description" = some (.string s.description) ∧
      record.given? "deprecated" = some s.deprecated.toJson ∧
      record.given? "properties" = some (.array (s.properties.map toJson)) ∧
      record.given? "args" = some (.array (s.args.map toJson)) ∧
      record.given? "returnType" = s.returnType.map toJson := by
  obtain ⟨kind, typeName, modelName, propertyName, propertyPath, array, nullable, canBeUndefined,
    description, deprecated, properties, args, returnType⟩ := s
  rw [toJson, textField_eq, textField_eq, returnField_eq]
  refine (record?_object ?_ _).imp fun record hrecord => ⟨hrecord.1, ?_⟩
  · refine List.Sublist.nodup ?_ (by decide : RecordType.shape.names.Nodup)
    simp only [List.map_append]
    exact ((((List.Sublist.refl ["kind"]).append (names_field_sublist "typeName" _)).append
      (names_field_sublist "modelName" _)).append (List.Sublist.refl _)).append
      (names_field_sublist "returnType" _)
  · simp [hrecord.2, List.lookup_append, lookup_field, List.lookup_cons,
      filter_map_isNull isNull_string, filter_map_isNull isNull_toJson, isNull_deprecation, toJsonAll_eq_map]

/-- A written shape says the same as itself. -/
theorem same_toJson (s : Shape) : Same (.record .shape) s.toJson s.toJson := by
  induction s using induction_parts with
  | step s hproperties hargs hreturn =>
    obtain ⟨record, hrecord, hkind, htypeName, hmodelName, hpropertyName, hpropertyPath, harray,
      hnullable, hundefined, hdescription, hdeprecated, hrecordProperties, hrecordArgs,
      hrecordReturn⟩ := s.exists_record
    have htext (text : Option String) : ∀ value ∈ text.map Json.string, Same .text value value :=
      same_self_option fun text _ => .text text
    refine same_self hrecord ?_
    simp only [RecordType.fields, List.forall_mem_cons, List.not_mem_nil, IsEmpty.forall_iff,
      implies_true, and_true, Option.mem_some, forall_eq', *]
    exact ⟨.kind rfl rfl, htext _, htext _, .text _, .text _, .flag _, .flag _, .flag _, .text _,
      same_self_deprecation _, same_self_list hproperties, same_self_list hargs,
      same_self_option hreturn⟩

/-- Null is no shape. -/
theorem ofJson?_null : ofJson? .null = none := by
  rw [ofJson?]
  rfl

/-- Exactly the values that say the same as a written shape are read as it. -/
theorem readAs_toJson (s : Shape) : ReadAs ofJson? (.record .shape) s s.toJson := by
  induction s using induction_parts with
  | step s hproperties hargs hreturn =>
    intro json
    obtain ⟨written, hwritten, hkind, htypeName, hmodelName, hpropertyName, hpropertyPath, harray,
      hnullable, hundefined, hdescription, hdeprecated, hwrittenProperties, hwrittenArgs,
      hwrittenReturn⟩ := s.exists_record
    rw [ofJson?_eq_some, same_record_iff hwritten]
    refine exists_congr fun record => and_congr_right fun _ => ?_
    rw [(readAs_kind s.kind).required rfl, ReadAs.optional (fun name _ => readAs_text name),
      ReadAs.optional (fun name _ => readAs_text name), (readAs_text _).required rfl,
      (readAs_text _).required rfl, (readAs_flag _).required rfl, (readAs_flag _).required rfl,
      (readAs_flag _).required rfl, (readAs_text _).required rfl,
      (readAs_deprecation _).required rfl, (readAs_list hproperties).required rfl,
      (readAs_list hargs).required rfl, ReadAs.optional hreturn]
    simp only [RecordType.fields, List.forall_mem_cons, List.not_mem_nil, IsEmpty.forall_iff,
      implies_true, and_true, *]

/-- A list of shapes is read from what is written of it, and from nothing that
is not the same. -/
theorem readAs_toJsonAll (shapes : List Shape) :
    ReadAs ofJsonAll? (.list (.record .shape)) shapes (.array (toJsonAll shapes)) := by
  rw [toJsonAll_eq_map, funext ofJsonAll?_eq]
  exact readAs_list fun shape _ => shape.readAs_toJson

end Shape

/-! ### Actions and selections -/

namespace Action

/-- An action is read from an object that has a name and a return type. The
five other shapes may be missing. -/
theorem ofJson?_eq_some {json : Json} {action : Action} :
    ofJson? json = some action ↔
      ∃ record, json.record? fieldNames = some record ∧
        record.required "name" Json.text? = some action.name ∧
        record.required "return" Shape.ofJson? = some action.returnType ∧
        record.optional "query" Shape.ofJson? = some action.query ∧
        record.optional "params" Shape.ofJson? = some action.params ∧
        record.optional "headers" Shape.ofJson? = some action.headers ∧
        record.optional "cookies" Shape.ofJson? = some action.cookies ∧
        record.optional "body" Shape.ofJson? = some action.body := by
  obtain ⟨name, returnType, query, params, headers, cookies, body⟩ := action
  simp [ofJson?, Option.bind_eq_some_iff]

/-- A shape that is missing is no field. -/
theorem shapeField_eq (name : String) (shape : Option Shape) :
    shapeField name shape = Json.field name (shape.map Shape.toJson) := by
  cases shape <;> rfl

/-- What is written of an action is an object with its fields, of which the
missing ones are left out. -/
theorem exists_record (action : Action) :
    ∃ record, action.toJson.record? RecordType.action.names = some record ∧
      record.given? "name" = some (.string action.name) ∧
      record.given? "return" = some action.returnType.toJson ∧
      record.given? "query" = action.query.map Shape.toJson ∧
      record.given? "params" = action.params.map Shape.toJson ∧
      record.given? "headers" = action.headers.map Shape.toJson ∧
      record.given? "cookies" = action.cookies.map Shape.toJson ∧
      record.given? "body" = action.body.map Shape.toJson := by
  rw [toJson, shapeField_eq, shapeField_eq, shapeField_eq, shapeField_eq, shapeField_eq]
  refine (record?_object ?_ _).imp fun record hrecord => ⟨hrecord.1, ?_⟩
  · refine List.Sublist.nodup ?_ (by decide : RecordType.action.names.Nodup)
    simp only [List.map_append]
    exact (((((List.Sublist.refl ["name", "return"]).append
      (names_field_sublist "query" _)).append (names_field_sublist "params" _)).append
      (names_field_sublist "headers" _)).append (names_field_sublist "cookies" _)).append
      (names_field_sublist "body" _)
  · simp [hrecord.2, List.lookup_append, lookup_field, List.lookup_cons,
      filter_map_isNull Shape.isNull_toJson, Shape.isNull_toJson]

/-- An action is written as itself. -/
theorem same_toJson (action : Action) :
    Same (.record .action) action.toJson action.toJson := by
  obtain ⟨record, hrecord, hname, hreturn, hquery, hparams, hheaders, hcookies, hbody⟩ :=
    action.exists_record
  have hpart (part : Option Shape) :
      ∀ value ∈ part.map Shape.toJson, Same (.record .shape) value value :=
    same_self_option fun shape _ => shape.same_toJson
  refine same_self hrecord ?_
  simp only [RecordType.fields, List.forall_mem_cons, List.not_mem_nil, IsEmpty.forall_iff,
    implies_true, and_true, Option.mem_some, forall_eq', *]
  exact ⟨.text _, action.returnType.same_toJson, hpart _, hpart _, hpart _, hpart _, hpart _⟩

/-- An action is read from what is written of it, and from nothing that is not
the same. -/
theorem readAs_toJson (action : Action) :
    ReadAs ofJson? (.record .action) action action.toJson := by
  intro json
  obtain ⟨written, hwritten, hname, hreturn, hquery, hparams, hheaders, hcookies, hbody⟩ :=
    action.exists_record
  rw [ofJson?_eq_some, same_record_iff hwritten]
  refine exists_congr fun record => and_congr_right fun _ => ?_
  rw [(readAs_text _).required rfl, (Shape.readAs_toJson _).required Shape.ofJson?_null]
  simp only [ReadAs.optional fun shape _ => Shape.readAs_toJson shape]
  simp only [RecordType.fields, List.forall_mem_cons, List.not_mem_nil, IsEmpty.forall_iff,
    implies_true, and_true, *]

end Action

namespace Selection

/-- A selection is read from an object with both of its shapes. -/
theorem ofJson?_eq_some {json : Json} {pair : Selection} :
    ofJson? json = some pair ↔
      ∃ record, json.record? ["source", "selection"] = some record ∧
        record.required "source" Shape.ofJson? = some pair.source ∧
        record.required "selection" Shape.ofJson? = some pair.selection := by
  obtain ⟨source, selection⟩ := pair
  simp [ofJson?, Option.bind_eq_some_iff]

/-- What is written of a selection is an object with these two fields. -/
theorem exists_record (pair : Selection) :
    ∃ record, pair.toJson.record? RecordType.selection.names = some record ∧
      record.given? "source" = some pair.source.toJson ∧
      record.given? "selection" = some pair.selection.toJson := by
  rw [toJson]
  refine (record?_object ?_ _).imp fun record hrecord => ⟨hrecord.1, ?_⟩
  · simp
  · simp [hrecord.2, List.lookup_cons, Shape.isNull_toJson]

/-- A selection is written as itself. -/
theorem same_toJson (pair : Selection) :
    Same (.record .selection) pair.toJson pair.toJson := by
  obtain ⟨record, hrecord, hsource, hselection⟩ := pair.exists_record
  refine same_self hrecord ?_
  simp only [RecordType.fields, List.forall_mem_cons, List.not_mem_nil, IsEmpty.forall_iff,
    implies_true, and_true, Option.mem_some, forall_eq', *]
  exact ⟨pair.source.same_toJson, pair.selection.same_toJson⟩

/-- A selection is read from what is written of it, and from nothing that is
not the same. -/
theorem readAs_toJson (pair : Selection) :
    ReadAs ofJson? (.record .selection) pair pair.toJson := by
  intro json
  obtain ⟨written, hwritten, hsource, hselection⟩ := pair.exists_record
  rw [ofJson?_eq_some, same_record_iff hwritten]
  refine exists_congr fun record => and_congr_right fun _ => ?_
  simp only [(Shape.readAs_toJson _).required Shape.ofJson?_null, RecordType.fields,
    List.forall_mem_cons, List.not_mem_nil, IsEmpty.forall_iff, implies_true, and_true, *]

end Selection

/-! ### Applications -/

namespace Application

/-- An application is read from an object with all eight fields, each a text or
a list. -/
theorem ofJson?_eq_some {json : Json} {app : Application} :
    ofJson? json = some app ↔
      ∃ record, json.record? fieldNames = some record ∧
        record.required "name" Json.text? = some app.name ∧
        record.required "actions" (readItems Action.ofJson?) = some app.actions ∧
        record.required "models" Shape.ofJsonAll? = some app.models ∧
        record.required "inputs" Shape.ofJsonAll? = some app.inputs ∧
        record.required "queries" Shape.ofJsonAll? = some app.queries ∧
        record.required "mutations" Shape.ofJsonAll? = some app.mutations ∧
        record.required "subscriptions" Shape.ofJsonAll? = some app.subscriptions ∧
        record.required "selections" (readItems Selection.ofJson?) = some app.selections := by
  obtain ⟨name, actions, models, inputs, queries, mutations, subscriptions, selections⟩ := app
  simp only [ofJson?, Option.bind_eq_bind, Option.bind_eq_some_iff, Option.pure_def,
    Record.required_readItems_eq_some]
  constructor
  · rintro ⟨record, hrecord, _, hname, _, hactions, _, haction, _, hmodels, _, hinputs, _,
      hqueries, _, hmutations, _, hsubscriptions, _, hselections, _, hselection, happ⟩
    cases happ
    exact ⟨record, hrecord, hname, ⟨_, hactions, haction⟩, hmodels, hinputs, hqueries, hmutations,
      hsubscriptions, ⟨_, hselections, hselection⟩⟩
  · rintro ⟨record, hrecord, hname, ⟨_, hactions, haction⟩, hmodels, hinputs, hqueries, hmutations,
      hsubscriptions, ⟨_, hselections, hselection⟩⟩
    exact ⟨record, hrecord, _, hname, _, hactions, _, haction, _, hmodels, _, hinputs, _,
      hqueries, _, hmutations, _, hsubscriptions, _, hselections, _, hselection, rfl⟩

/-- What is written of an application is an object with all eight fields. -/
theorem exists_record (app : Application) :
    ∃ record, app.toJson.record? RecordType.application.names = some record ∧
      record.given? "name" = some (.string app.name) ∧
      record.given? "actions" = some (.array (app.actions.map Action.toJson)) ∧
      record.given? "models" = some (.array (Shape.toJsonAll app.models)) ∧
      record.given? "inputs" = some (.array (Shape.toJsonAll app.inputs)) ∧
      record.given? "queries" = some (.array (Shape.toJsonAll app.queries)) ∧
      record.given? "mutations" = some (.array (Shape.toJsonAll app.mutations)) ∧
      record.given? "subscriptions" = some (.array (Shape.toJsonAll app.subscriptions)) ∧
      record.given? "selections" = some (.array (app.selections.map Selection.toJson)) := by
  rw [toJson]
  refine (record?_object ?_ _).imp fun record hrecord => ⟨hrecord.1, ?_⟩
  · simp
  · simp [hrecord.2, List.lookup_cons]

/-- An application is written as itself. -/
theorem same_toJson (app : Application) :
    Same (.record .application) app.toJson app.toJson := by
  obtain ⟨record, hrecord, hname, hactions, hmodels, hinputs, hqueries, hmutations,
    hsubscriptions, hselections⟩ := app.exists_record
  refine same_self hrecord ?_
  simp only [RecordType.fields, List.forall_mem_cons, List.not_mem_nil, IsEmpty.forall_iff,
    implies_true, and_true, Option.mem_some, forall_eq', Shape.toJsonAll_eq_map, *]
  have hshapes (shapes : List Shape) :
      Same (.list (.record .shape)) (.array (shapes.map Shape.toJson))
        (.array (shapes.map Shape.toJson)) :=
    same_self_list fun shape _ => shape.same_toJson
  exact ⟨.text _, same_self_list fun action _ => action.same_toJson, hshapes _, hshapes _,
    hshapes _, hshapes _, hshapes _, same_self_list fun pair _ => pair.same_toJson⟩

/-- An application is read from what is written of it, and from nothing that is
not the same. -/
theorem readAs_toJson (app : Application) :
    ReadAs ofJson? (.record .application) app app.toJson := by
  intro json
  obtain ⟨written, hwritten, hname, hactions, hmodels, hinputs, hqueries, hmutations,
    hsubscriptions, hselections⟩ := app.exists_record
  rw [ofJson?_eq_some, same_record_iff hwritten]
  refine exists_congr fun record => and_congr_right fun _ => ?_
  rw [(readAs_text _).required rfl,
    (readAs_list fun action _ => Action.readAs_toJson action).required rfl,
    (readAs_list fun pair _ => Selection.readAs_toJson pair).required rfl]
  simp only [(Shape.readAs_toJsonAll _).required rfl]
  simp only [RecordType.fields, List.forall_mem_cons, List.not_mem_nil, IsEmpty.forall_iff,
    implies_true, and_true, *]

/-- What is written of an application is read as that application. So no two
applications are written alike, and reading what was written of something
read changes nothing. The values that are read as an application are exactly
those that say the same as what is written of it: fields of other names,
whether an optional field is null or missing, and how records and kinds are
laid out, are all that is forgotten. -/
theorem roundTrip :
    (∀ app : Application, ofJson? app.toJson = some app) ∧
    Function.Injective toJson ∧
    (∀ json : Json, ((ofJson? json).bind fun app => ofJson? app.toJson) = ofJson? json) ∧
    (∀ (json : Json) (app : Application),
      ofJson? json = some app ↔ Same (.record .application) json app.toJson) := by
  have hread (app : Application) : ofJson? app.toJson = some app :=
    (app.readAs_toJson _).mpr app.same_toJson
  refine ⟨hread, fun app other heq => ?_, fun json => ?_, fun json app => app.readAs_toJson json⟩
  · exact Option.some.inj ((hread app).symm.trans (heq ▸ hread other))
  · cases h : ofJson? json with
    | none => rfl
    | some app => exact hread app

end Application

end AppMetadata
