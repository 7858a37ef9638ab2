import AppMetadata.Json
import Mathlib.Data.List.Forall2
import Mathlib.Data.List.Nodup

/-!
# `AppMetadata.Proofs.Json`: what is in a record

A record gives each field as a part of its value, with the proof that it is
one. Here fields are plain values: `Record.given?` is what a field holds, if
it is there and not null, and the readers of fields are told by it.

* `Record.required_eq_some`, `Record.optional_eq_some`: when a field is read.
* `record?_object`: the record of an object, by lookup.
* `readItems_eq_some`: arrays are read item by item.
-/

set_option autoImplicit false

namespace AppMetadata.Json

variable {α : Type}

/-! ### Arrays -/

/-- Reads an array, each item by `read`. -/
def readItems (read : Json → Option α) : Json → Option (List α)
  | .array items => items.mapM read
  | _ => none

/-- A list is read if every item of it is. -/
theorem mapM_eq_some {β : Type} {f : α → Option β} {as : List α} {bs : List β} :
    as.mapM f = some bs ↔ List.Forall₂ (fun a b => f a = some b) as bs := by
  induction as generalizing bs with
  | nil => simp [eq_comm]
  | cons a as ih =>
    simp only [List.mapM_cons, Option.bind_eq_bind, Option.bind_eq_some_iff, ih,
      List.forall₂_cons_left_iff, Option.pure_def, Option.some.injEq]
    constructor
    · rintro ⟨b, hb, bs, hbs, rfl⟩
      exact ⟨b, bs, hb, hbs, rfl⟩
    · rintro ⟨b, bs, hb, hbs, rfl⟩
      exact ⟨b, hb, bs, hbs, rfl⟩

/-- An array is read if it is one, and every item of it is read. -/
theorem readItems_eq_some {read : Json → Option α} {json : Json} {values : List α} :
    readItems read json = some values ↔
      ∃ items, json = .array items ∧
        List.Forall₂ (fun item value => read item = some value) items values := by
  cases json <;> simp [readItems, mapM_eq_some]

/-- Items with the proofs that they are parts are read as plain ones. -/
theorem bind_items? (read : Json → Option α) (json : Json) :
    (json.items?.bind fun parts => parts.mapM fun part => read part.1) = readItems read json := by
  cases json with
  | array items =>
    simp only [items?, Option.bind_some, List.mapM_map]
    exact (List.mapM_subtype (g := read) fun _ _ => rfl).trans (by rw [List.unattach_attach]; rfl)
  | _ => rfl

/-! ### Fields -/

/-- Whether a value is null. -/
def isNull : Json → Bool
  | .null => true
  | _ => false

/-- A truth value is not null. -/
@[simp] theorem isNull_bool (value : Bool) : (bool value).isNull = false := rfl

/-- A text is not null, not even the empty one. -/
@[simp] theorem isNull_string (value : String) : (string value).isNull = false := rfl

/-- Nor is an array. -/
@[simp] theorem isNull_array (items : List Json) : (array items).isNull = false := rfl

/-- Nor is an object. -/
@[simp] theorem isNull_object (fields : List (String × Json)) :
    (object fields).isNull = false := rfl

/-- Nothing is lost where null is never written. -/
theorem filter_map_isNull {write : α → Json} (hwrite : ∀ value, (write value).isNull = false)
    (value : Option α) : (value.map write).filter (!·.isNull) = value.map write := by
  cases value <;> simp [hwrite]

namespace Record

variable {json : Json} {record : json.Record} {name : String}

/-- The value of a field that is there. -/
def value? (record : json.Record) (name : String) : Option Json :=
  (record.part? name).map (·.1)

/-- The value of a field that is there and not null. -/
def given? (record : json.Record) (name : String) : Option Json :=
  (record.value? name).filter (!·.isNull)

/-- A reader that does not know null reads what is given. -/
theorem required_eq_some {read : Json → Option α} (hnull : read .null = none) {value : α} :
    record.required name read = some value ↔
      Option.Rel (read · = some ·) (record.given? name) (some value) := by
  unfold required given? value?
  cases record.part? name with
  | none => simp
  | some part =>
    obtain ⟨field, _⟩ := part
    cases field <;> simp [hnull, isNull, Option.filter]

/-- A field that may be missing or null is read where it is given. -/
theorem optional_eq_some {read : Json → Option α} {value : Option α} :
    record.optional name read = some value ↔
      Option.Rel (read · = some ·) (record.given? name) value := by
  unfold optional given? value?
  cases record.part? name with
  | none => cases value <;> simp
  | some part =>
    obtain ⟨field, _⟩ := part
    cases field <;> cases value <;> simp [isNull, Option.filter]

/-- A field with items is a field with an array of them. -/
theorem bind_items? (read : Json → Option α) :
    ((record.items? name).bind fun parts => parts.mapM fun part => read part.1) =
      record.required name (readItems read) := by
  unfold items? required
  cases record.part? name with
  | none => rfl
  | some part =>
    rw [Option.bind_some, Option.bind_some, ← Json.bind_items?, Option.bind_map]
    simp only [Function.comp_def, List.mapM_map]

/-- An array of items is read part by part. -/
theorem required_readItems_eq_some {read : Json → Option α} {values : List α} :
    record.required name (readItems read) = some values ↔
      ∃ parts, record.items? name = some parts ∧
        (parts.mapM fun part => read part.1) = some values := by
  rw [← bind_items?, Option.bind_eq_some_iff]

/-- A part that is read where it is given is an optional field. -/
theorem match_present? {β : Type} (read : Json → Option α) (next : Option α → Option β) :
    (match record.present? name with
      | none => (some none).bind next
      | some part => ((read part.1).map some).bind next) =
      (record.optional name read).bind next := by
  unfold present? optional
  cases record.part? name with
  | none => rfl
  | some part =>
    obtain ⟨field, _⟩ := part
    cases field <;> rfl

end Record

/-! ### Objects -/

/-- The fields of a name, without the proofs that they are parts. -/
theorem map_val_fieldsNamed (fields : List (String × Json)) (name : String) :
    (fieldsNamed fields name).map (·.1) = (fields.filter (·.1 == name)).map (·.2) := by
  conv_rhs => rw [← List.attach_map_subtype_val fields]
  simp only [fieldsNamed, List.map_map, List.filter_map, Function.comp_def]

/-- A lookup finds the first field of a name. -/
theorem lookup_eq_head?_filter (fields : List (String × Json)) (name : String) :
    fields.lookup name = ((fields.filter (·.1 == name)).map (·.2)).head? := by
  induction fields with
  | nil => rfl
  | cons field fields ih =>
    rw [List.lookup_cons, List.filter_cons, ih]
    by_cases hname : field.1 = name
    · simp [hname]
    · simp [hname, beq_eq_false_iff_ne.mpr (Ne.symm hname)]

/-- One field, or none without a value. -/
def field (name : String) (value : Option Json) : List (String × Json) :=
  value.toList.map (name, ·)

/-- A field is called by its name, if it is written. -/
theorem names_field_sublist (name : String) (value : Option Json) :
    ((field name value).map (·.1)).Sublist [name] := by
  cases value <;> simp [field]

/-- A lookup in one field. -/
theorem lookup_field (key name : String) (value : Option Json) :
    (field name value).lookup key = if key = name then value else none := by
  cases value with
  | none => simp [field]
  | some value =>
    by_cases hkey : key = name
    · simp [field, hkey]
    · simp [field, List.lookup_cons, beq_eq_false_iff_ne.mpr hkey, hkey]

/-- An object that names nothing twice holds the first field of a name. -/
theorem record?_object {fields : List (String × Json)} (hfields : (fields.map (·.1)).Nodup)
    (names : List String) :
    ∃ record, (object fields).record? names = some record ∧
      ∀ name, record.given? name = (fields.lookup name).filter (!·.isNull) := by
  have honce (name : String) : (fieldsNamed fields name).length ≤ 1 := by
    rw [← List.length_map (·.1), map_val_fieldsNamed, List.length_map,
      ← List.countP_eq_length_filter]
    have hcount := List.nodup_iff_count_le_one.mp hfields name
    rwa [List.count_eq_countP, List.countP_map] at hcount
  have hall : (names.all fun name => (fieldsNamed fields name).length ≤ 1) = true := by
    simp [honce]
  refine ⟨_, if_pos hall, fun name => ?_⟩
  rw [Record.given?, Record.value?, ← List.head?_map, map_val_fieldsNamed,
    ← lookup_eq_head?_filter]

end AppMetadata.Json
