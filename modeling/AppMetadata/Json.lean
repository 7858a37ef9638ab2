/-!
# `AppMetadata.Json`: JSON values

A JSON value with the fields of an object in their written order, and the
reading of records: a record is an object with named fields, or an array
that lists the same fields by position (`Json.record?`). Values found in a
record are smaller than it (`Json.Part`), so a reader of nested records may
call itself on them.
-/

set_option autoImplicit false

namespace AppMetadata

/-- A JSON value. -/
inductive Json
  | null
  | bool (value : Bool)
  /-- The number `mantissa / 10 ^ decimals`, as written. -/
  | number (mantissa : Int) (decimals : Nat)
  | string (value : String)
  | array (items : List Json)
  | object (fields : List (String × Json))
deriving BEq, Repr, Inhabited

namespace Json

/-- The text of a string value. -/
def text? : Json → Option String
  | .string value => some value
  | _ => none

/-- The truth value of a boolean value. -/
def bool? : Json → Option Bool
  | .bool value => some value
  | _ => none

/-- The natural number written without a fraction. -/
def natural? : Json → Option Nat
  | .number (.ofNat n) 0 => some n
  | _ => none

/-- A value inside `json`. -/
abbrev Part (json : Json) :=
  { value : Json // sizeOf value < sizeOf json }

/-- An item is smaller than its array. -/
theorem sizeOf_item {items : List Json} {item : Json} (h : item ∈ items) :
    sizeOf item < sizeOf (array items) := by
  have := List.sizeOf_lt_of_mem h
  simp only [array.sizeOf_spec]
  omega

/-- The value of a field is smaller than its object. -/
theorem sizeOf_field {fields : List (String × Json)} {field : String × Json}
    (h : field ∈ fields) : sizeOf field.2 < sizeOf (object fields) := by
  have := List.sizeOf_lt_of_mem h
  obtain ⟨name, value⟩ := field
  simp only [object.sizeOf_spec]
  simp only [Prod.mk.sizeOf_spec] at this
  omega

/-- The items of an array value, each with the proof that it is a part. -/
def items? (json : Json) : Option (List json.Part) :=
  match json with
  | .array items => some (items.attach.map fun item => ⟨item.1, sizeOf_item item.2⟩)
  | _ => none

/-- A value read as a record: the part of each field name, if there is
one. -/
structure Record (json : Json) where
  part? : String → Option json.Part

/-- The fields of `fields` that are called `name`. -/
def fieldsNamed (fields : List (String × Json)) (name : String) :
    List (object fields).Part :=
  (fields.attach.filter (·.1.1 == name)).map fun field => ⟨field.1.2, sizeOf_field field.2⟩

/-- Reads a value as a record of the fields `names`. An object may have
other fields too, but names none of these twice; an array has at most as
many items as there are names. -/
def record? (json : Json) (names : List String) : Option json.Record :=
  match json with
  | .object fields =>
    if names.all fun name => (fieldsNamed fields name).length ≤ 1 then
      some ⟨fun name => (fieldsNamed fields name).head?⟩
    else none
  | .array items =>
    if items.length ≤ names.length then
      let parts := names.zip (items.attach.map fun item =>
        (⟨item.1, sizeOf_item item.2⟩ : (array items).Part))
      some ⟨fun name => parts.lookup name⟩
    else none
  | _ => none

namespace Record

variable {json : Json} {α : Type}

/-- The field `name`, which must be there and satisfy `read`. -/
def required (record : json.Record) (name : String) (read : Json → Option α) : Option α :=
  (record.part? name).bind fun part => read part.1

/-- The field `name`, which must satisfy `read` if it is there and not
null. -/
def optional (record : json.Record) (name : String) (read : Json → Option α) :
    Option (Option α) :=
  match record.part? name with
  | none => some none
  | some ⟨.null, _⟩ => some none
  | some part => (read part.1).map some

/-- The field `name`, or `value` if it is missing. -/
def withDefault (record : json.Record) (name : String) (value : α) (read : Json → Option α) :
    Option α :=
  match record.part? name with
  | none => some value
  | some part => read part.1

/-- The items of the field `name`, which must be an array. -/
def items? (record : json.Record) (name : String) : Option (List json.Part) :=
  (record.part? name).bind fun part =>
    part.1.items?.map (·.map fun item => ⟨item.1, Nat.lt_trans item.2 part.2⟩)

/-- The field `name` if it is there and not null. -/
def present? (record : json.Record) (name : String) : Option json.Part :=
  match record.part? name with
  | some ⟨.null, _⟩ => none
  | part => part

end Record

end Json

end AppMetadata
