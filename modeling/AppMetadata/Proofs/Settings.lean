import Mathlib.Data.List.Induction
import Mathlib.Tactic.Tauto
import AppMetadata.Settings.Layer

/-!
# `AppMetadata.Proofs.Settings`: each setting is read from its strongest place

Settings come from layers, and each setting looks through all of them on its
own. What it takes is a relation on the values that the layers give to it
(`Takes`), and so is whether one of them is refused (`Refuses`): both stop at
the first value that is there, and go on where there is none.

* `ofLayers?_eq_some_iff`, `ofLayers?_eq_none_iff`: layers give the settings
  that are chosen, and none if a strongest value has the wrong type.
* `Chosen.congr`, `Mistyped.congr`: values behind the strongest do not count.
* `Layer.lookup_ofEnvironment`: the last variable for a setting counts.
* `ofLayers?_eq_ofTable?`: choosing place by place is the same as putting the
  layers over one another key by key and reading the table.
-/

set_option autoImplicit false

namespace AppMetadata

open Toml (Value)

namespace Settings

/-! ### One setting -/

section
variable {α : Type} {read : Value → Option α} {default : α} {places : List (Option Value)}

/-- The value that a setting takes if `places`, from the strongest on, give it
these values: what is read of the first value that is there, and the default if
there is none. -/
inductive Takes (read : Value → Option α) (default : α) : List (Option Value) → α → Prop
  | unset : Takes read default [] default
  | given {value : Value} {a : α} (h : read value = some a) (weaker : List (Option Value)) :
      Takes read default (some value :: weaker) a
  | passed {a : α} {weaker : List (Option Value)} (h : Takes read default weaker a) :
      Takes read default (none :: weaker) a

/-- The first value that is there has the wrong type. What weaker places give
does not help. -/
inductive Refuses (read : Value → Option α) : List (Option Value) → Prop
  | given {value : Value} (h : read value = none) (weaker : List (Option Value)) :
      Refuses read (some value :: weaker)
  | passed {weaker : List (Option Value)} (h : Refuses read weaker) :
      Refuses read (none :: weaker)

/-- The first value that is there. -/
def strongest? (places : List (Option Value)) : Option Value :=
  places.findSome? id

/-- Reads the first value that is there. -/
def readFirst (read : Value → Option α) (default : α) (places : List (Option Value)) :
    Option α :=
  match strongest? places with
  | none => some default
  | some value => read value

/-- The relation is what reading the first value that is there computes. -/
theorem takes_iff {a : α} :
    Takes read default places a ↔ readFirst read default places = some a := by
  constructor
  · intro h
    induction h with
    | unset => rfl
    | given h weaker => exact h
    | passed h ih => exact ih
  · intro h
    -- On the places: reading passes those without a value, as `Takes` does.
    induction places with
    | nil => exact Option.some.inj h ▸ .unset
    | cons place weaker ih =>
      cases place with
      | none => exact .passed (ih h)
      | some value => exact .given h weaker

/-- Values are refused exactly if the first one that is there cannot be read. -/
theorem refuses_iff :
    Refuses read places ↔ ∃ value, strongest? places = some value ∧ read value = none := by
  constructor
  · intro h
    induction h with
    | @given value h weaker => exact ⟨value, rfl, h⟩
    | passed h ih => exact ih
  · rintro ⟨value, hvalue, hread⟩
    induction places with
    | nil => exact nomatch hvalue
    | cons place weaker ih =>
      cases place with
      | none => exact .passed (ih hvalue)
      | some first =>
        cases hvalue
        exact .given hread weaker

/-- So reading fails exactly if the values are refused. -/
theorem readFirst_eq_none_iff (default : α) :
    readFirst read default places = none ↔ Refuses read places := by
  rw [refuses_iff, readFirst]
  cases strongest? places <;> simp

/-- A setting takes one value. -/
theorem Takes.unique {a b : α} (ha : Takes read default places a)
    (hb : Takes read default places b) : a = b :=
  Option.some.inj ((takes_iff.mp ha).symm.trans (takes_iff.mp hb))

/-- A value that is taken was not refused. -/
theorem Takes.not_refuses {a : α} (h : Takes read default places a) : ¬ Refuses read places := by
  rw [← readFirst_eq_none_iff default, takes_iff.mp h]
  exact nofun

/-! Values behind the strongest one do not count. -/

section
variable {others : List (Option Value)} (heq : strongest? others = strongest? places)
include heq

/-- Places with the same strongest value give the same, -/
theorem Takes.congr {a : α} (h : Takes read default places a) : Takes read default others a := by
  rw [takes_iff] at h ⊢
  rwa [readFirst, heq]

/-- and are refused alike. -/
theorem Refuses.congr (h : Refuses read places) : Refuses read others := by
  rw [refuses_iff] at h ⊢
  rwa [heq]

end

end

/-- The text of a value. -/
def textOfValue? : Value → Option String
  | .text text => some text
  | _ => none

/-- The depth of a value: a whole number from zero on that fits in eight
bytes. -/
def depthOfValue? : Value → Option Nat
  | .integer n => if 0 ≤ n ∧ n < depthBound then some n.toNat else none
  | _ => none

/-- The value of a key that is in effect is the first one that a layer has. -/
theorem effective?_eq (key : String) (layers : List Layer) :
    effective? key layers = strongest? (layers.map (·.lookup key)) := by
  rw [effective?, strongest?, List.findSome?_map]
  rfl

/-- A setting that is a text is read from the first value for its key. -/
theorem textOf?_eq (layers : List Layer) (key default : String) :
    textOf? layers key default =
      readFirst textOfValue? default (layers.map (·.lookup key)) := by
  rw [textOf?, readFirst, effective?_eq]
  cases strongest? (layers.map (·.lookup key)) with
  | none => rfl
  | some value => cases value <;> rfl

/-- And so is the limit. -/
theorem depthOf?_eq (layers : List Layer) (key : String) (default : Nat) :
    depthOf? layers key default =
      readFirst depthOfValue? default (layers.map (·.lookup key)) := by
  rw [depthOf?, readFirst, effective?_eq]
  cases strongest? (layers.map (·.lookup key)) with
  | none => rfl
  | some value => cases value <;> rfl

/-! ### All settings -/

/-- Every setting takes its value from the strongest of its own places. -/
structure Chosen (places : String → List (Option Value)) (settings : Settings) : Prop where
  appFactory : Takes textOfValue? "createApp" (places "app_factory") settings.appFactory
  modelWrapper : Takes textOfValue? "Model" (places "model_wrapper") settings.modelWrapper
  maxDepth : Takes depthOfValue? 256 (places "max_depth") settings.maxDepth

/-- Some setting has the wrong type in the strongest of its places. -/
def Mistyped (places : String → List (Option Value)) : Prop :=
  Refuses textOfValue? (places "app_factory") ∨ Refuses textOfValue? (places "model_wrapper") ∨
    Refuses depthOfValue? (places "max_depth")

section
variable {places : String → List (Option Value)} {settings other : Settings}

/-- Each of the three settings takes one value, so there is one choice. -/
theorem Chosen.unique (h : Chosen places settings) (hother : Chosen places other) :
    settings = other := by
  cases settings
  cases other
  congr
  · exact h.appFactory.unique hother.appFactory
  · exact h.modelWrapper.unique hother.modelWrapper
  · exact h.maxDepth.unique hother.maxDepth

section
variable {others : String → List (Option Value)}
  (heq : ∀ key ∈ fieldNames, strongest? (others key) = strongest? (places key))
include heq

/-- For all settings at once: values behind the strongest do not count, -/
theorem Chosen.congr (h : Chosen places settings) : Chosen others settings where
  appFactory := h.appFactory.congr (heq _ (by decide))
  modelWrapper := h.modelWrapper.congr (heq _ (by decide))
  maxDepth := h.maxDepth.congr (heq _ (by decide))

/-- also if they have the wrong type. -/
theorem Mistyped.congr (h : Mistyped places) : Mistyped others := by
  rcases h with h | h | h
  · exact .inl (h.congr (heq _ (by decide)))
  · exact .inr (.inl (h.congr (heq _ (by decide))))
  · exact .inr (.inr (h.congr (heq _ (by decide))))

end

/-- Settings that were chosen have values of the right types. -/
theorem Chosen.not_mistyped (h : Chosen places settings) : ¬ Mistyped places := by
  rintro (hrefuses | hrefuses | hrefuses)
  · exact h.appFactory.not_refuses hrefuses
  · exact h.modelWrapper.not_refuses hrefuses
  · exact h.maxDepth.not_refuses hrefuses

end

/-- The three settings are read one after the other, each from its own places. -/
theorem ofLayers?_eq (layers : List Layer) :
    ofLayers? layers = do
      let places (key : String) := layers.map (·.lookup key)
      return {
        appFactory := ← readFirst textOfValue? "createApp" (places "app_factory")
        modelWrapper := ← readFirst textOfValue? "Model" (places "model_wrapper")
        maxDepth := ← readFirst depthOfValue? 256 (places "max_depth") } := by
  rw [ofLayers?, textOf?_eq, textOf?_eq, depthOf?_eq]

/-- Layers give settings exactly if these are chosen from them. -/
theorem ofLayers?_eq_some_iff {layers : List Layer} {settings : Settings} :
    ofLayers? layers = some settings ↔
      Chosen (fun key => layers.map (·.lookup key)) settings := by
  rw [ofLayers?_eq]
  constructor
  · intro h
    obtain ⟨appFactory, hfactory, h⟩ := Option.bind_eq_some_iff.mp h
    obtain ⟨modelWrapper, hwrapper, h⟩ := Option.bind_eq_some_iff.mp h
    obtain ⟨maxDepth, hdepth, h⟩ := Option.bind_eq_some_iff.mp h
    cases Option.some.inj h
    exact ⟨takes_iff.mpr hfactory, takes_iff.mpr hwrapper, takes_iff.mpr hdepth⟩
  · rintro ⟨hfactory, hwrapper, hdepth⟩
    simp [takes_iff.mp hfactory, takes_iff.mp hwrapper, takes_iff.mp hdepth]

/-- Layers give no settings exactly if a strongest value has the wrong type. -/
theorem ofLayers?_eq_none_iff {layers : List Layer} :
    ofLayers? layers = none ↔ Mistyped fun key => layers.map (·.lookup key) := by
  rw [ofLayers?_eq, Mistyped, ← readFirst_eq_none_iff "createApp",
    ← readFirst_eq_none_iff "Model", ← readFirst_eq_none_iff 256]
  dsimp only
  generalize readFirst textOfValue? "createApp" _ = factory
  generalize readFirst textOfValue? "Model" _ = wrapper
  generalize readFirst depthOfValue? 256 _ = depth
  cases factory <;> cases wrapper <;> cases depth <;> simp

/-! ### Identifiers -/

/-- A name of ASCII letters, digits, underscores and dollar signs that does
not start with a digit. -/
structure IsIdentifier (text : String) : Prop where
  ne_empty : text ≠ ""
  parts : ∀ c ∈ text.toList, c.isAlpha = true ∨ c.isDigit = true ∨ c = '_' ∨ c = '$'
  start : ∀ c ∈ text.toList.head?, c.isDigit = false

/-- The characters that an identifier is made of. -/
theorem isNamePart_iff {c : Char} :
    isNamePart c = true ↔ c.isAlpha = true ∨ c.isDigit = true ∨ c = '_' ∨ c = '$' := by
  simp only [isNamePart, Char.isAlphanum, Bool.or_eq_true, beq_iff_eq]
  tauto

/-- The digits stand before all letters. -/
theorem not_isAlpha_of_isDigit {c : Char} (h : c.isDigit = true) : c.isAlpha = false := by
  have hlast : c.val.toNat ≤ 57 := by
    change (decide (48 ≤ c.val) && decide (c.val ≤ 57)) = true at h
    rw [Bool.and_eq_true, decide_eq_true_eq] at h
    exact UInt32.le_iff_toNat_le.mp (of_decide_eq_true h.2)
  rw [Bool.eq_false_iff]
  intro halpha
  change (decide (65 ≤ c.val ∧ c.val ≤ 90) ||
    (decide (97 ≤ c.val) && decide (c.val ≤ 122))) = true at halpha
  simp only [Bool.or_eq_true, Bool.and_eq_true, decide_eq_true_eq,
    UInt32.le_iff_toNat_le] at halpha
  rcases halpha with ⟨hfirst, -⟩ | ⟨hfirst, -⟩
  · exact absurd (Nat.le_trans hfirst hlast) (by decide)
  · exact absurd (Nat.le_trans hfirst hlast) (by decide)

/-- An identifier starts with any of them but a digit. -/
theorem isNameStart_iff {c : Char} :
    isNameStart c = true ↔ isNamePart c = true ∧ c.isDigit = false := by
  -- No digit is one of the characters that may start a name.
  have hdigit : c.isDigit = true → c.isAlpha = false ∧ c ≠ '_' ∧ c ≠ '$' := by
    intro h
    refine ⟨not_isAlpha_of_isDigit h, ?_, ?_⟩
    · rintro rfl
      exact absurd h (by decide)
    · rintro rfl
      exact absurd h (by decide)
  rw [isNamePart_iff]
  simp only [isNameStart, Bool.or_eq_true, beq_iff_eq]
  cases hc : c.isDigit with
  | true => simpa [hc, and_comm, and_assoc] using hdigit hc
  | false =>
    simp only [Bool.false_eq_true, false_or, and_true]
    tauto

/-- The test for names in settings accepts identifiers only, and all of them. -/
theorem isName_iff {text : String} : isName text = true ↔ IsIdentifier text := by
  unfold isName
  cases htext : text.toList with
  | nil =>
    refine ⟨nofun, fun h => absurd (String.toList_eq_nil_iff.mp htext) h.ne_empty⟩
  | cons c cs =>
    have hne : text ≠ "" := by
      rintro rfl
      exact nomatch htext
    -- The first character is tested for both: to be part of a name, and to be no digit.
    simp only [Bool.and_eq_true, List.all_eq_true, isNameStart_iff]
    constructor
    · rintro ⟨⟨hc, hdigit⟩, hcs⟩
      refine ⟨hne, ?_, ?_⟩
      · rw [htext]
        exact List.forall_mem_cons.mpr
          ⟨isNamePart_iff.mp hc, fun d hd => isNamePart_iff.mp (hcs d hd)⟩
      · rw [htext]
        rintro d ⟨⟩
        exact hdigit
    · rintro ⟨-, hparts, hstart⟩
      rw [htext] at hparts hstart
      obtain ⟨hc, hcs⟩ := List.forall_mem_cons.mp hparts
      exact ⟨⟨isNamePart_iff.mpr hc, hstart c rfl⟩,
        fun d hd => isNamePart_iff.mpr (hcs d hd)⟩

/-! ### Places -/

namespace Layer

/-- The value that a variable `name` with the value `text` gives to the setting
`key`. -/
def valueGiven? (key : String) : String × String → Option Value
  | (name, text) => do
    let (setting, value) := entryOf (← settingOf? name) text
    if setting = key then some value else none

/-- The last variable for a setting counts. -/
theorem lookup_ofEnvironment (environment : List (String × String)) (key : String) :
    (ofEnvironment environment).lookup key =
      environment.reverse.findSome? (valueGiven? key) := by
  -- The layer is made from the first variable on, so the last one is put last.
  induction environment using List.reverseRecOn with
  | nil => rfl
  | append_singleton environment last ih =>
    obtain ⟨name, text⟩ := last
    rw [List.reverse_concat, List.findSome?_cons, ← ih, ofEnvironment, List.foldl_append,
      ← ofEnvironment, List.foldl_cons, List.foldl_nil, valueGiven?]
    cases hsetting : settingOf? name with
    | none => simp [hsetting]
    | some setting =>
      by_cases h : (entryOf setting text).1 = key
      · subst h
        simp [hsetting, Table.lookup_put_self]
      · simp [hsetting, h, Table.lookup_put_of_ne (Ne.symm h)]

/-- The values of `later`, and for other settings those of `earlier`. -/
def atop (later earlier : Layer) : Layer :=
  later.foldr (fun (key, value) table => table.put key value) earlier

/-- A layer on top of another one hides its keys. -/
theorem lookup_atop (later earlier : Layer) (key : String) :
    (atop later earlier).lookup key = (later.lookup key).or (earlier.lookup key) := by
  induction later with
  | nil => rfl
  | cons entry later ih =>
    obtain ⟨known, value⟩ := entry
    rw [atop, List.foldr_cons, ← atop, List.lookup_cons]
    by_cases h : key = known
    · subst h
      simp [Table.lookup_put_self]
    · have hbeq : (key == known) = false := beq_eq_false_iff_ne.mpr h
      rw [Table.lookup_put_of_ne h, ih, hbeq]

end Layer

/-- The defaults as the weakest place. -/
def defaultLayer : Layer :=
  [("app_factory", .text "createApp"), ("model_wrapper", .text "Model"),
    ("max_depth", .integer 256)]

/-- The layers put over one another and over the defaults; the strongest is the
first. -/
def merged (layers : List Layer) : Layer :=
  layers.foldr Layer.atop defaultLayer

/-- The settings in a table that has them all. -/
def ofTable? (table : Layer) : Option Settings := do
  return {
    appFactory := ← (table.lookup "app_factory").bind textOfValue?
    modelWrapper := ← (table.lookup "model_wrapper").bind textOfValue?
    maxDepth := ← (table.lookup "max_depth").bind depthOfValue? }

/-- What the merged table has for a setting is what the strongest layer gives,
or the default. -/
theorem lookup_merged (layers : List Layer) (key : String) :
    (merged layers).lookup key = (effective? key layers).or (defaultLayer.lookup key) := by
  induction layers with
  | nil => rfl
  | cons layer layers ih =>
    rw [merged, List.foldr_cons, ← merged, Layer.lookup_atop, ih]
    cases h : layer.lookup key with
    | some value => rw [effective?_cons_of_some h, Option.some_or, Option.some_or]
    | none => rw [effective?_cons_of_none h, Option.none_or]

/-- Reading one key of the merged table is reading its places from the
strongest on, since the default is at the bottom of the table. -/
theorem bind_lookup_merged {α : Type} {read : Value → Option α} {default : α} (key : String)
    {value : Value} (hkey : defaultLayer.lookup key = some value)
    (hread : read value = some default) (layers : List Layer) :
    ((merged layers).lookup key).bind read =
      readFirst read default (layers.map (·.lookup key)) := by
  rw [lookup_merged, hkey, effective?_eq, readFirst]
  cases strongest? (layers.map (·.lookup key)) with
  | none => exact hread
  | some value => rfl

/-- Reading each setting from the strongest place that gives it is reading the
table in which the places are put over one another. -/
theorem ofLayers?_eq_ofTable? (layers : List Layer) :
    ofLayers? layers = ofTable? (merged layers) := by
  have hfactory := bind_lookup_merged "app_factory" rfl
    (show textOfValue? (.text "createApp") = some "createApp" from rfl) layers
  have hwrapper := bind_lookup_merged "model_wrapper" rfl
    (show textOfValue? (.text "Model") = some "Model" from rfl) layers
  have hdepth := bind_lookup_merged "max_depth" rfl
    (show depthOfValue? (.integer 256) = some 256 by decide) layers
  rw [ofLayers?_eq, ofTable?, hfactory, hwrapper, hdepth]

end Settings

end AppMetadata
