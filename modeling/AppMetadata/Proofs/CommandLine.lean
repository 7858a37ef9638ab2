import AppMetadata.CommandLine
import AppMetadata.Proofs.Settings

/-!
# `AppMetadata.Proofs.CommandLine`: the settings of a run

A setting of a run has three places: its option, the environment variables for
it and the configuration file (`places`). What comes of them is a relation
(`Loads`) that `settingsFor` decides.

* `lookup_layer`: an option that is not given gives no value.
* `loads_settingsFor`: a run loads what its places say.
* `settingsFor_layered`: the layers count setting by setting, and settings that
  are loaded are valid.
-/

set_option autoImplicit false

namespace AppMetadata

open Toml (Value)

namespace CommandLine

open Settings

/-- The value that an option gives to a setting. -/
def flag? (invocation : Invocation) : (key : String) → Option Value
  | "app_factory" => invocation.factory.map .text
  | "model_wrapper" => invocation.modelWrapper.map .text
  | "max_depth" => invocation.maxDepth.map fun depth => .integer (depth : Nat)
  | _ => none

/-- A lookup in a layer of one option. -/
theorem lookup_toList {α : Type} (key name : String) (make : α → Value) (value : Option α) :
    (value.map fun a => (name, make a)).toList.lookup key =
      if key = name then value.map make else none := by
  cases value with
  | none => simp
  | some a =>
    by_cases h : key = name
    · simp [h]
    · simp [h, List.lookup_cons, beq_eq_false_iff_ne.mpr h]

/-- An option that is not given gives no value. -/
theorem lookup_layer (invocation : Invocation) (key : String) :
    invocation.layer.lookup key = flag? invocation key := by
  -- A lookup tries the three options in the order in which the layer lists them.
  have hentries : invocation.layer.lookup key =
      ((if key = "app_factory" then invocation.factory.map .text else none).or
        (if key = "model_wrapper" then invocation.modelWrapper.map .text else none)).or
          (if key = "max_depth" then
            invocation.maxDepth.map (fun depth => .integer (depth : Nat)) else none) := by
    dsimp only [Invocation.layer]
    rw [List.lookup_append, List.lookup_append, lookup_toList, lookup_toList, lookup_toList]
  unfold flag?
  split
  · simp [hentries]
  · simp [hentries]
  · simp [hentries]
  · next hfactory hwrapper hdepth =>
    rw [hentries, if_neg hfactory, if_neg hwrapper, if_neg hdepth]
    rfl

/-- The value that the configuration file gives to a setting. -/
def fileValue? (content : Option FileContent) (key : String) : Option Value :=
  (content.bind Layer.ofFile?).bind (·.lookup key)

/-- The places of a setting from the strongest on. -/
def places (invocation : Invocation) (environment : List (String × String))
    (content : Option FileContent) (key : String) : List (Option Value) :=
  [flag? invocation key, environment.reverse.findSome? (Layer.valueGiven? key),
    fileValue? content key]

/-- The configuration file is well-formed, or there is none and none was asked
for. -/
def Readable (invocation : Invocation) : Option FileContent → Prop
  | none => invocation.config = none
  | some content => (Layer.ofFile? content).isSome = true

/-! ### What is loaded -/

section
variable {invocation : Invocation} {content : Option FileContent}

/-- The layer of a file that can be read has the values of the file. -/
theorem exists_fileLayer (h : Readable invocation content) :
    ∃ file, fileLayer invocation content = .ok file ∧
      ∀ key, file.lookup key = fileValue? content key := by
  cases content with
  | none =>
    have hconfig : invocation.config = none := h
    exact ⟨[], by simp [fileLayer, hconfig], fun key => rfl⟩
  | some content =>
    obtain ⟨file, hfile⟩ := Option.isSome_iff_exists.mp h
    refine ⟨file, ?_, fun key => by simp [fileValue?, hfile]⟩
    cases hconfig : invocation.config <;> simp [fileLayer, hconfig, hfile]

/-- What comes of settings that have these places. -/
inductive Loads (places : String → List (Option Value)) : Except Failure Settings → Prop
  | mistyped (h : Mistyped places) : Loads places (.error .settingsUnreadable)
  | rejected {settings : Settings} {cause : ExtractionError} (h : Chosen places settings)
      (hcause : settings.validate = .error cause) :
      Loads places (.error (.settingsRejected cause))
  | loaded {settings : Settings} (h : Chosen places settings)
      (hvalid : settings.validate = .ok ()) : Loads places (.ok settings)

/-- What a run does with the settings that its layers give. -/
def checked : Option Settings → Except Failure Settings
  | none => .error .settingsUnreadable
  | some settings =>
    match settings.validate with
    | .ok () => .ok settings
    | .error cause => .error (.settingsRejected cause)

/-- What comes of the places is what a run does with settings that are chosen,
or with none if a place is ill-typed. -/
theorem loads_iff {places : String → List (Option Value)} {outcome : Except Failure Settings} :
    Loads places outcome ↔
      (Mistyped places ∧ outcome = checked none) ∨
        ∃ settings, Chosen places settings ∧ outcome = checked (some settings) := by
  constructor
  · intro h
    cases h with
    | mistyped h => exact .inl ⟨h, rfl⟩
    | rejected h hcause => exact .inr ⟨_, h, by rw [checked, hcause]⟩
    | loaded h hvalid => exact .inr ⟨_, h, by rw [checked, hvalid]⟩
  · rintro (⟨h, rfl⟩ | ⟨settings, h, rfl⟩)
    · exact .mistyped h
    · cases hcheck : settings.validate with
      | ok =>
        rw [checked, hcheck]
        exact .loaded h hcheck
      | error cause =>
        rw [checked, hcheck]
        exact .rejected h hcheck

/-- Places decide what comes of them. -/
theorem Loads.unique {places : String → List (Option Value)}
    {outcome other : Except Failure Settings} (h : Loads places outcome)
    (hother : Loads places other) : outcome = other := by
  rw [loads_iff] at h hother
  rcases h with ⟨h, rfl⟩ | ⟨settings, h, rfl⟩
  · rcases hother with ⟨-, rfl⟩ | ⟨_, hother, -⟩
    · rfl
    · exact absurd h hother.not_mistyped
  · rcases hother with ⟨hother, -⟩ | ⟨_, hother, rfl⟩
    · exact absurd hother h.not_mistyped
    · rw [h.unique hother]

/-- Only the strongest value of each setting counts. -/
theorem Loads.congr {places others : String → List (Option Value)}
    {outcome : Except Failure Settings}
    (heq : ∀ key ∈ fieldNames, strongest? (others key) = strongest? (places key))
    (h : Loads places outcome) : Loads others outcome := by
  cases h with
  | mistyped h => exact .mistyped (h.congr heq)
  | rejected h hcause => exact .rejected (h.congr heq) hcause
  | loaded h hvalid => exact .loaded (h.congr heq) hvalid

/-- A run with a configuration file that can be read checks what its three
layers give. -/
theorem settingsFor_eq_checked (environment : List (String × String)) {file : Layer}
    (h : fileLayer invocation content = .ok file) :
    settingsFor invocation environment content =
      checked (ofLayers? [invocation.layer, Layer.ofEnvironment environment, file]) := by
  rw [settingsFor, h]
  dsimp only [bind, Except.bind]
  unfold checked
  cases ofLayers? [invocation.layer, Layer.ofEnvironment environment, file] with
  | none => rfl
  | some settings => cases settings.validate <;> rfl

/-- A run loads what its places say. -/
theorem loads_settingsFor (environment : List (String × String))
    (h : Readable invocation content) :
    Loads (places invocation environment content)
      (settingsFor invocation environment content) := by
  obtain ⟨file, hfile, hlookup⟩ := exists_fileLayer h
  -- What the three layers have for a setting is what its places give.
  have hplaces : places invocation environment content = fun key =>
      [invocation.layer, Layer.ofEnvironment environment, file].map (·.lookup key) := by
    funext key
    simp [places, lookup_layer, Layer.lookup_ofEnvironment, hlookup]
  rw [hplaces, settingsFor_eq_checked environment hfile, loads_iff]
  cases hlayers : ofLayers? [invocation.layer, Layer.ofEnvironment environment, file] with
  | none => exact .inl ⟨ofLayers?_eq_none_iff.mp hlayers, rfl⟩
  | some settings => exact .inr ⟨settings, ofLayers?_eq_some_iff.mp hlayers, rfl⟩

/-- Layering is per setting. With a configuration file that can be read, every
setting takes its value from the strongest place that gives one: the option,
else the last variable, else the file, else the default. So a value of the
wrong type counts only if nothing stronger is given, and then nothing is
loaded. The same comes of all places with the same strongest values, and of the
table in which the places are put over one another key by key. Settings that
are loaded are valid: both names are identifiers and the depth is positive. -/
theorem settingsFor_layered (environment : List (String × String))
    (h : Readable invocation content) :
    (∀ outcome, settingsFor invocation environment content = outcome ↔
      Loads (places invocation environment content) outcome) ∧
    (∀ settings, settingsFor invocation environment content = .ok settings →
      settings.validate = .ok () ∧ IsIdentifier settings.appFactory ∧
        IsIdentifier settings.modelWrapper ∧ 0 < settings.maxDepth) ∧
    (∀ other otherEnvironment otherContent, Readable other otherContent →
      (∀ key ∈ fieldNames, strongest? (places other otherEnvironment otherContent key) =
        strongest? (places invocation environment content key)) →
      settingsFor other otherEnvironment otherContent =
        settingsFor invocation environment content) ∧
    ∃ file, fileLayer invocation content = .ok file ∧
      settingsFor invocation environment content =
        checked (ofTable? (merged [invocation.layer, Layer.ofEnvironment environment, file])) := by
  -- All four parts follow from what the run loads, as its places decide that.
  have hloads := loads_settingsFor environment h
  refine ⟨?_, ?_, ?_, ?_⟩
  · intro outcome
    constructor
    · rintro rfl
      exact hloads
    · intro houtcome
      exact hloads.unique houtcome
  · intro settings hsettings
    rw [hsettings] at hloads
    cases hloads with
    | loaded hchosen hvalid =>
      obtain ⟨hfactory, hwrapper, hdepth⟩ := validate_eq_ok_iff.mp hvalid
      exact ⟨hvalid, isName_iff.mp hfactory, isName_iff.mp hwrapper, hdepth⟩
  · intro other otherEnvironment otherContent hother heq
    exact (loads_settingsFor otherEnvironment hother).unique (hloads.congr heq)
  · obtain ⟨file, hfile, -⟩ := exists_fileLayer h
    refine ⟨file, hfile, ?_⟩
    rw [settingsFor_eq_checked environment hfile, ofLayers?_eq_ofTable?]

end

/-- The depth of the file has the wrong type, and that of the variable too, but
an option gives another. Without the option nothing is loaded; without the
variable for the depth nothing changes. -/
theorem settingsFor_layered_overridden :
    let content := some (.text "app_factory = \"defineApp\"\nmax_depth = \"deep\"\n")
    let environment := [("TSMETA_MAX_DEPTH", "[8]"), ("TSMETA_MODEL_WRAPPER", "Entity")]
    let plain : Invocation := { command := .extract, file := "app.ts" }
    let invocation : Invocation := { command := .extract, file := "app.ts", maxDepth := some 12 }
    Readable invocation content ∧
      settingsFor invocation environment content =
        .ok { appFactory := "defineApp", modelWrapper := "Entity", maxDepth := 12 } ∧
      IsIdentifier "Entity" ∧
      settingsFor invocation [("tsmeta_model_wrapper", "Entity")] content =
        settingsFor invocation environment content ∧
      settingsFor plain environment content = .error .settingsUnreadable := by
  intro content environment plain invocation
  have hreadable : Readable invocation content := by
    show (Layer.ofFile? _).isSome = true
    decide +kernel
  obtain ⟨hloads, hvalid, hcongr, -⟩ := settingsFor_layered environment hreadable
  -- Each setting from another place: the file, the variable and the option.
  have hloaded : settingsFor invocation environment content =
      .ok { appFactory := "defineApp", modelWrapper := "Entity", maxDepth := 12 } := by
    refine (hloads _).mpr (.loaded ⟨?_, ?_, ?_⟩ ?_)
    · exact takes_iff.mpr (by decide +kernel)
    · exact takes_iff.mpr (by decide +kernel)
    · exact takes_iff.mpr (by decide +kernel)
    · exact validate_eq_ok_iff.mpr (by decide +kernel)
  have hplain : Readable plain content := hreadable
  refine ⟨hreadable, hloaded, (hvalid _ hloaded).2.2.1, ?_, ?_⟩
  · exact hcongr _ _ _ hreadable (by decide +kernel)
  · refine ((settingsFor_layered environment hplain).1 _).mpr (.mistyped (.inr (.inr ?_)))
    exact (readFirst_eq_none_iff 256).mp (by decide +kernel)

end CommandLine

end AppMetadata
