import AppMetadata.ExtractionError

/-!
# `AppMetadata.Event`: what happened during an extraction

Loading and extraction note what they do. `Journal` is the way to note an
event; a computation that may fail keeps no notes, one that also carries a
list keeps them all, so the answer is the same with and without.
-/

set_option autoImplicit false

namespace AppMetadata

/-- How important an event is. -/
inductive Level
  | trace
  | debug
  | info
  | warn
deriving DecidableEq, Repr

/-- The word for a level. -/
def Level.name : Level → String
  | trace => "trace"
  | debug => "debug"
  | info => "info"
  | warn => "warn"

/-- The numbers of entries in the parts of an application. -/
structure Census where
  models : Nat
  inputs : Nat
  queries : Nat
  mutations : Nat
  subscriptions : Nat
  actions : Nat
  selections : Nat
deriving DecidableEq, Repr

/-- The events of an extraction. -/
inductive Event
  /-- A source file was read into a module. -/
  | moduleRead (path : Path) (declarations : Nat)
  /-- An import stands for no source file. -/
  | importUnresolved (importer : Path) (specifier : String)
  /-- All modules were read. -/
  | programLoaded (root : Path) (modules : Nat)
  /-- The root module declares an application. -/
  | rootFound (application : String) (path : Path)
  /-- A declaration is described in full. -/
  | expanding (typeName path : String)
  /-- A declaration is only linked. -/
  | linked (typeName path : String)
  /-- An entry repeats an earlier one. -/
  | duplicateSkipped (group typeName : String)
  /-- An entry has the name of an earlier one but another shape. -/
  | duplicateConflict (group typeName : String)
  /-- A group was extracted. -/
  | groupExtracted (group : String) (count : Nat)
  /-- The application was extracted. -/
  | applicationExtracted (application : String) (census : Census)
deriving DecidableEq, Repr

/-- The value of a field of an event. -/
inductive FieldValue
  | text (value : String)
  | count (value : Nat)
deriving DecidableEq, Repr

namespace Event

/-- The importance of an event. -/
def level : Event → Level
  | expanding _ _ | linked _ _ => .trace
  | duplicateConflict _ _ => .warn
  | applicationExtracted _ _ => .info
  | _ => .debug

/-- The wording of an event. -/
def message : Event → String
  | moduleRead _ _ => "lowered module"
  | importUnresolved _ _ => "relative import does not resolve to a source file"
  | programLoaded _ _ => "loaded program"
  | rootFound _ _ => "found application root"
  | expanding _ _ => "expanding declaration"
  | linked _ _ => "reference"
  | duplicateSkipped _ _ => "skipping duplicate entry"
  | duplicateConflict _ _ => "duplicate entry with a different shape; keeping the first"
  | groupExtracted _ _ => "extracted group"
  | applicationExtracted _ _ => "extracted application metadata"

/-- The fields of an event, in order. -/
def fields : Event → List (String × FieldValue)
  | moduleRead path declarations =>
    [("module", .text path.text), ("declarations", .count declarations)]
  | importUnresolved importer specifier =>
    [("module", .text importer.text), ("specifier", .text specifier)]
  | programLoaded root modules => [("root", .text root.text), ("modules", .count modules)]
  | rootFound application path =>
    [("application", .text application), ("path", .text path.text)]
  | expanding typeName path | linked typeName path =>
    [("type_name", .text typeName), ("path", .text path)]
  | duplicateSkipped group typeName | duplicateConflict group typeName =>
    [("group", .text group), ("type_name", .text typeName)]
  | groupExtracted group count => [("group", .text group), ("count", .count count)]
  | applicationExtracted application census =>
    [ ("application", .text application),
      ("models", .count census.models),
      ("inputs", .count census.inputs),
      ("queries", .count census.queries),
      ("mutations", .count census.mutations),
      ("subscriptions", .count census.subscriptions),
      ("actions", .count census.actions),
      ("selections", .count census.selections)]

end Event

/-- Computations that can note events. -/
class Journal (m : Type → Type) where
  note : Event → m Unit

export Journal (note)

/-- A computation that only answers or fails. -/
abbrev Attempt := Except ExtractionError

/-- No notes are kept. -/
instance : Journal Attempt where
  note _ := pure ()

/-- A computation that also keeps the events noted, even if it fails. -/
abbrev Recorded := ExceptT ExtractionError (StateM (Array Event))

/-- Every note is kept, in order. -/
instance : Journal Recorded where
  note event := modify (·.push event)

/-- The answer of a computation and the events noted on the way. -/
def Recorded.result {α : Type} (run : Recorded α) : Except ExtractionError α × List Event :=
  let (answer, events) := (run.run.run #[] : Except ExtractionError α × Array Event)
  (answer, events.toList)

end AppMetadata
