import AppMetadata.Table

/-!
# `AppMetadata.Toml.Entry`: tables as they are being defined

A configuration file defines each of its tables once, in one of several
ways: by a header, by a dotted key, or only as what a deeper one is in.
Whether a definition is allowed depends on how the tables on its way were
defined (`descend`, `define`).
-/

set_option autoImplicit false

namespace AppMetadata.Toml

/-- A value, as far as it is kept: a setting is a text or a whole number. -/
inductive Value
  | text (value : String)
  | integer (value : Int)
  /-- A value of another type. -/
  | other
deriving DecidableEq, Repr, Inhabited

/-- How a table came to be. -/
inductive Origin
  /-- By a header of its own. -/
  | header
  /-- By a header of a table in it. -/
  | implied
  /-- By a dotted key. -/
  | dotted
deriving DecidableEq, Repr

/-- What a key stands for. -/
inductive Entry
  | value (value : Value)
  | table (origin : Origin) (entries : List (String × Entry))
  /-- Tables in a row under one name, the last one first. -/
  | tables (items : List (List (String × Entry)))
deriving Inhabited

/-- The keys of a table. -/
abbrev Entries := Table Entry

/-- Changes the table to which `path` leads, where `change` also sees how it
came to be; tables that are not there yet come to be on the way. A dotted key
does not lead into a table that has a header. -/
def descend (dotted : Bool) (change : Origin → Entries → Option Entries) :
    (path : List String) → Origin → Entries → Option Entries
  | [], origin, entries => change origin entries
  | key :: path, _, entries => do
    let entry ← match entries.lookup key with
      | none =>
        let origin := if dotted then .dotted else .implied
        .table origin <$> descend dotted change path origin []
      | some (.table origin inner) =>
        if dotted && origin == .header then none
        else .table origin <$> descend dotted change path origin inner
      | some (.tables (last :: before)) => do
        let last ← descend dotted change path .header last
        some (.tables (last :: before))
      | some _ => none
    return Table.put key entry entries

/-- Adds a key that must not be there yet. -/
def addKey (key : String) (entry : Entry) (entries : Entries) : Option Entries :=
  if (entries.lookup key).isNone then some (entries.put key entry) else none

/-- Defines the dotted key `path.key`. A dotted key adds only to tables that
dotted keys made. -/
def define (path : List String) (key : String) (value : Value) (entries : Entries) :
    Option Entries :=
  let add (origin : Origin) (inner : Entries) : Option Entries :=
    if origin = .dotted ∨ path = [] then addKey key (.value value) inner else none
  descend true add path .header entries

/-- The entry to which `path` leads. -/
def find? : (path : List String) → Entries → Option Entry
  | [], _ => none
  | [key], entries => entries.lookup key
  | key :: path, entries =>
    match entries.lookup key with
    | some (.table _ inner) => find? path inner
    | some (.tables (last :: _)) => find? path last
    | _ => none

/-- The table whose keys are being read. -/
structure Section where
  /-- Its keys from the outside in; none for the file as a whole. -/
  path : List String := []
  /-- Whether it is one of several tables under its name. -/
  isItem : Bool := false
  entries : Entries := []
deriving Inhabited

/-- A file of which some tables have been read. -/
structure Document where
  done : Entries := []
  current : Section := {}
deriving Inhabited

namespace Document

/-- The tables of a document with the one that was being read. -/
def close (document : Document) : Option Entries :=
  let current := document.current
  match current.path.getLast? with
  | none => some current.entries
  | some key =>
    let place (_ : Origin) (entries : Entries) : Option Entries :=
      if current.isItem then
        match entries.lookup key with
        | none => some (entries.put key (.tables [current.entries]))
        | some (.tables items) => some (entries.put key (.tables (current.entries :: items)))
        | some _ => none
      else some (entries.put key (.table .header current.entries))
    descend false place current.path.dropLast .header document.done

/-- Starts the table of a header: it must be new, or only implied so far. -/
def openTable (path : List String) (document : Document) : Option Document := do
  let done ← document.close
  match find? path done with
  | none => return { done, current := { path } }
  | some (.table .implied entries) => return { done, current := { path, entries } }
  | some _ => none

/-- Starts one more of several tables under a name. -/
def openItem (path : List String) (document : Document) : Option Document := do
  let done ← document.close
  match find? path done with
  | none | some (.tables _) => return { done, current := { path, isItem := true } }
  | some _ => none

/-- Defines a key of the present table. -/
def define (path : List String) (key : String) (value : Value) (document : Document) :
    Option Document := do
  let entries ← Toml.define path key value document.current.entries
  return { document with current := { document.current with entries } }

end Document

end AppMetadata.Toml
