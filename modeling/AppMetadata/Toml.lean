import AppMetadata.Toml.Reader

/-!
# `AppMetadata.Toml`: configuration files

A configuration file is a row of lines: headers that start a table, and keys
of the table that was started last. `Toml.entries?` reads a file as the keys
of its outermost table.
-/

set_option autoImplicit false

namespace AppMetadata.Toml

open Reader

/-- What a line says about the document. -/
def line (depth : Nat) (document : Document) : Reader Document := do
  gap
  let header (isItem : Bool) (close : String) : Reader Document := do
    let (path, last) ← key
    expect close
    let path := path ++ [last]
    (if isItem then document.openItem path else document.openTable path : Option Document)
  match ← peek with
  | none | some '#' | some '\n' | some '\r' => return document
  | some '[' =>
    if ← eat "[[" then header true "]]"
    else
      expect "["
      header false "]"
  | _ =>
    let (path, last, item) ← assignment (value depth)
    (document.define path last item : Option Document)

/-- The document after the lines that are left; `count` bounds their
number. -/
def lines (depth : Nat) : (count : Nat) → Document → Reader Document
  | 0, _ => failure
  | count + 1, document => do
    let document ← line depth document
    gapAndComment
    if ← eatLineEnd then lines depth count document
    else
      require (← get).isEmpty
      return document

/-- The keys of a file's outermost table; none if the file is not
well-formed. A mark of the byte order may stand in front. -/
def entries? (source : String) : Option Entries := do
  let cs := source.toList
  let cs := if cs.head? = some '\uFEFF' then cs.drop 1 else cs
  let size := cs.length
  let (document, _) ← (lines (size + 1) (size + 1) {}).run cs
  document.close

end AppMetadata.Toml
