import AppMetadata.Json

/-!
# `AppMetadata.Source.Location`: lines and columns

A place in a source text is a byte offset, shown as a line and a column that
both count from one. Only a line feed starts a new line, and columns count
bytes. `LineIndex` keeps the offsets at which lines start, so that a place
is found without reading the text again. Offsets, lines and columns have 32
bits, and their sums are taken modulo `UInt32.size`.
-/

set_option autoImplicit false

namespace AppMetadata

/-- A place in a source text. -/
structure Location where
  line : Nat := 0
  column : Nat := 0
deriving DecidableEq, Repr, Inhabited

namespace Location

/-- A place in words. -/
def text (place : Location) : String :=
  s!"line {place.line}, column {place.column}"

end Location

/-- The offsets at which the lines of a text start, in order. The first is
zero. They are kept in 32 bits. -/
structure LineIndex where
  starts : Array UInt32

namespace LineIndex

/-- The offsets after the line feeds of `cs`, where `cs` starts at
`offset`. -/
def startsAfter (offset : Nat) : List Char → List Nat
  | [] => []
  | c :: cs =>
    let next := offset + c.utf8Size
    if c = '\n' then next :: startsAfter next cs else startsAfter next cs

/-- The index of `text`. -/
def ofText (text : String) : LineIndex :=
  ⟨((0 :: startsAfter 0 text.toList).map Nat.toUInt32).toArray⟩

/-- The number of `starts` in the range from `low` to `high` that are at or
below `offset`, plus `low`; the range is halved at every step. -/
def countUpTo (starts : Array UInt32) (offset : UInt32) (low high : Nat) : Nat :=
  if low < high then
    let middle := (low + high) / 2
    if starts.getD middle 0 ≤ offset then countUpTo starts offset (middle + 1) high
    else countUpTo starts offset low middle
  else low
termination_by high - low

/-- The place of the byte at `offset`, which is in the line of the last entry
at or below it. Lines and columns are counted in 32 bits too. -/
def location (index : LineIndex) (offset : UInt32) : Location :=
  let entry := countUpTo index.starts offset 0 index.starts.size - 1
  let line := entry.toUInt32 + 1
  let column := offset - index.starts.getD entry 0 + 1
  { line := line.toNat, column := column.toNat }

end LineIndex

end AppMetadata
