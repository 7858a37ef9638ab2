import AppMetadata.Text.Split

/-!
# `AppMetadata.Path`: lexical file paths

A path is read as its segments: slashes in a row count as one, and a `.`
segment counts only at the start of a path that is not rooted. `Path.clean`
also drops that one and folds `x/..`, without looking at any file system.
-/

set_option autoImplicit false

namespace AppMetadata

/-- A file path: whether it starts at the root, and its segments. -/
structure Path where
  rooted : Bool
  segments : List String
deriving DecidableEq, Repr, Inhabited

namespace Path

/-- Drops the segments that say nothing: empty ones, and dots that do not
start the path. -/
def significant (segments : List String) : List String :=
  segments.filter fun segment => segment != "" && segment != "."

/-- Reads a path. -/
def ofText (text : String) : Path :=
  let segments := (Text.splitWhere (· == '/') text.toList).map String.ofList
  let rooted := text.toList.head? == some '/'
  match segments with
  | "." :: rest => ⟨rooted, "." :: significant rest⟩
  | segments => ⟨rooted, significant segments⟩

/-- The text of a path. -/
def text (path : Path) : String :=
  (if path.rooted then "/" else "") ++ "/".intercalate path.segments

/-- One step of cleaning: `done` holds the segments so far, the last
first. -/
def cleanStep (rooted : Bool) (done : List String) (segment : String) : List String :=
  if segment = "." then done
  else if segment = ".." then
    match done with
    | [] => if rooted then [] else [".."]
    | last :: before => if last = ".." then ".." :: done else before
  else segment :: done

/-- The shortest path that names the same place, judged by its text alone.
Nothing lies above the root, and a path without segments is `.`. -/
def clean (path : Path) : Path :=
  let segments := (path.segments.foldl (cleanStep path.rooted) []).reverse
  if segments = [] ∧ path.rooted = false then ⟨false, ["."]⟩ else ⟨path.rooted, segments⟩

/-- The path without its last segment; a root has none, nor has a path
without segments. -/
def parent (path : Path) : Path :=
  match path.segments with
  | [] => ⟨false, []⟩
  | segments => ⟨path.rooted, segments.dropLast⟩

/-- The path `other` as seen from `path`. -/
def join (path other : Path) : Path :=
  if other.rooted then other
  else ⟨path.rooted, path.segments ++ other.segments.filter fun segment =>
    segment != "." || path.segments == [] && !path.rooted⟩

/-- The last segment, unless it leads upwards. -/
def fileName? (path : Path) : Option String :=
  match path.segments.getLast? with
  | some name => if name = "." ∨ name = ".." then none else some name
  | none => none

/-- A file name cut at its last dot; none without a dot, or if the only dot
is the first character. -/
def stemAndExtension? (name : String) : Option (String × String) :=
  let reversed := name.toList.reverse
  match reversed.dropWhile (· != '.') with
  | _ :: before@(_ :: _) =>
    some (String.ofList before.reverse,
      String.ofList (reversed.takeWhile (· != '.')).reverse)
  | _ => none

/-- The text after the last dot of the file name. -/
def extension? (path : Path) : Option String :=
  path.fileName?.bind fun name => (stemAndExtension? name).map (·.2)

/-- The path with another extension. -/
def withExtension (path : Path) (extension : String) : Path :=
  match path.fileName? with
  | none => path
  | some name =>
    let stem := ((stemAndExtension? name).map (·.1)).getD name
    ⟨path.rooted, path.segments.dropLast ++ [stem ++ "." ++ extension]⟩

/-- The path whose text is that of `path` followed by a dot and
`extension`. -/
def append (path : Path) (extension : String) : Path :=
  ofText (path.text ++ "." ++ extension)

end Path

end AppMetadata
