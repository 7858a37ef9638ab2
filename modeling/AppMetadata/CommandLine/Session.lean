import AppMetadata.CommandLine

/-!
# `AppMetadata.CommandLine.Session`: commands in a finite world

A folder that holds finitely many files is all that a command sees in a
`Session`, which also keeps what was printed. A path is followed step by step
from the folder: it may lead to a directory, a file, or a place where a file
can be put.
-/

set_option autoImplicit false

namespace AppMetadata.CommandLine

/-- What a path leads to. -/
inductive Place
  | directory (segments : List String)
  | file (content : FileContent)
  /-- Nothing, in a directory that exists. -/
  | vacant (segments : List String)
  /-- Nothing, in a directory that does not exist. -/
  | nowhere
  /-- Something inside of a file. -/
  | beyondFile
deriving Repr

/-- The files in and below a folder. -/
abbrev Folder := SourceFiles

namespace Folder

/-- Whether some file is below the directory. -/
def isDirectory (folder : Folder) (segments : List String) : Bool :=
  folder.entries.any fun (path, _) =>
    !path.rooted && segments.isPrefixOf path.segments && segments.length < path.segments.length

/-- The place of a name in a directory. -/
def placeIn (folder : Folder) (segments : List String) : Place :=
  match folder.content? ⟨false, segments⟩ with
  | some content => .file content
  | none => if isDirectory folder segments then .directory segments else .vacant segments

/-- One step along a path. Directories above the folder exist. -/
def step (folder : Folder) (place : Place) (segment : String) : Place :=
  match place with
  | .directory segments =>
    if segment = "" ∨ segment = "." then place
    else if segment = ".." then
      match segments.getLast? with
      | none | some ".." => .directory (segments ++ [".."])
      | some _ => .directory segments.dropLast
    else placeIn folder (segments ++ [segment])
  | .vacant _ => if segment = "" then place else .nowhere
  | .file _ | .beyondFile => .beyondFile
  | .nowhere => .nowhere

/-- The place that a path leads to. Nothing is known about paths from the
root. -/
def place (folder : Folder) (path : String) : Place :=
  let segments := (Text.splitWhere (· == '/') path.toList).map String.ofList
  match segments with
  | "" :: _ => .nowhere
  | segments => segments.foldl (step folder) (.directory [])

/-- The folder after a file was written, or why it cannot be. -/
def write (folder : Folder) (path text : String) : Except String Folder :=
  let put : Except String Folder := .ok (folder.insert (Path.ofText path) (.text text))
  match place folder path with
  | .file _ => put
  | .vacant _ => if path.endsWith "/" then .error "Is a directory (os error 21)" else put
  | .directory _ => .error "Is a directory (os error 21)"
  | .nowhere => .error "No such file or directory (os error 2)"
  | .beyondFile => .error "Not a directory (os error 20)"

end Folder

/-- What a command sees and does. -/
structure Session where
  folder : Folder := {}
  environment : List (String × String) := []
  /-- What was printed to the standard output. -/
  output : String := ""
  /-- The status messages. -/
  messages : String := ""
deriving Inhabited

instance Session.host : Host (StateM Session) where
  environment := return (← get).environment
  onTerminal := return false
  content? path := do
    match Folder.place (← get).folder path with
    | .file content => return some content
    | _ => return none
  sources _ := return (← get).folder
  write path text := do
    let session ← get
    match session.folder.write path text with
    | .ok folder =>
      set { session with folder }
      return .ok ()
    | .error reason => return .error reason
  print text := modify fun session => { session with output := session.output ++ text }
  tell line := modify fun session => { session with messages := session.messages ++ line ++ "\n" }

/-- Runs a command in a session. -/
def Session.run (session : Session) (invocation : Invocation) :
    Except Failure Unit × Session :=
  (execute invocation : ExceptT Failure (StateM Session) Unit).run.run session

end AppMetadata.CommandLine
