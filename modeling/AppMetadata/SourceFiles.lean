import AppMetadata.Path

/-!
# `AppMetadata.SourceFiles`: the files of a compilation unit

Finitely many source files by path. Paths are cleaned on the way in and on
the way out, so every spelling of a path finds the same file. A specifier of
an import is looked up by trying the files that it may stand for in a fixed
order (`candidates`).

The main statement is `content?_insert_self`.
-/

set_option autoImplicit false

namespace AppMetadata

/-- What is stored in a file. -/
inductive FileContent
  | text (source : String)
  /-- Bytes that are not the UTF-8 encoding of a text. -/
  | undecodable
deriving DecidableEq, Repr, Inhabited

/-- Why a file gives no text. -/
inductive ReadFailure
  | notLoaded
  | undecodable
deriving DecidableEq, Repr

/-- What is wrong with the file called `path`. -/
def ReadFailure.message (path : String) : ReadFailure → String
  | notLoaded => s!"{path} is not loaded"
  | undecodable => "stream did not contain valid UTF-8"

/-- Files by cleaned path, each path once. -/
structure SourceFiles where
  entries : List (Path × FileContent) := []
deriving Repr, Inhabited

namespace SourceFiles

/-- What is stored at `path`. -/
def content? (files : SourceFiles) (path : Path) : Option FileContent :=
  files.entries.lookup path.clean

/-- Whether there is a file at `path`. -/
def isFile (files : SourceFiles) (path : Path) : Bool :=
  (files.content? path).isSome

/-- Stores `content` at `path` in place of what was there. -/
def insert (files : SourceFiles) (path : Path) (content : FileContent) : SourceFiles :=
  ⟨(path.clean, content) :: files.entries.filter (·.1 != path.clean)⟩

/-- What was stored last is there. -/
theorem content?_insert_self (files : SourceFiles) (path : Path) (content : FileContent) :
    (files.insert path content).content? path = some content := by
  simp [content?, insert]

/-- Puts a file in front of the others, so that it hides one at the same
path. -/
def overlay (files : SourceFiles) (path : Path) (content : FileContent) : SourceFiles :=
  ⟨(path.clean, content) :: files.entries⟩

/-- The files that `entries` list; of two at one path the later counts. -/
def ofList (entries : List (Path × FileContent)) : SourceFiles :=
  entries.foldl (fun files entry => files.insert entry.1 entry.2) {}

/-- The text at `path`, or why there is none. -/
def read (files : SourceFiles) (path : Path) : Except ReadFailure String :=
  match files.content? path with
  | some (.text source) => .ok source
  | some .undecodable => .error .undecodable
  | none => .error .notLoaded

/-- The extensions that an import may leave out, in the order in which they
are tried. -/
def extensions : List String :=
  ["ts", "tsx", "d.ts", "mts"]

/-- Whether a specifier names a file by its place and not a package. -/
def isRelative (specifier : String) : Bool :=
  specifier.startsWith "./" || specifier.startsWith "../"

/-- The extension of the source that a script is made from. -/
def sourceExtension? : String → Option String
  | "js" | "jsx" => some "ts"
  | "mjs" => some "mts"
  | _ => none

/-- The files that a relative specifier in `importer` may stand for: the path
as written if it has the extension of a source, the source of a script, the
path with an extension added, the index of a directory. -/
def candidates (specifier : String) (importer : Path) : List Path :=
  let target := (importer.parent.join (Path.ofText specifier)).clean
  let asWritten :=
    if target.extension?.any (["ts", "tsx", "mts"].contains ·) then [target] else []
  let ofScript :=
    ((target.extension?.bind sourceExtension?).map target.withExtension).toList
  asWritten ++ ofScript ++ extensions.map target.append ++
    extensions.map fun extension => target.join (Path.ofText s!"index.{extension}")

/-- The file that `specifier` stands for in `importer`. -/
def resolve? (files : SourceFiles) (specifier : String) (importer : Path) : Option Path :=
  if isRelative specifier then (candidates specifier importer).find? files.isFile else none

end SourceFiles

end AppMetadata
