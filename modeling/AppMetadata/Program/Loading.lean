import AppMetadata.Event
import AppMetadata.Program
import AppMetadata.SourceFiles
import AppMetadata.TypeScript

/-!
# `AppMetadata.Program.Loading`: reading a root file and all it mentions

Modules are read in breadth-first order from the root: each module's
specifiers are resolved in sorted order, and every file that is found is read
once and linked. Specifiers of packages are left alone, and those that stand
for no file are noted.
-/

set_option autoImplicit false

namespace AppMetadata.Program

variable {m : Type → Type} [Monad m] [MonadExceptOf ExtractionError m] [Journal m]

/-- The module of the file at `path`, which becomes module `id`. -/
def readModule (files : SourceFiles) (id : ModuleId) (path : Path) : m Module := do
  match files.read path with
  | .error failure => throw (ExtractionError.unreadable path (failure.message path.text))
  | .ok source =>
    match TypeScript.statements? path id source with
    | none => throw (ExtractionError.malformed path "unexpected syntax")
    | some statements =>
      let module := Module.ofStatements path statements
      note (.moduleRead path module.declarations.length)
      return module

/-- The position of the module at `path`. -/
def idOfPath? (program : Program) (path : Path) : Option ModuleId :=
  program.modules.findIdx? (·.path == path)

/-- Adds a module without links. -/
def push (program : Program) (module : Module) : Program :=
  ⟨program.modules.push { module with }⟩

/-- Links a specifier of the module `id`. -/
def link (program : Program) (id : ModuleId) (specifier : String) (target : ModuleId) :
    Program :=
  ⟨program.modules.modify id fun module =>
    { module with links := module.links.put specifier target }⟩

/-- Links one specifier of the module `id` at `importer`, and reads the file
that it stands for unless it was read before. -/
def follow (files : SourceFiles) (id : ModuleId) (importer : Path) (program : Program)
    (specifier : String) : m Program := do
  if !SourceFiles.isRelative specifier then
    return program
  match files.resolve? specifier importer with
  | none =>
    note (.importUnresolved importer specifier)
    return program
  | some target =>
    match program.idOfPath? target with
    | some known => return program.link id specifier known
    | none =>
      let next := program.modules.size
      let module ← readModule files next target
      return (program.push module).link id specifier next

/-- Follows the specifiers of the modules from `id` on, in order, until no
module is left. `steps` bounds the number of modules. -/
def followAll (files : SourceFiles) : (steps : Nat) → (id : ModuleId) → Program → m Program
  | 0, _, program => return program
  | steps + 1, id, program =>
    match program.module? id with
    | none => return program
    | some module => do
      let program ← module.specifiers.foldlM (follow files id module.path) program
      followAll files steps (id + 1) program

/-- The program of the file at `root` and of every file that it mentions. A
file has at most two paths, with and without a leading dot. -/
def load (files : SourceFiles) (root : Path) : m Program := do
  let root := root.clean
  unless files.isFile root do
    throw (ExtractionError.invalidApplication root)
  let module ← readModule files rootId root
  let start := Program.push ⟨#[]⟩ module
  let program ← followAll files (2 * files.entries.length + 1) rootId start
  note (.programLoaded root program.modules.size)
  return program

end AppMetadata.Program
