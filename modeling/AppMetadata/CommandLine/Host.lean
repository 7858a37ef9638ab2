import AppMetadata.ExtractionError
import AppMetadata.SourceFiles

/-!
# `AppMetadata.CommandLine.Host`: what a command needs from its surroundings

A command reads environment variables and files, prints, and may write one
file. `Host` is the way to all of these. A command that may fail needs no more
than one that may not.
-/

set_option autoImplicit false

namespace AppMetadata.CommandLine

/-- The surroundings of a command. -/
class Host (m : Type → Type) where
  /-- The environment variables. -/
  environment : m (List (String × String))
  /-- Whether the status messages go to a terminal with colors. -/
  onTerminal : m Bool
  /-- What is stored in the file that a path leads to. -/
  content? (path : String) : m (Option FileContent)
  /-- Source files, among them the one at `root` and all that it leads to. -/
  sources (root : Path) : m SourceFiles
  /-- Writes a file, or says why that is not possible. -/
  write (path text : String) : m (Except String Unit)
  /-- Prints to the standard output. -/
  print (text : String) : m Unit
  /-- Prints a status message. -/
  tell (line : String) : m Unit

/-- Why a command fails. -/
inductive Failure
  /-- The configuration file that was asked for does not exist. -/
  | settingsMissing (path : String)
  /-- The settings are not well-formed, or one has the wrong type. -/
  | settingsUnreadable
  /-- A setting has a value that cannot be used. -/
  | settingsRejected (cause : ExtractionError)
  | extractionFailed (cause : ExtractionError)
  /-- Links lead to no model or input. -/
  | dangling (count : Nat)
  | notWritten (path reason : String)
deriving DecidableEq, Repr

/-- The wording of a failure. -/
def Failure.report : Failure → String
  | settingsMissing path =>
    s!"Configuration error: Config file not found: {path}\n\n" ++
      "Hint: Create a tsmeta.toml file or fix the --config path"
  | settingsUnreadable =>
    "Configuration error: the settings cannot be read\n\n" ++
      "Hint: Check tsmeta.toml syntax and TSMETA_* environment variables"
  | settingsRejected cause => s!"Configuration error: {cause.message}"
  | extractionFailed cause => s!"Extraction failed: {cause.message}"
  | dangling count =>
    s!"{count} dangling reference(s) found\n\n" ++
      "Hint: list every referenced type under `models` or `inputs`"
  | notWritten path reason => s!"Failed to write {path}: {reason}"

/-- A command that may fail. -/
instance Host.ofExcept {m : Type → Type} [Monad m] [Host m] : Host (ExceptT Failure m) where
  environment := ExceptT.lift Host.environment
  onTerminal := ExceptT.lift Host.onTerminal
  content? path := ExceptT.lift (Host.content? path)
  sources root := ExceptT.lift (Host.sources root)
  write path text := ExceptT.lift (Host.write path text)
  print text := ExceptT.lift (Host.print text)
  tell line := ExceptT.lift (Host.tell line)

end AppMetadata.CommandLine
