import AppMetadata.CommandLine

/-!
# `AppMetadata.Main`: the program

Reads the arguments, runs the command that they ask for on the files of the
machine, and ends with a status.
-/

set_option autoImplicit false

namespace AppMetadata.CommandLine

/-- The bytes of a file as its content. -/
def decoded (bytes : ByteArray) : FileContent :=
  match String.fromUTF8? bytes with
  | some text => .text text
  | none => .undecodable

/-- What is stored in a file of the machine. -/
def storedAt (path : String) : IO (Option FileContent) := do
  try
    return some (decoded (← IO.FS.readBinFile path))
  catch _ =>
    return none

/-- The files that the file at `path` may mention. -/
def mentionedBy (path : Path) : FileContent → List Path
  | .undecodable => []
  | .text source =>
    match TypeScript.statements? path Program.rootId source with
    | none => []
    | some statements =>
      let specifiers := (Module.ofStatements path statements).specifiers
      (specifiers.filter SourceFiles.isRelative).flatMap fun specifier =>
        SourceFiles.candidates specifier path

/-- Adds the files at `paths` and all that they mention. -/
partial def gather (files : SourceFiles) (paths : List Path) : IO SourceFiles := do
  match paths with
  | [] => return files
  | path :: rest =>
    if files.isFile path then gather files rest
    else
      match ← storedAt path.text with
      | none => gather files rest
      | some content => gather (files.insert path content) (mentionedBy path content ++ rest)

/-- Why a file could not be written. -/
def reasonOf (failure : IO.Error) : String :=
  match failure with
  | .noFileOrDirectory .. => "No such file or directory (os error 2)"
  | .permissionDenied .. => "Permission denied (os error 13)"
  | .inappropriateType _ code _ =>
    if code = 20 then "Not a directory (os error 20)" else "Is a directory (os error 21)"
  | failure => toString failure

/-- The variables that a command may look at. -/
def variableNames : List String :=
  let settings := Settings.fieldNames.map ("tsmeta_" ++ ·)
  settings ++ settings.map String.toUpper ++ ["NO_COLOR", "FORCE_COLOR"]

/-- The machine that the program runs on. -/
instance machine : Host IO where
  environment := variableNames.filterMapM fun name => do
    return (← IO.getEnv name).map (name, ·)
  onTerminal := do (← IO.getStderr).isTty
  content? := storedAt
  sources root := gather {} [root]
  write path text := do
    try
      IO.FS.writeFile path text
      return .ok ()
    catch failure =>
      return .error (reasonOf failure)
  print text := IO.print text
  tell line := IO.eprintln line

/-- How the program is used. -/
def helpText : String :=
  "Extract portable type metadata from TypeScript application declarations\n\n" ++
  "Usage: tsmeta [OPTIONS] <COMMAND>\n\n" ++
  "Commands:\n" ++
  "  extract  Parse an application file and print its metadata as JSON\n" ++
  "  check    Parse an application file and report dangling model references\n" ++
  "  models   List the model and input type names of an application\n" ++
  "  help     Print this message\n\n" ++
  "Options:\n" ++
  "  -v, --verbose               Enable verbose logging (debug level)\n" ++
  "  -q, --quiet                 Suppress all output except errors\n" ++
  "      --no-color              Disable colored output\n" ++
  "  -c, --config <PATH>         Path to a TOML config file\n" ++
  "      --factory <NAME>        Name of the app-creation function\n" ++
  "      --model-wrapper <NAME>  Name of the model wrapper type\n" ++
  "      --max-depth <N>         Maximum nesting depth of the type walk\n" ++
  "  -h, --help                  Print help\n" ++
  "  -V, --version               Print version\n"

/-- Says why no command was run. -/
def explain (usage : Usage) : IO Unit :=
  match usage with
  | .displayHelp => IO.print helpText
  | .displayVersion => IO.println "tsmeta 0.4.1"
  | .displayHelpOnMissingArgumentOrSubcommand => IO.eprint helpText
  | usage => IO.eprintln s!"error: {usage.message}\n\nFor more information, try '--help'."

end AppMetadata.CommandLine

open AppMetadata CommandLine

/-- Runs the program. -/
def main (arguments : List String) : IO UInt32 := do
  match CommandLine.read arguments with
  | .error usage =>
    explain usage
    return usage.exitCode.toUInt32
  | .ok invocation =>
    match ← (execute invocation : ExceptT Failure IO Unit).run with
    | .ok () => return 0
    | .error failure =>
      IO.eprintln s!"Error: {failure.report}"
      return 1
