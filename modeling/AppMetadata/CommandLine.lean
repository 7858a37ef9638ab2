import AppMetadata.CommandLine.Arguments
import AppMetadata.CommandLine.Host
import AppMetadata.CommandLine.Status
import AppMetadata.Extraction
import AppMetadata.Json.Printer
import AppMetadata.Settings.Layer

/-!
# `AppMetadata.CommandLine`: the commands

`extract` prints the metadata of an application, `check` tells which links
in it lead nowhere, and `models` lists the names of models and inputs. All of
them read the settings first (`settingsFor`) and describe the application
(`describe`).
-/

set_option autoImplicit false

namespace AppMetadata.CommandLine

open Settings (Layer)

/-! ### Settings -/

/-- The configuration file that counts if it exists and no other is asked
for. -/
def usualConfig : String := "tsmeta.toml"

/-- The layer of the command line. -/
def Invocation.layer (invocation : Invocation) : Layer :=
  let entry {α : Type} (key : String) (make : α → Toml.Value) (value : Option α) : Layer :=
    (value.map fun value => (key, make value)).toList
  entry "app_factory" .text invocation.factory ++
    entry "model_wrapper" .text invocation.modelWrapper ++
    entry "max_depth" (fun depth => .integer (depth : Nat)) invocation.maxDepth

/-- The layer of the configuration file, which is `content` if it exists. One
that is asked for must exist. -/
def fileLayer (invocation : Invocation) (content : Option FileContent) :
    Except Failure Layer :=
  match invocation.config, content with
  | some path, none => .error (.settingsMissing path)
  | none, none => .ok []
  | _, some content =>
    match Layer.ofFile? content with
    | some layer => .ok layer
    | none => .error .settingsUnreadable

/-- The settings for a run: what the command line says, then the environment
variables, then the configuration file. -/
def settingsFor (invocation : Invocation) (environment : List (String × String))
    (content : Option FileContent) : Except Failure Settings := do
  let file ← fileLayer invocation content
  match Settings.ofLayers? [invocation.layer, Layer.ofEnvironment environment, file] with
  | none => throw .settingsUnreadable
  | some settings =>
    match settings.validate with
    | .ok () => return settings
    | .error cause => throw (.settingsRejected cause)

/-! ### Running a command -/

variable {m : Type → Type} [Monad m] [Host m]

/-- Tells a status message. -/
def status (invocation : Invocation) (tone : Tone) (message : String) : m Unit := do
  let colored := useColors invocation.noColor (← Host.environment) (← Host.onTerminal)
  Host.tell (statusLine colored tone message)

variable [MonadExceptOf Failure m]

/-- The application that the file declares. -/
def describe (invocation : Invocation) : m Application := do
  let content ← Host.content? (invocation.config.getD usualConfig)
  let settings ← MonadExcept.ofExcept (settingsFor invocation (← Host.environment) content)
  let root := Path.ofText invocation.file
  let files ← Host.sources root.clean
  match (Extraction.fromFiles settings files root : Attempt Application) with
  | .ok app => return app
  | .error cause => throw (Failure.extractionFailed cause)

/-- The metadata as text. -/
def rendered (invocation : Invocation) (app : Application) : String :=
  (if invocation.compact then app.toJson.compact else app.toJson.pretty) ++ "\n"

/-- Prints the metadata, or writes it to a file. -/
def extract (invocation : Invocation) : m Unit := do
  let app ← describe invocation
  match invocation.out with
  | none => Host.print (rendered invocation app)
  | some path =>
    match ← Host.write path (rendered invocation app) with
    | .ok () => status invocation .success s!"Wrote `{app.name}` metadata to {path}"
    | .error reason => throw (Failure.notWritten path reason)

/-- How many entries each group has. -/
def summary (app : Application) : List String :=
  let census := Extraction.census app
  let groups := [
    ("models", census.models), ("inputs", census.inputs), ("queries", census.queries),
    ("mutations", census.mutations), ("subscriptions", census.subscriptions),
    ("actions", census.actions), ("selections", census.selections)]
  groups.map fun (group, count) => s!"  {group}: {count}"

/-- Tells which links lead to no model or input, and fails if there are
any. -/
def check (invocation : Invocation) : m Unit := do
  status invocation .info s!"Checking {invocation.file}..."
  let app ← describe invocation
  for line in summary app do
    status invocation .info line
  let dangling := app.danglingReferences
  if dangling.isEmpty then
    status invocation .success s!"`{app.name}` is consistent"
  else
    for (name, path) in dangling do
      status invocation .warning s!"`{name}` referenced at `{path}` is not a model or input"
    throw (Failure.dangling dangling.length)

/-- The name under which a type is listed: that of its model, with that of the
type if it is another one. -/
def displayName (shape : Shape) : String :=
  match shape.modelName, shape.typeName with
  | some model, some type => if model = type then model else s!"{model} ({type})"
  | some name, none | none, some name => name
  | none, none => shape.propertyName

/-- Lists the models and inputs. -/
def models (invocation : Invocation) : m Unit := do
  let app ← describe invocation
  for shape in app.models do
    Host.print s!"model {displayName shape}\n"
  for shape in app.inputs do
    Host.print s!"input {displayName shape}\n"

/-- Runs the command that was asked for. -/
def execute (invocation : Invocation) : m Unit :=
  match invocation.command with
  | .extract => extract invocation
  | .check => check invocation
  | .models => models invocation

end AppMetadata.CommandLine
