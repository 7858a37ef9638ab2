import AppMetadata.Group
import AppMetadata.Program.Loading

/-!
# `AppMetadata.Extraction`: the application that a program declares

The root module exports one thing: a variable whose value is a call of the
application factory with one type argument, the options. Types may be
exported beside it. `Extraction.applicationRoot` finds the name and the
options, and `Extraction.application` extracts the groups one after the
other. `Extraction.fromFiles` starts from the files themselves.
-/

set_option autoImplicit false

namespace AppMetadata.Extraction

/-- What an application looks like, for messages. -/
def expected (name factory : String) : String :=
  s!"`export const {name} = {factory}" ++ "<\x7b ... \x7d>()`"

/-- The only value that the module exports. -/
def singleExport (module : Module) (factory : String) : Except ExtractionError Export :=
  match module.exports.filter (!·.typeOnly) with
  | [] => .error (.rootShape
      (s!"`{module.path.text}` exports no application; expected " ++ expected "app" factory))
  | [item] => .ok item
  | items =>
    let names := ", ".intercalate (items.map (·.name))
    .error (.rootShape
      (s!"expected a single exported declaration in `{module.path.text}`, " ++
        s!"found {items.length}: {names}"))

/-- The call that gives the exported variable its value. -/
def factoryCall (item : Export) (factory : String) : Except ExtractionError InitialCall :=
  let place := s!"`{item.name}` at {item.location.text} must "
  match item.kind with
  | .variable (some call) =>
    if call.callee = factory then .ok call
    else .error (.rootShape
      s!"`{item.name}` at {call.location.text} must call `{factory}`, found `{call.callee}`")
  | .variable none =>
    .error (.rootShape (place ++ s!"be initialized with a call to `{factory}`"))
  | _ => .error (.rootShape
      (place ++ "be a variable declared as " ++ expected item.name factory))

/-- The members of the object type that the factory is called with. -/
def optionsOf (call : InitialCall) (factory : String) : Except ExtractionError (List Member) :=
  match call.typeArgs with
  | [options] =>
    match options.form with
    | .object members => .ok members
    | _ => .error (.rootShape
        (s!"the type argument of `{factory}` at {options.location.text} " ++
          "must be an object type literal"))
  | args => .error (.rootShape
      (s!"`{factory}` at {call.location.text} takes exactly one type argument, " ++
        s!"found {args.length}"))

/-- The name of the application that `module` declares, and its options. -/
def applicationRoot (module : Module) (factory : String) :
    Except ExtractionError (String × List Member) := do
  let item ← singleExport module factory
  let call ← factoryCall item factory
  let options ← optionsOf call factory
  return (item.name, options)

/-- The numbers of entries of an application. -/
def census (app : Application) : Census where
  models := app.models.length
  inputs := app.inputs.length
  queries := app.queries.length
  mutations := app.mutations.length
  subscriptions := app.subscriptions.length
  actions := app.actions.length
  selections := app.selections.length

variable {m : Type → Type} [Monad m] [MonadExceptOf ExtractionError m] [Journal m]

/-- The root module of a program. -/
def rootModule (program : Program) : Module :=
  match program.module? Program.rootId with
  | some linked => linked.toModule
  | none => { path := ⟨false, []⟩ }

/-- The application that `program` declares. -/
def application (program : Program) (settings : Settings) : m Application := do
  let root := rootModule program
  let (name, options) ← MonadExcept.ofExcept (applicationRoot root settings.appFactory)
  note (.rootFound name root.path)
  let extractor : Extractor := { program, settings, options }
  let models ← extractor.models
  let inputs ← extractor.inputs
  let queries ← extractor.operations .queries
  let mutations ← extractor.operations .mutations
  let subscriptions ← extractor.operations .subscriptions
  let actions ← extractor.actions
  let selections ← extractor.selections
  let app : Application :=
    { name, models, inputs, queries, mutations, subscriptions, actions, selections }
  note (.applicationExtracted name (census app))
  return app

/-- The application that the file at `root` declares. -/
def fromFiles (settings : Settings) (files : SourceFiles) (root : Path) : m Application := do
  MonadExcept.ofExcept settings.validate
  application (← Program.load files root) settings

/-- The application that `source` declares as the file at `root`; other files
are found among `files`. -/
def fromSource (settings : Settings) (files : SourceFiles) (root : Path) (source : String) :
    m Application :=
  fromFiles settings (files.overlay root (.text source)) root

end AppMetadata.Extraction
