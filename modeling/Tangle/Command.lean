import Tangle.Command.Arguments
import Tangle.Command.Output
import Tangle.LineDiff
import Tangle.Settings.Discovery
import Tangle.Stencil.Evaluation

/-!
# Commands

Running a command, from its arguments to what it shows. The settings of a run come from the file
that the command names, or from the nearest settings file of the working directory, or from that of
the first document.
-/

namespace Tangle

/-- The path of a location. -/
def Location.path (location : Location) : Text := '/' :: Text.joinWith ['/'] location

/-- The path of the working directory. -/
def Run.root : Run Text := Run.ask fun world => world.here.path

namespace Settings

/-- The directory of the first of some documents, if its path names one. -/
def documentDirectory? (documents : List Text) : Option Text :=
  (documents.head?.bind Path.parent?).filter fun directory => !directory.isEmpty

/-- The settings of a run. -/
def choose (file : Option Text) (documents : List Text) : Run Settings := do
  match file with
  | some path => load path
  | none =>
    match ← discover (← Run.root) with
    | some settings => pure settings
    | none =>
      match documentDirectory? documents with
      | none => pure {}
      | some directory => pure ((← discover directory).getD {})

end Settings

/-- The renderer of the command line: the template language, whatever a template is called. -/
def Stencil.renderer : Renderer := fun _ source scope => Stencil.render source scope

namespace Command

/-- Extracts the code blocks of documents with the filter of a configuration. -/
def extractDocuments (documents : List Text) (settings : Settings) : Run Extraction := do
  let documents ← Documents.resolveAll documents
  let filter ← settings.filter
  Documents.extract filter documents

/-- Runs a command with a renderer for templates. -/
def run (renderer : Renderer) : Command → Run Output
  | .render documents templates file format => do
    let settings ← Settings.choose file documents
    let rendering ← renderDocuments documents templates settings renderer
    match format with
    | .text => pure (.lines (rendering.lines (← Run.root)))
    | .json => pure (.json rendering.json)
  | .diff documents directory => do
    let publication ← publishDocuments documents directory LineDiff.render
    pure (.lines (publication.lines (← Run.root)))
  | .list documents file => do
    let settings ← Settings.choose file documents
    let extraction ← extractDocuments documents settings
    pure (.lines (extraction.lines (← Run.root)))

/-! ## From arguments to an ending -/

/-- The name and the version of the program. -/
def versionLine : Text := "literate_cli 0.1.0\n".toList

/-- How the program is used. -/
def usage : Text :=
  "Usage: literate [OPTIONS] [COMMAND]

Commands:
  render  Render every template once per version
  diff    Write an HTML report of how each block changed between versions
  list    List the code blocks found in the documents
  help    Print this message

Options:
  -v, --verbose   Enable debug logging
  -q, --quiet     Suppress all log output
      --no-color  Disable colored output
  -h, --help      Print help
  -V, --version   Print version
".toList

/-- How the program ends: its exit status, what it shows, the events that it logs, and what it
complains about. -/
structure Ending where
  status : Nat
  output : Text := []
  log : List Event := []
  complaint : Text := []
  /-- The fault that ended the run. -/
  fault : Option Fault := none
  deriving Repr, DecidableEq

/-- How the program ends when no command is run. -/
def Notice.ending : Notice → Ending
  | .help => { status := 0, output := usage }
  | .version => { status := 0, output := versionLine }
  | .idle => {
      status := 1
      complaint := "No subcommand specified. Run `literate --help` for usage.\n".toList }
  | .misuse => { status := 2, complaint := usage }

/-- How the program ends when a command ends with a fault. -/
def faultEnding (fault : Fault) (log : List Event) : Ending where
  status := 2
  log
  complaint := fault.code ++ ':' :: ' ' :: fault.message ++ ['\n']
  fault := some fault

/-- Whether colors are on: a switch and a variable of the environment turn them off. -/
def isColored (switches : List Switch) (names : List Text) : Bool :=
  !switches.contains .noColor && !names.contains "NO_COLOR".toList

/-- Whether nothing is logged: a switch or a variable of the environment asks for that. -/
def isQuiet (switches : List Switch) (names : List Text) : Bool :=
  switches.contains .quiet || names.contains "LITERATE_TEST".toList

/-- The variables of the environment that matter. -/
def variableNames : List String := ["NO_COLOR", "LITERATE_TEST"]

/-- Runs the program with arguments, given the names of the variables of the environment. -/
def execute (renderer : Renderer) (arguments names : List Text) (world : World) :
    Ending × World :=
  match ofArguments arguments with
  | .error notice => (notice.ending, world)
  | .ok invocation =>
    let (outcome, after) := (invocation.command.run renderer).run { world with log := [] }
    let log := if isQuiet invocation.switches names then [] else after.log
    match outcome with
    | .error fault => (faultEnding fault log, after)
    | .ok output =>
      let colored := isColored invocation.switches names
      ({ status := 0, output := output.text colored, log }, after)

end Command

end Tangle
