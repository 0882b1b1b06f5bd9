import Tangle.Diagnostic
import Tangle.Fault

/-!
# Runs

A run works on a world: a file tree, a working directory, and the log that is traced. A fault ends
the run and leaves the world as it is at that moment.
-/

namespace Tangle

/-- What a run reports while it works. -/
inductive Event where
  | raised (diagnostic : Diagnostic)
  /-- A file was written; the text is its path as shown. -/
  | wrote (shown : Text)
  | done
  deriving Repr, DecidableEq

/-- The log line of an event. -/
def Event.line : Event → Text
  | .raised diagnostic =>
    match diagnostic.severity with
    | .warning => "WARN ".toList ++ diagnostic.text
    | .error => "ERROR ".toList ++ diagnostic.text
  | .wrote shown => "INFO wrote ".toList ++ shown
  | .done => "INFO done".toList

/-- What a run works on. -/
structure World where
  files : FileTree
  /-- The working directory. -/
  here : Location
  /-- The events so far, the first one first. -/
  log : List Event := []

/-- A computation that reads and changes a world and can end with a fault. -/
abbrev Run (α : Type) := ExceptT Fault (StateM World) α

namespace Run

/-- A question about the world that changes nothing. -/
def ask {α : Type} (question : World → α) : Run α := fun world => (.ok (question world), world)

/-- Ends the run with a fault. -/
def fail {α : Type} (fault : Fault) : Run α := fun world => (.error fault, world)

/-- Adds an event to the log. -/
def report (event : Event) : Run Unit := fun world =>
  (.ok (), { world with log := world.log ++ [event] })

/-- Adds a diagnostic to the log. -/
def raise (diagnostic : Diagnostic) : Run Unit := report (.raised diagnostic)

/-- Adds diagnostics to the log. -/
def raiseAll (diagnostics : List Diagnostic) : Run Unit := fun world =>
  (.ok (), { world with log := world.log ++ diagnostics.map .raised })

/-- Whether a path leads to a file. -/
def isFile (path : Text) : Run Bool := ask fun world => world.files.isFile world.here path

/-- Whether a path leads to a directory. -/
def isDirectory (path : Text) : Run Bool := ask fun world => world.files.isDirectory world.here path

/-- Whether a path leads to anything. -/
def pathExists (path : Text) : Run Bool := ask fun world => world.files.has world.here path

/-- The text of a file. -/
def readText (path : Text) : Run Text := fun world =>
  match world.files.readText world.here path with
  | .ok text => (.ok text, world)
  | .error cause => (.error (.io cause), world)

/-- The names of the files in a directory. -/
def fileNames (path : Text) : Run (List Text) := fun world =>
  match world.files.fileNames world.here path with
  | .ok names => (.ok names, world)
  | .error cause => (.error (.io cause), world)

/-- Writes a file. -/
def writeText (path text : Text) : Run Unit := fun world =>
  match world.files.writeText world.here path text with
  | .ok files => (.ok (), { world with files })
  | .error cause => (.error (.io cause), world)

/-- Takes the value of a result, or ends the run with its fault. -/
def ofExcept {α : Type} (result : Except Fault α) : Run α := fun world => (result, world)

end Run

end Tangle
