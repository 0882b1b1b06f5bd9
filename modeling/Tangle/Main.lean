import Tangle.Command

/-!
# The program

Commands run on a file tree. Here the part of the disk that a command can look at becomes such a
tree, and the files that it has written go back to the disk.
-/

namespace Tangle.Disk

/-! ## What a command can look at -/

/-- The paths that reading a document can lead to. -/
def documentPaths (documents : List Text) : List Text :=
  documents.flatMap fun path => [path, path ++ '.' :: Documents.extension]

/-- The paths that looking for settings can lead to. -/
def settingsPaths (root : Text) (file : Option Text) (documents : List Text) : List Text :=
  match file with
  | some path => [path]
  | none =>
    let starts := root :: (Settings.documentDirectory? documents).toList
    starts.flatMap Settings.candidates

/-- The paths that a command can look at before it looks for templates. -/
def pathsBefore (root : Text) : Command → List Text
  | .render documents templates file _ =>
    templates :: settingsPaths root file documents ++ documentPaths documents
  | .diff documents output => output :: documentPaths documents
  | .list documents file => settingsPaths root file documents ++ documentPaths documents

/-- The paths of templates that a command can look at, by the identifiers in its documents. -/
def templatePaths (command : Command) (world : World) : List Text :=
  match command with
  | .render documents templates file _ =>
    let extraction : Run Extraction := do
      let settings ← Settings.choose file documents
      Command.extractDocuments documents settings
    match (extraction.run world).1 with
    | .ok found => found.fragments.map fun f => Path.join templates f.template
    | .error _ => []
  | _ => []

/-! ## From the disk and back -/

/-- The locations on the way of some names, the last one of all included. -/
def wayOf (here : Location) : List Text → List Location
  | [] => [here]
  | name :: more => here :: wayOf (if name = ['.', '.'] then here.dropLast else here ++ [name]) more

/-- The path of a location as a string. -/
def pathString (location : Location) : String := String.ofList location.path

/-- Puts a file of the disk into a tree. -/
def addFile (files : FileTree) (location : Location) : IO FileTree := do
  let octets ← IO.FS.readBinFile (pathString location)
  pure (files.put location (.file (.ofOctets octets.toList)))

/-- Puts what is at a location of the disk into a tree: a file, or a directory with its files. -/
def addLocation (files : FileTree) (location : Location) : IO FileTree := do
  let place := (← IO.currentDir) / pathString location
  if ← place.isDir then
    let mut files := files.makeDirectories location
    for entry in ← place.readDir do
      if !(← entry.path.isDir) then
        files ← addFile files (location ++ [entry.fileName.toList])
    pure files
  else if ← place.pathExists then addFile (files.makeDirectories location.dropLast) location
  else pure files

/-- Puts the directory at a location of the disk into a tree, without its files. -/
def addDirectory (files : FileTree) (location : Location) : IO FileTree := do
  let place := (← IO.currentDir) / pathString location
  pure (if ← place.isDir then files.makeDirectories location else files)

/-- Puts what a path leads to into a tree, with the directories on the way. -/
def addPath (here : Location) (files : FileTree) (path : Text) : IO FileTree := do
  let start := if Path.isAbsolute path then [] else here
  let way := wayOf start (Path.names path)
  let files ← way.dropLast.foldlM addDirectory files
  addLocation files (way.getLastD start)

/-- Writes the files that differ between two trees to the disk. -/
def writeBack (before after : FileTree) : IO Unit := do
  for (location, node) in after.nodes do
    if before.node? location ≠ some node then
      match node with
      | .file contents => IO.FS.writeFile (pathString location) (String.ofList contents.shown)
      | .directory => pure ()

/-- The world in which a command is run. -/
def worldFor (command : Command) : IO World := do
  let here := Path.names (← IO.currentDir).toString.toList
  let files := FileTree.empty.makeDirectories here
  let files ← (pathsBefore (Location.path here) command).foldlM (addPath here) files
  let found := templatePaths command { files, here }
  let files ← found.foldlM (addPath here) files
  pure { files, here }

end Tangle.Disk

open Tangle

/-- Runs the program. -/
def main (arguments : List String) : IO UInt32 := do
  let arguments := arguments.map String.toList
  let names ← Command.variableNames.filterM fun name => return (← IO.getEnv name).isSome
  let world ←
    match Command.ofArguments arguments with
    | .ok invocation => Disk.worldFor invocation.command
    | .error _ => pure { files := .empty, here := [] }
  let (ending, after) := Command.execute Stencil.renderer arguments (names.map String.toList) world
  Disk.writeBack world.files after.files
  for event in ending.log do
    IO.eprintln (String.ofList event.line)
  IO.print (String.ofList ending.output)
  IO.eprint (String.ofList ending.complaint)
  pure ending.status.toUInt32
