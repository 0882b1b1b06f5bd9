import Tangle.Settings.Reading

/-!
# Finding settings

The settings of a run come from a file that is named, or from the first one that is found: in a
directory or in one of the directories above it, the nearest first. A file that is found decides,
even if it is faulty; nothing is looked for after it.
-/

namespace Tangle.Settings

/-- The names of settings files. In one directory, an earlier one wins. -/
def fileNames : List Text := ["literate.toml".toList, ".literate.toml".toList, bareName]

/-- The number of directories that are looked through, the first one included. -/
def searchDepth : Nat := 5

/-- The paths at which settings are looked for from a directory on, in order. -/
def candidates (start : Text) : List Text :=
  (Path.ancestors searchDepth start).flatMap fun directory => fileNames.map (Path.join directory)

/-- The path of the nearest settings file from a directory on. -/
def locate (start : Text) : Run (Option Text) :=
  Run.ask fun world => (candidates start).find? (world.files.isFile world.here)

/-- The settings in a file. -/
def load (path : Text) : Run Settings := do
  if ← Run.isFile path then
    let text ← Run.readText path
    match ofText (Format.ofPath path) text with
    | some settings => pure settings
    | none => Run.fail (.configParse path)
  else Run.fail (.configNotFound path)

/-- The settings in the nearest settings file from a directory on, if there is one. -/
def discover (start : Text) : Run (Option Settings) := do
  match ← locate start with
  | some path => pure (some (← load path))
  | none => pure none

end Tangle.Settings
