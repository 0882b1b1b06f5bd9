import Tangle.Glob
import Tangle.Path
import Tangle.Run

/-!
# Template directories

Finding the template file of an identifier. An identifier that ends in the suffix of templates names
a file; any other one stands for the files with its name, some extension, and the suffix. Of several
the first in the order of names is taken, with a warning.
-/

namespace Tangle

/-- A directory with templates. -/
structure TemplateDirectory where
  root : Text
  suffix : Text
  deriving Repr, DecidableEq

namespace TemplateDirectory

/-- Opens a directory with templates. It exists, and its name has the suffix as its extension or has
none. -/
def openAt (root suffix : Text) : Run TemplateDirectory := do
  if !(← Run.pathExists root) then Run.fail (.missingTemplateDirectory root)
  else
    match Path.extension? root with
    | some extension =>
      if extension ≠ suffix then Run.fail (.templateDirectoryExtension root suffix)
      else pure { root, suffix }
    | none => pure { root, suffix }

/-- The glob for the files that an identifier stands for. -/
def searchPattern (directory : TemplateDirectory) (identifier : Text) : Text :=
  Glob.escape identifier ++ ['.', '*', '.'] ++ Glob.escape directory.suffix

/-- The files that an identifier stands for, in the order of their names. -/
def candidates (directory : TemplateDirectory) (identifier : Text) : Run (List Text) := do
  match Glob.read? (directory.searchPattern identifier) with
  | none => Run.fail (.templatePattern identifier)
  | some glob =>
    let names ← Run.fileNames directory.root
    pure ((names.filter (Glob.matchesText glob)).mergeSort Text.precedes)

/-- What looking up an identifier yields: a file, or none, and what there is to report. -/
structure Lookup where
  path : Option Text
  diagnostics : List Diagnostic

/-- The warning about several candidates. -/
def ambiguity (identifier : Text) (names : List Text) : List Diagnostic :=
  if 1 < names.length then [{ problem := .ambiguousTemplate identifier names }] else []

/-- Looks up the template file of an identifier. -/
def resolve (directory : TemplateDirectory) (identifier : Text) : Run Lookup := do
  let names ←
    if identifier.endsWith ('.' :: directory.suffix) then pure [identifier]
    else directory.candidates identifier
  let warnings := ambiguity identifier names
  Run.raiseAll warnings
  let path := names.head?.map (Path.join directory.root)
  let found ←
    match path with
    | some path => Run.isFile path
    | none => pure false
  if found then pure { path, diagnostics := warnings }
  else
    let missing : Diagnostic :=
      { problem := .missingTemplate identifier (path.getD directory.root) }
    Run.raiseAll [missing]
    pure { path := none, diagnostics := warnings ++ [missing] }

end TemplateDirectory

end Tangle
