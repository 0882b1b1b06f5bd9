import Tangle.Extraction
import Tangle.Filter
import Tangle.Path
import Tangle.Run

/-!
# Documents

Extracting code blocks from the documents of a run: all of them are found before the first is read,
and duplicates are looked for across the whole set.
-/

namespace Tangle.Documents

/-- The extension that a document has unless its path is given in full. -/
def extension : Text := ['m', 'd']

/-- The path of a document: the given one if it is a file, and else with the extension added. -/
def resolve (path : Text) : Run Text := do
  if ← Run.isFile path then pure path
  else
    let candidate :=
      if Path.extension? path = some extension then path else path ++ '.' :: extension
    if ← Run.isFile candidate then pure candidate else Run.fail (.missingDocument candidate)

/-- The paths of several documents. -/
def resolveAll (paths : List Text) : Run (List Text) := paths.mapM resolve

/-- Reads one document. -/
def read (filter : LineFilter) (path : Text) : Run Extraction := do
  let content ← Run.readText path
  Reporting.extract Run.raise filter.excludes path content

/-- The diagnostic about documents without fragments. -/
def emptiness (fragments : List Fragment) : List Diagnostic :=
  if fragments.isEmpty then [{ problem := .noBlocks }] else []

/-- Reads documents in order and keeps the first of fragments with the same key. -/
def extract (filter : LineFilter) (paths : List Text) : Run Extraction := do
  let paths ← resolveAll paths
  let read ← paths.mapM (read filter)
  let pruned ← Reporting.prune Run.raise (read.flatMap Extraction.fragments)
  let absence := emptiness pruned.fragments
  Run.raiseAll absence
  pure {
    fragments := pruned.fragments
    diagnostics := read.flatMap Extraction.diagnostics ++ pruned.diagnostics ++ absence }

end Tangle.Documents
