import Tangle.Documents
import Tangle.History

/-!
# Publishing histories

Extracting code blocks and writing their diff report, with its stylesheet, into a directory
that exists. No line is filtered out, so the report shows every line of each fragment.
-/

namespace Tangle

/-- The result of publishing a diff report. -/
structure Publication where
  /-- The path of the page. -/
  page : Text
  /-- The path of the stylesheet. -/
  stylesheet : Text
  /-- The number of comparisons in the report. -/
  revisions : Nat
  diagnostics : List Diagnostic
  deriving Repr, DecidableEq

namespace Publication

/-- Ends the run unless a path leads to a directory. -/
def requireDirectory (path : Text) : Run Unit := do
  if !(← Run.isDirectory path) then Run.fail (.missingOutputDirectory path)

/-- Writes a file and reports it. -/
def publish (path text : Text) : Run Unit := do
  Run.writeText path text
  Run.report (.wrote path)

/-- Writes a report and its stylesheet into a directory. -/
def write (directory : Text) (report : List History) : Run (Text × Text) := do
  requireDirectory directory
  let stylesheet := Path.join directory History.stylesheetName
  publish stylesheet History.stylesheet
  let page := Path.join directory History.pageName
  match History.page? report with
  | none => Run.fail (.templateRender History.pageName)
  | some text =>
    publish page text
    pure (page, stylesheet)

end Publication

/-- Reads documents and publishes the histories of their fragments. -/
def publishDocuments (documents : List Text) (directory : Text)
    (compare : Text → Text → Text) : Run Publication := do
  let documents ← Documents.resolveAll documents
  Publication.requireDirectory directory
  let extraction ← Documents.extract .none documents
  let report := History.report compare extraction.fragments
  let (page, stylesheet) ← Publication.write directory report
  pure {
    page
    stylesheet
    revisions := History.revisionCount report
    diagnostics := extraction.diagnostics }

end Tangle
