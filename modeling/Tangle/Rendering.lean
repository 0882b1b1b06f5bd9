import Tangle.Documents
import Tangle.Scope
import Tangle.Settings
import Tangle.Template.Directory
import Tangle.Template.File

/-!
# Rendering

A rendering run walks through all versions from the lowest to the highest that a fragment has. At
each version the fragments of that version are bound, and every template that was referenced so far
is rendered again, so that what was bound earlier carries over. A template that cannot be found is
passed over at that version.
-/

namespace Tangle

/-- An output artifact: a file that was written for a template at a version. -/
structure Rendered where
  template : Text
  version : Nat
  path : Text
  deriving Repr, DecidableEq

/-- The result of a rendering run. -/
structure Rendering where
  /-- The files in the order in which they were written. -/
  written : List Rendered := []
  diagnostics : List Diagnostic := []
  /-- The lowest and the highest version, if there are fragments. -/
  versions : Option (Nat × Nat) := none
  deriving Repr, DecidableEq

/-- A template renderer makes a text of the identifier of a template, its source and the namespace
of the identifier, or fails. -/
abbrev Renderer := Text → Text → Scope → Option Text

/-- The lowest and the highest version of fragments. -/
def versionRange (fragments : List Fragment) : Option (Nat × Nat) := do
  let least ← (fragments.map Fragment.version).min?
  let greatest ← (fragments.map Fragment.version).max?
  pure (least, greatest)

namespace Rendering

/-- The template identifiers referenced so far, in the order of their first reference, with their
namespaces. -/
abbrev Scopes := List (Text × Scope)

/-- Adds the identifiers that fragments reference for the first time. -/
def reference (scopes : Scopes) (active : List Fragment) : Scopes :=
  active.foldl
    (fun scopes f =>
      if scopes.any fun entry => entry.1 = f.template then scopes
      else scopes ++ [(f.template, Scope.empty)])
    scopes

/-- The scopes at a version, given the fragments of that version: each identifier's fragments are
bound in its scope. -/
def advance (scopes : Scopes) (active : List Fragment) (version : Nat) : Scopes :=
  (reference scopes active).map fun (identifier, scope) =>
    (identifier,
      (scope.merge (active.filter fun f => f.template = identifier)).setVersion version)

/-- A text that ends in a line feed, one being added where it is missing. -/
def withFinalLineFeed (text : Text) : Text :=
  if text.getLast? = some '\n' then text else text ++ ['\n']

/-- The greatest number of characters of a path that the log shows. -/
def shownLength : Nat := 50

/-- The end of a text, with dots before it when something was cut off. -/
def shortened (bound : Nat) (text : Text) : Text :=
  if text.length ≤ bound then text else ['.', '.', '.'] ++ text.drop (text.length - bound)

/-- Renders one template at one version. -/
def renderOne (directory : TemplateDirectory) (renderer : Renderer) (version : Nat)
    (identifier : Text) (scope : Scope) : Run Rendering := do
  let lookup ← directory.resolve identifier
  let diagnostics := lookup.diagnostics.map (Diagnostic.during version)
  match lookup.path with
  | none => pure { diagnostics }
  | some path =>
    let file ← Run.ofExcept (TemplateFile.ofPath path directory.suffix)
    let source ← Run.readText file.path
    match renderer identifier source scope with
    | none => Run.fail (.templateRender identifier)
    | some text =>
      let output := file.outputPath version
      Run.writeText output (withFinalLineFeed text)
      Run.report (.wrote (shortened shownLength output))
      pure { written := [⟨identifier, version, output⟩], diagnostics }

/-- One result after another. -/
def append (first second : Rendering) : Rendering where
  written := first.written ++ second.written
  diagnostics := first.diagnostics ++ second.diagnostics
  versions := first.versions

/-- Renders all identifiers referenced so far at one version. -/
def renderScopes (directory : TemplateDirectory) (renderer : Renderer) (version : Nat) :
    Scopes → Run Rendering
  | [] => pure {}
  | (identifier, scope) :: more => do
    let first ← renderOne directory renderer version identifier scope
    let rest ← renderScopes directory renderer version more
    pure (first.append rest)

/-- Walks through `count` versions from `version` on. -/
def walk (fragments : List Fragment) (directory : TemplateDirectory) (renderer : Renderer) :
    Nat → Nat → Scopes → Run Rendering
  | 0, _, _ => pure {}
  | count + 1, version, scopes => do
    let active := fragments.filter fun f => f.version = version
    let scopes := advance scopes active version
    let first ← renderScopes directory renderer version scopes
    let rest ← walk fragments directory renderer count (version + 1) scopes
    pure (first.append rest)

end Rendering

/-- Renders code blocks into their templates, once for every version. -/
def renderFragments (fragments : List Fragment) (directory : TemplateDirectory)
    (renderer : Renderer) : Run Rendering := do
  match versionRange fragments with
  | none => pure {}
  | some (least, greatest) =>
    let result ← Rendering.walk fragments directory renderer (greatest - least + 1) least []
    pure { result with versions := some (least, greatest) }

/-- Extracts the code blocks of documents and renders them into the templates of a directory.
Documents, the directory and the filter are checked before anything is read or written. -/
def renderDocuments (documents : List Text) (root : Text) (settings : Settings)
    (renderer : Renderer) : Run Rendering := do
  let documents ← Documents.resolveAll documents
  let directory ← TemplateDirectory.openAt root settings.suffix
  let filter ← settings.filter
  let extraction ← Documents.extract filter documents
  let result ← renderFragments extraction.fragments directory renderer
  Run.report .done
  pure { result with diagnostics := extraction.diagnostics ++ result.diagnostics }

end Tangle
