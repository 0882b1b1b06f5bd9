import Tangle.Json
import Tangle.Publication
import Tangle.Rendering

/-!
# Output of commands

What a command shows: lines for people, some words of them in color, or JSON for programs. Every
summary of diagnostics counts errors and warnings apart, and shows only counts that are not zero.
-/

namespace Tangle

/-! ## Colors -/

/-- How a word is set off. -/
inductive Emphasis where
  | red
  | green
  | yellow
  | bold
  deriving Repr, DecidableEq

/-- A terminal code. -/
def terminalCode (digits : List Char) : Text := '\x1B' :: '[' :: digits ++ ['m']

/-- A text that is set off, if colors are on. -/
def emphasized (colored : Bool) (emphasis : Emphasis) (text : Text) : Text :=
  if colored then
    match emphasis with
    | .red => terminalCode ['3', '1'] ++ text ++ terminalCode ['3', '9']
    | .green => terminalCode ['3', '2'] ++ text ++ terminalCode ['3', '9']
    | .yellow => terminalCode ['3', '3'] ++ text ++ terminalCode ['3', '9']
    | .bold => terminalCode ['1'] ++ text ++ terminalCode ['0']
  else text

/-! ## Lines -/

/-- A line of output. Paths are as shown. -/
inductive Line where
  | blank
  | noneWritten
  | written (path : Text) (version : Nat)
  | writtenCount (count least greatest : Nat)
  | published (path : Text) (revisions : Nat)
  | noFragments
  | fragmentHeading
  | fragment (fragment : Fragment) (file : Text)
  | fragmentCount (count : Nat)
  | errorCount (count : Nat)
  | warningCount (count : Nat)
  deriving Repr, DecidableEq

/-- The text of a line, without a line feed. -/
def Line.text (colored : Bool) : Line → Text
  | .blank => []
  | .noneWritten => "No files written.".toList
  | .written path version =>
    emphasized colored .green "wrote".toList ++ ' ' :: path ++ " (v".toList ++
      Text.ofNat version ++ [')']
  | .writtenCount count least greatest =>
    Text.ofNat count ++ " file(s) written for versions ".toList ++ Text.ofNat least ++
      "..=".toList ++ Text.ofNat greatest
  | .published path revisions =>
    emphasized colored .green "wrote".toList ++ ' ' :: path ++ " (".toList ++
      Text.ofNat revisions ++ " change(s))".toList
  | .noFragments => "No code blocks found.".toList
  | .fragmentHeading => emphasized colored .bold "Blocks:".toList
  | .fragment f file =>
    [' ', ' '] ++ f.name ++ " template=".toList ++ f.template ++ " ver=".toList ++
      Text.ofNat f.version ++ ' ' :: file ++ ':' :: Text.ofNat f.line
  | .fragmentCount count => Text.ofNat count ++ " block(s)".toList
  | .errorCount count => emphasized colored .red (Text.ofNat count ++ " error(s)".toList)
  | .warningCount count => emphasized colored .yellow (Text.ofNat count ++ " warning(s)".toList)

/-- The number of diagnostics of a severity. -/
def Severity.count (severity : Severity) (diagnostics : List Diagnostic) : Nat :=
  (diagnostics.filter fun d => d.severity = severity).length

/-- The summary of diagnostics. -/
def summary (diagnostics : List Diagnostic) : List Line :=
  let errors := Severity.error.count diagnostics
  let warnings := Severity.warning.count diagnostics
  (if errors = 0 then [] else [.errorCount errors]) ++
    (if warnings = 0 then [] else [.warningCount warnings])

/-- A path as it is shown: from the working directory on, if it lies below that. -/
def shownPath (root path : Text) : Text := (Path.within? root path).getD path

/-- The lines about a rendering run. -/
def Rendering.lines (root : Text) (rendering : Rendering) : List Line :=
  (if rendering.written.isEmpty then [.noneWritten]
    else rendering.written.map fun r => .written (shownPath root r.path) r.version) ++
  (match rendering.versions with
    | some (least, greatest) => [.blank, .writtenCount rendering.written.length least greatest]
    | none => []) ++
  summary rendering.diagnostics

/-- The lines about a report. -/
def Publication.lines (root : Text) (publication : Publication) : List Line :=
  .published (shownPath root publication.page) publication.revisions ::
    summary publication.diagnostics

/-- The lines about an extraction. Without fragments a single one says so. -/
def Extraction.lines (root : Text) (extraction : Extraction) : List Line :=
  if extraction.fragments.isEmpty then [.noFragments]
  else
    .fragmentHeading ::
      extraction.fragments.map (fun f => .fragment f (shownPath root f.file)) ++
      [.blank, .fragmentCount extraction.fragments.length] ++ summary extraction.diagnostics

/-! ## JSON -/

namespace Json

/-- A value that may be absent. -/
def ofOption {α : Type} (f : α → Json) : Option α → Json
  | none => .null
  | some a => f a

/-- An object with one field. -/
def tagged (name : String) (value : Json) : Json := .object [(name.toList, value)]

end Json

/-- A problem as JSON: its kind, with what belongs to it. -/
def Problem.json : Problem → Json
  | .incompleteDeclaration name template version =>
    .tagged "IncompleteDeclaration" (.object [
      ("name".toList, .ofOption .string name),
      ("template".toList, .ofOption .string template),
      ("version".toList, .ofOption .string version)])
  | .emptyBlock => .string "EmptyBlock".toList
  | .nonNumericVersion value => .tagged "NonNumericVersion" (.tagged "value" (.string value))
  | .duplicateBlock existing skipped =>
    .tagged "DuplicateBlock" (.object [
      ("existing".toList, .string existing.describe),
      ("skipped".toList, .string skipped.describe)])
  | .noBlocks => .string "NoBlocks".toList
  | .ambiguousTemplate template candidates =>
    .tagged "AmbiguousTemplate" (.object [
      ("template".toList, .string template),
      ("candidates".toList, .array (candidates.map .string))])
  | .missingTemplate template searched =>
    .tagged "MissingTemplate" (.object [
      ("template".toList, .string template),
      ("searched".toList, .string searched)])

/-- A diagnostic as JSON. -/
def Diagnostic.json (diagnostic : Diagnostic) : Json :=
  .object [
    ("kind".toList, diagnostic.problem.json),
    ("file".toList, .ofOption .string diagnostic.file),
    ("line".toList, .ofOption .number diagnostic.line),
    ("version".toList, .ofOption .number diagnostic.version)]

/-- A written file as JSON. -/
def Rendered.json (rendered : Rendered) : Json :=
  .object [
    ("template".toList, .string rendered.template),
    ("version".toList, .number rendered.version),
    ("path".toList, .string rendered.path)]

/-- Two versions and all between them as JSON. -/
def versionsJson (versions : Nat × Nat) : Json :=
  .object [("start".toList, .number versions.1), ("end".toList, .number versions.2)]

/-- A rendering run as JSON. -/
def Rendering.json (rendering : Rendering) : Json :=
  .object [
    ("written".toList, .array (rendering.written.map Rendered.json)),
    ("diagnostics".toList, .array (rendering.diagnostics.map Diagnostic.json)),
    ("versions".toList, .ofOption versionsJson rendering.versions)]

/-! ## Both -/

/-- What a command shows. -/
inductive Output where
  | lines (shown : List Line)
  | json (value : Json)

/-- The text of an output. -/
def Output.text (colored : Bool) : Output → Text
  | .lines shown => shown.flatMap fun line => line.text colored ++ ['\n']
  | .json value => value.pretty 0 ++ ['\n']

end Tangle
