import Tangle.Fragment
import Tangle.Stencil.Evaluation

/-!
# Histories

The sections and records of a diff report. The history of a name is its section: it compares each of
its versions with the one before, in one record for every step. A report holds the histories of all
names that have at least two versions, and is shown as a page. The page is made from a template, in
which names and versions are escaped.
-/

namespace Tangle

/-- A record of a diff report: the step from one version of a name to the next. -/
structure Revision where
  fromVersion : Nat
  toVersion : Nat
  /-- What a comparison of the two contents gave. -/
  comparison : Text
  deriving Repr, DecidableEq

/-- A section of a diff report: all steps of one name, in the order of versions. -/
structure History where
  name : Text
  revisions : List Revision
  deriving Repr, DecidableEq

namespace History

open Stencil (Value renderIn)

/-- The first member of a list for each value of `key`. -/
def firstBy {α β : Type} [DecidableEq β] (key : α → β) : List α → List α
  | [] => []
  | a :: rest => a :: firstBy key (rest.filter fun b => key b ≠ key a)
  termination_by members => members.length
  decreasing_by
    rw [List.length_unattach]
    exact Nat.lt_succ_of_le
      (Nat.le_trans (List.length_filter_le _ _) (Nat.le_of_eq List.length_attach))

/-- The names of fragments, in the order in which they first occur. -/
def names (fragments : List Fragment) : List Text := firstBy id (fragments.map Fragment.name)

/-- The fragments that stand for the versions of a name: of several with the same version the
first, and all in ascending order. -/
def versionsOf (name : Text) (fragments : List Fragment) : List Fragment :=
  (firstBy Fragment.version (fragments.filter fun f => f.name = name)).mergeSort
    fun f g => f.version ≤ g.version

/-- The steps between neighbouring fragments. -/
def revisionsOf (compare : Text → Text → Text) (versions : List Fragment) : List Revision :=
  versions.zipWith (fun f g => ⟨f.version, g.version, compare f.content g.content⟩) versions.tail

/-- The diff report of code blocks: the histories of the names with at least two versions. -/
def report (compare : Text → Text → Text) (fragments : List Fragment) : List History :=
  ((names fragments).map fun name =>
      { name, revisions := revisionsOf compare (versionsOf name fragments) }).filter
    fun history => !history.revisions.isEmpty

/-- The number of steps in a report. -/
def revisionCount (report : List History) : Nat :=
  report.foldr (fun h count => h.revisions.length + count) 0

/-! ## The page -/

/-- The name of the page's file. -/
def pageName : Text := "index.html".toList

/-- The name of the stylesheet's file. -/
def stylesheetName : Text := "diff.css".toList

/-- The template of the page, line by line. -/
def pageTemplate : Text :=
  ["<!DOCTYPE html>",
    "<html>",
    "<head>",
    "<meta charset=\"utf-8\">",
    "<title>Code block history</title>",
    "<link rel=\"stylesheet\" href=\"\x7b\x7b stylesheet \x7d\x7d\">",
    "</head>",
    "<body>",
    "\x7b%- for section in sections %\x7d",
    "<section class=\"block\">",
    "<h2>\x7b\x7b section.name \x7d\x7d</h2>",
    "\x7b%- for record in section.records %\x7d",
    "<div class=\"diff\">",
    "<h3>\x7b\x7b section.name \x7d\x7d: v\x7b\x7b record.from_version \x7d\x7d &rarr; " ++
      "v\x7b\x7b record.to_version \x7d\x7d</h3>",
    "\x7b\x7b record.fragment \x7d\x7d",
    "</div>",
    "\x7b%- endfor %\x7d",
    "</section>",
    "\x7b%- endfor %\x7d",
    "</body>",
    "</html>"].flatMap fun line => line.toList ++ ['\n']

/-- What the template sees of a step. Comparisons are markup already. -/
def revisionValue (revision : Revision) : Value :=
  .ofFields [
    ("from_version".toList, .int revision.fromVersion),
    ("to_version".toList, .int revision.toVersion),
    ("fragment".toList, .text revision.comparison true)]

/-- What the template sees of a history. -/
def value (history : History) : Value :=
  .ofFields [
    ("name".toList, .ofText history.name),
    ("records".toList, .list (history.revisions.map revisionValue))]

/-- A report as a page, if the template can be rendered. -/
def page? (report : List History) : Option Text :=
  renderIn true
    [("sections".toList, .list (report.map value)), ("stylesheet".toList, .ofText stylesheetName)]
    pageTemplate

/-- A rule of the stylesheet: a selector and its declarations. -/
def styleRule (selector : String) (declarations : List String) : Text :=
  selector.toList ++ [' ', '{', '\n'] ++
    declarations.flatMap (fun d => ' ' :: ' ' :: d.toList ++ [';', '\n']) ++ ['}', '\n']

/-- The stylesheet of the page. -/
def stylesheet : Text :=
  styleRule "body"
      ["font-family: -apple-system, BlinkMacSystemFont, 'Segoe UI', Helvetica, Arial, sans-serif",
        "margin: 2rem", "color: #24292e"] ++
    styleRule "section.block" ["margin-bottom: 3rem"] ++
    styleRule "div.diff h3" ["font-size: 1rem", "margin: 1.5rem 0 0.5rem"] ++
    styleRule "pre.diff" ["background: #f6f8fa", "padding: 0.75rem", "overflow-x: auto"] ++
    styleRule "pre.diff span" ["display: block"] ++
    styleRule "pre.diff span.ins" ["background: #e6ffed"] ++
    styleRule "pre.diff span.del" ["background: #ffeef0"]

end History

end Tangle
