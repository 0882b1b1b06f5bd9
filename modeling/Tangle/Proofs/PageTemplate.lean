import Tangle.History
import Tangle.Proofs.Stencil

/-!
# The template of a page

The page of a report comes from a template with a loop for the histories and in it one for their
steps. Its rendering cannot fail, whatever the report: `page?_eq` says what the page is, element by
element.

## Layers

- **Pages**: the text of a page, without its template.
- **Reading**: the segments of the template and the statements that they are read to.
- **Rendering**: what the statements make of a step, of a history and of a report.
-/

namespace Tangle

namespace History

open Stencil Stencil.Statement

/-! ## Pages -/

/-- The element of one step. Comparisons are fragments of a page already. -/
def revisionElement (name : Text) (revision : Revision) : Text :=
  "\n<div class=\"diff\">\n<h3>".toList ++ Text.escaped name ++ ": v".toList ++
    Text.ofNat revision.fromVersion ++ " &rarr; v".toList ++ Text.ofNat revision.toVersion ++
    "</h3>\n".toList ++ revision.comparison ++ "\n</div>".toList

/-- The element of one history. -/
def element (history : History) : Text :=
  "\n<section class=\"block\">\n<h2>".toList ++ Text.escaped history.name ++ "</h2>".toList ++
    history.revisions.flatMap (revisionElement history.name) ++ "\n</section>".toList

/-- A report as a page. -/
def page (report : List History) : Text :=
  "<!DOCTYPE html>\n<html>\n<head>\n<meta charset=\"utf-8\">\n".toList ++
    "<title>Code block history</title>\n<link rel=\"stylesheet\" href=\"".toList ++
    Text.escaped stylesheetName ++ "\">\n</head>\n<body>".toList ++
    report.flatMap element ++ "\n</body>\n</html>\n".toList

/-! ## Reading -/

/-- The name of the current history in the template. -/
def sectionName : Text := "section".toList

/-- The name of the current step in the template. -/
def recordName : Text := "record".toList

/-- A part of the current history, or of the current step, as it stands in the template. -/
def shownPart (name part : Text) : Segment :=
  .expression (.name name :: Expression.pathTokens [part])

/-- The head of a loop that gives a name to the members of a value. -/
def loopHead (member name : Text) (path : List Text) : Segment :=
  .statement (.name "for".toList :: .name member :: .name "in".toList :: .name name ::
    Expression.pathTokens path)

/-- The end of a loop. -/
def loopEnd : Segment := .statement [.name "endfor".toList]

/-- The segments of the template for a step. -/
def revisionSegments : List Segment :=
  [.text "\n<div class=\"diff\">\n<h3>".toList, shownPart sectionName "name".toList,
    .text ": v".toList, shownPart recordName "from_version".toList,
    .text " &rarr; v".toList, shownPart recordName "to_version".toList,
    .text "</h3>\n".toList, shownPart recordName "fragment".toList, .text "\n</div>".toList]

/-- The segments of the template for a history. -/
def elementSegments : List Segment :=
  [.text "\n<section class=\"block\">\n<h2>".toList, shownPart sectionName "name".toList,
    .text "</h2>".toList, loopHead recordName sectionName ["records".toList]] ++
    revisionSegments ++ [loopEnd, .text "\n</section>".toList]

/-- The segments of the template. -/
def pageSegments : List Segment :=
  [.text ("<!DOCTYPE html>\n<html>\n<head>\n<meta charset=\"utf-8\">\n".toList ++
      "<title>Code block history</title>\n<link rel=\"stylesheet\" href=\"".toList),
    .expression [.name "stylesheet".toList], .text "\">\n</head>\n<body>".toList,
    loopHead sectionName "sections".toList []] ++
    elementSegments ++ [loopEnd, .text "\n</body>\n</html>\n".toList]

set_option maxRecDepth 20000 in
theorem scan_pageTemplate : Segment.scan pageTemplate = some pageSegments := by cbv

/-- A part of the current history, or of the current step. -/
def partOf (name part : Text) : Expression := Expression.part (.name name) [part]

/-- The statements of the template for a step. -/
def revisionStatements : List Statement :=
  [.text "\n<div class=\"diff\">\n<h3>".toList, .emit (partOf sectionName "name".toList),
    .text ": v".toList, .emit (partOf recordName "from_version".toList),
    .text " &rarr; v".toList, .emit (partOf recordName "to_version".toList),
    .text "</h3>\n".toList, .emit (partOf recordName "fragment".toList), .text "\n</div>".toList]

/-- The statements of the template for a history. -/
def elementStatements : List Statement :=
  [.text "\n<section class=\"block\">\n<h2>".toList, .emit (partOf sectionName "name".toList),
    .text "</h2>".toList,
    .loop [recordName] (partOf sectionName "records".toList) none revisionStatements [],
    .text "\n</section>".toList]

/-- The statements of the template. -/
def pageStatements : List Statement :=
  [.text ("<!DOCTYPE html>\n<html>\n<head>\n<meta charset=\"utf-8\">\n".toList ++
      "<title>Code block history</title>\n<link rel=\"stylesheet\" href=\"".toList),
    .emit (.name "stylesheet".toList), .text "\">\n</head>\n<body>".toList,
    .loop [sectionName] (.name "sections".toList) none elementStatements [],
    .text "\n</body>\n</html>\n".toList]

/-- The names that loops of the template give are ordinary ones. -/
theorem readWhole_shownPart {name : Text} (h : name = sectionName ∨ name = recordName)
    (part : Text) :
    Expression.readWhole (.name name :: Expression.pathTokens [part]) =
      some (partOf name part) := by
  rcases h with rfl | rfl
  · exact Expression.readWhole_path (by decide) [part] (by decide)
  · exact Expression.readWhole_path (by decide) [part] (by decide)

theorem readBlock_revisionSegments (fuel : Nat) (rest : List Segment) :
    readBlock (fuel + 10) loopEnds (revisionSegments ++ loopEnd :: rest) =
      some (revisionStatements, some ("endfor".toList, []), rest) := by
  have hend : loopEnds.contains "endfor".toList = true := by decide
  have hsection := readWhole_shownPart (.inl rfl)
  have hrecord := readWhole_shownPart (.inr rfl)
  exact readBlock_text _ <| readBlock_expression (hsection _) <| readBlock_text _ <|
    readBlock_expression (hrecord _) <| readBlock_text _ <| readBlock_expression (hrecord _) <|
    readBlock_text _ <| readBlock_expression (hrecord _) <| readBlock_text _ <|
    readBlock_stop hend []

theorem readBlock_elementSegments (fuel : Nat) (rest : List Segment) :
    readBlock (fuel + 15) loopEnds (elementSegments ++ loopEnd :: rest) =
      some (elementStatements, some ("endfor".toList, []), rest) := by
  have hend : loopEnds.contains "endfor".toList = true := by decide
  have hsection := readWhole_shownPart (.inl rfl)
  have hhead := Expression.readLoopHead_path (n := sectionName) (by decide) ["records".toList]
    (by decide) (show assignable? recordName = some recordName by decide)
  exact readBlock_text _ <| readBlock_expression (hsection _) <| readBlock_text _ <|
    readBlock_loop rfl hhead (readBlock_revisionSegments fuel _) <| readBlock_text _ <|
    readBlock_stop hend []

/-- **The template is read to its statements.** -/
theorem readTemplate_pageTemplate : readTemplate pageTemplate = some pageStatements := by
  have hstylesheet := Expression.readWhole_path (n := "stylesheet".toList) (by decide) []
    (by decide)
  have hhead := Expression.readLoopHead_path (n := "sections".toList) (by decide) [] (by decide)
    (show assignable? sectionName = some sectionName by decide)
  -- each segment takes one step, and the fuel is counted by the segments
  have hread : readBlock 44 [] pageSegments = some (pageStatements, none, []) :=
    readBlock_text _ <| readBlock_expression hstylesheet <| readBlock_text _ <|
      readBlock_loop rfl hhead (readBlock_elementSegments _ _) <| readBlock_text _ rfl
  have hlength : 2 * pageSegments.length + 2 = 44 := rfl
  rw [readTemplate, scan_pageTemplate, Option.bind_eq_bind, Option.bind_some, hlength, hread]
  rfl

/-! ## Rendering -/

section Rendering

variable {env : Environment}

theorem value_partOf {name : Text} {v : Value} (h : env.lookup name = v) (part : Text) :
    (partOf name part).value env = some (v.member (.ofText part)) := by
  have hname : (Expression.name name).value env = some v := by
    rw [Expression.value, h]
  exact Expression.value_part env hname [part]

variable (escapes : env.escapes = true)

include escapes

theorem written_ofText (t : Text) : env.written (.ofText t) = Text.escaped t := by
  rw [Environment.written, escapes]
  rfl

theorem written_markup (t : Text) : env.written (.text t true) = t := by
  rw [Environment.written, escapes]
  rfl

theorem written_ofNat (n : Nat) : env.written (.int n) = Text.ofNat n := by
  rw [Environment.written, escapes]
  rfl

theorem render_revisionStatements {history : History} {revision : Revision}
    (hsection : env.lookup sectionName = history.value)
    (hrecord : env.lookup recordName = revisionValue revision) :
    renderAll env revisionStatements = some (revisionElement history.name revision, env) := by
  have hname : (partOf sectionName "name".toList).value env = some (.ofText history.name) :=
    value_partOf hsection _
  have hfrom : (partOf recordName "from_version".toList).value env =
      some (.int revision.fromVersion) := value_partOf hrecord _
  have hto : (partOf recordName "to_version".toList).value env =
      some (.int revision.toVersion) := value_partOf hrecord _
  have hfragment : (partOf recordName "fragment".toList).value env =
      some (.text revision.comparison true) := value_partOf hrecord _
  have hall : renderAll env revisionStatements = some (_, env) :=
    renderAll_cons (render_text _) <| renderAll_cons (render_emit hname) <|
    renderAll_cons (render_text _) <| renderAll_cons (render_emit hfrom) <|
    renderAll_cons (render_text _) <| renderAll_cons (render_emit hto) <|
    renderAll_cons (render_text _) <| renderAll_cons (render_emit hfragment) <|
    renderAll_cons (render_text _) renderAll_nil
  unfold revisionElement
  simp only [hall, written_ofText escapes, written_ofNat escapes, written_markup escapes,
    List.append_assoc, List.append_nil]

theorem render_elementStatements {history : History}
    (hsection : env.lookup sectionName = history.value) :
    renderAll env elementStatements = some (element history, env) := by
  have hname : (partOf sectionName "name".toList).value env = some (.ofText history.name) :=
    value_partOf hsection _
  have hrecords : (partOf sectionName "records".toList).value env =
      some (.list (history.revisions.map revisionValue)) := value_partOf hsection _
  -- inside the loop for the steps the current history is still there
  have hrevisions := render_loop (revisionElement history.name) recordName hrecords
    fun revision _ inner hinner hrecord =>
      render_revisionStatements (hinner.escapes.trans escapes)
        ((hinner.lookup sectionName (by decide) (by decide)).trans hsection) hrecord
  have hall : renderAll env elementStatements = some (_, env) :=
    renderAll_cons (render_text _) <| renderAll_cons (render_emit hname) <|
    renderAll_cons (render_text _) <| renderAll_cons hrevisions <|
    renderAll_cons (render_text _) renderAll_nil
  unfold element
  simp only [hall, written_ofText escapes, List.append_assoc, List.append_nil]

end Rendering

/-- What the template of a page sees of a report. -/
def pageEnvironment (report : List History) : Environment where
  context := [
    ("sections".toList, .list (report.map value)), ("stylesheet".toList, .ofText stylesheetName)]
  frames := [[]]
  escapes := true

theorem renderAll_pageStatements (report : List History) :
    renderAll (pageEnvironment report) pageStatements =
      some (page report, pageEnvironment report) := by
  have hstylesheet : (Expression.name "stylesheet".toList).value (pageEnvironment report) =
      some (.ofText stylesheetName) := by
    rw [Expression.value]
    rfl
  have hsections : (Expression.name "sections".toList).value (pageEnvironment report) =
      some (.list (report.map value)) := by
    rw [Expression.value]
    rfl
  have helements := render_loop element sectionName hsections fun history _ inner hinner hsection =>
    render_elementStatements hinner.escapes hsection
  have hall : renderAll (pageEnvironment report) pageStatements = some (_, pageEnvironment report) :=
    renderAll_cons (render_text _) <| renderAll_cons (render_emit hstylesheet) <|
    renderAll_cons (render_text _) <| renderAll_cons helements <|
    renderAll_cons (render_text _) renderAll_nil
  have hescapes : (pageEnvironment report).escapes = true := rfl
  unfold page
  simp only [hall, written_ofText hescapes, List.append_assoc, List.append_nil]

/-- **The template of a page is rendered without fail**, and gives the page of the report. -/
theorem page?_eq (report : List History) : page? report = some (page report) := by
  rw [page?, renderIn, readTemplate_pageTemplate, Option.bind_eq_bind, Option.bind_some]
  show (renderAll (pageEnvironment report) pageStatements).bind _ = _
  rw [renderAll_pageStatements]
  rfl

end History

end Tangle
