import Tangle.Declaration
import Tangle.Diagnostic
import Tangle.Indentation

/-!
# Extraction

Reading the code blocks of a document. A complete declaration takes the blank and indented lines
directly after it; the lines that a filter excludes are left out before the common indentation is
removed. Every declaration with a name, a template or a version leaves one trace: a fragment, or a
diagnostic that says why there is none. A problem is reported where it is found, and stands in the
result as well; what is done with a report is left open.
-/

namespace Tangle

/-- What reading a document yields, in document order. -/
inductive Finding where
  | fragment (f : Fragment)
  | problem (d : Diagnostic)
  deriving Repr, DecidableEq

namespace Finding

/-- The fragment of a finding. -/
def fragment? : Finding → Option Fragment
  | .fragment f => some f
  | .problem _ => none

/-- The diagnostic of a finding. -/
def diagnostic? : Finding → Option Diagnostic
  | .fragment _ => none
  | .problem d => some d

end Finding

/-- What extracting code blocks gives: the fragments together with every diagnostic that reading
them gave. -/
structure Extraction where
  fragments : List Fragment
  diagnostics : List Diagnostic
  deriving Repr, DecidableEq

/-- A line that belongs to the body of a declaration above it: it is empty or begins with a blank
character. -/
def isBodyLine (line : Text) : Bool := line.head?.all isSpace

theorem length_dropWhile_isBodyLine (lines : List Text) :
    (lines.dropWhile isBodyLine).length ≤ lines.length := by
  induction lines with
  | nil => simp
  | cons line rest ih =>
    rw [List.dropWhile_cons]
    split
    · exact Nat.le_succ_of_le ih
    · exact Nat.le_refl _

/-! ## Reading and reporting -/

namespace Reporting

variable {m : Type → Type} [Monad m] (report : Diagnostic → m Unit)

/-- Reports a problem and yields it. -/
def problem (d : Diagnostic) : m Finding := do
  report d
  pure (.problem d)

/-- What a complete declaration with the given body yields: a code block, or the report of an empty
one. The version is read only when a line of the body is left. -/
def readBody (excluded : Text → Bool) (file : Text) (line : Nat) (name template version : Text)
    (body : List Text) : m (List Finding) := do
  let kept := body.filter fun l => !excluded l
  if kept.isEmpty then
    let empty ← problem report { problem := .emptyBlock, file := some file, line := some line }
    pure [empty]
  else
    let fragment (number : Nat) : Finding :=
      .fragment { lines := dedent kept, name, template, version := number, line, file }
    match readVersion? version with
    | some number => pure [fragment number]
    | none =>
      let coerced ← problem report {
        problem := .nonNumericVersion version
        file := some file
        line := some line }
      pure [coerced, fragment 0]

/-- Reads the lines of a document, the first of which has the number `line`. -/
def readLines (excluded : Text → Bool) (file : Text) (line : Nat) : List Text → m (List Finding)
  | [] => pure []
  | first :: rest =>
    match Declaration.parse first with
    | none => readLines excluded file (line + 1) rest
    | some declaration =>
      match declaration.name, declaration.template, declaration.version with
      | none, none, none => readLines excluded file (line + 1) rest
      | some name, some template, some version => do
        let body := rest.takeWhile isBodyLine
        let own ← readBody report excluded file line name template version body
        let more ← readLines excluded file (line + 1 + body.length) (rest.dropWhile isBodyLine)
        pure (own ++ more)
      | name, template, version => do
        let incomplete ← problem report {
          problem := .incompleteDeclaration name template version
          file := some file
          line := some line }
        let more ← readLines excluded file (line + 1) rest
        pure (incomplete :: more)
  termination_by lines => lines.length
  decreasing_by
    all_goals
      have := length_dropWhile_isBodyLine rest
      simp only [List.length_cons]
      omega

/-- Extracts the code blocks of a document, and its diagnostics. -/
def extract (excluded : Text → Bool) (file content : Text) : m Extraction := do
  let found ← readLines report excluded file 1 content.lines
  pure {
    fragments := found.filterMap Finding.fragment?
    diagnostics := found.filterMap Finding.diagnostic? }

/-- Goes through fragments with those accepted so far, in order: a fragment whose key is taken is
reported, any other one is accepted. -/
def pruneAfter (accepted : List Fragment) : List Fragment → m Extraction
  | [] => pure ⟨accepted, []⟩
  | f :: rest =>
    match accepted.find? fun g => g.key = f.key with
    | some existing => do
      let duplicate : Diagnostic := {
        problem := .duplicateBlock existing f
        file := some f.file
        line := some f.line }
      report duplicate
      let pruned ← pruneAfter accepted rest
      pure { pruned with diagnostics := duplicate :: pruned.diagnostics }
    | none => pruneAfter (accepted ++ [f]) rest

/-- Prunes duplicate code blocks: keeps the first fragment of each name, template and version and
reports the others. -/
def prune (fragments : List Fragment) : m Extraction := pruneAfter report [] fragments

end Reporting

/-! ## Results

What reading yields does not depend on what is done with the reports, so it can be told of without
them. -/

/-- Makes nothing of a report. -/
def unreported (_ : Diagnostic) : Id Unit := pure ()

/-- What a complete declaration with the given body yields. -/
def readBody (excluded : Text → Bool) (file : Text) (line : Nat) (name template version : Text)
    (body : List Text) : List Finding :=
  (Reporting.readBody unreported excluded file line name template version body).run

/-- What the lines of a document yield, the first of which has the number `line`. -/
def readLines (excluded : Text → Bool) (file : Text) (line : Nat) (lines : List Text) :
    List Finding :=
  (Reporting.readLines unreported excluded file line lines).run

/-- What a document yields. -/
def findings (excluded : Text → Bool) (file content : Text) : List Finding :=
  readLines excluded file 1 content.lines

/-- The fragments and diagnostics of a document. -/
def extract (excluded : Text → Bool) (file content : Text) : Extraction where
  fragments := (findings excluded file content).filterMap Finding.fragment?
  diagnostics := (findings excluded file content).filterMap Finding.diagnostic?

/-- What becomes of fragments behind those accepted so far. -/
def pruneAfter (accepted fragments : List Fragment) : Extraction :=
  (Reporting.pruneAfter unreported accepted fragments).run

/-- The first fragment of each name, template and version, and the reports on the others. -/
def prune (fragments : List Fragment) : Extraction := pruneAfter [] fragments

end Tangle
