import Tangle.Fragment
import Tangle.Text.Quoted

/-!
# Diagnostics

A diagnostic reports a problem that a run survives: the unit with the fault is passed over and the
run goes on.
-/

namespace Tangle

/-- How serious a problem is. -/
inductive Severity where
  | warning
  | error
  deriving Repr, DecidableEq

/-- The kind of a diagnostic: what is wrong. -/
inductive Problem where
  /-- A declaration has some but not all of name, template and version. -/
  | incompleteDeclaration (name template version : Option Text)
  /-- No line is left under a declaration. -/
  | emptyBlock
  /-- A version is no number and was read as zero. -/
  | nonNumericVersion (value : Text)
  /-- A fragment has the name, template and version of an earlier one. -/
  | duplicateBlock (existing skipped : Fragment)
  /-- The documents hold no fragment. -/
  | noBlocks
  /-- Several template files fit an identifier. -/
  | ambiguousTemplate (template : Text) (candidates : List Text)
  /-- No template file fits an identifier. -/
  | missingTemplate (template searched : Text)
  deriving Repr, DecidableEq

namespace Problem

/-- A missing template is an error, all else a warning. -/
def severity : Problem → Severity
  | .missingTemplate .. => .error
  | _ => .warning

/-- A text between backquotes. -/
def backquoted (text : Text) : Text := '\x60' :: text ++ ['\x60']

/-- Candidates with their number in parentheses. -/
def listed (candidates : List Text) : Text :=
  Text.joinWith [' '] <| candidates.mapIdx fun i name =>
    '(' :: Text.ofNat (i + 1) ++ [')', ' '] ++ name

/-- The wording of a problem. -/
def message : Problem → Text
  | .incompleteDeclaration name template version =>
    let found := [name, template, version].map fun v => backquoted (Text.quotedOption v)
    "found an incomplete literate codeblock declaration; got ".toList ++
      Text.joinWith [',', ' '] found ++ " for `name`, `template`, `ver`".toList
  | .emptyBlock => "found a literate codeblock declared but nothing inside".toList
  | .nonNumericVersion value =>
    "version ".toList ++ backquoted value ++ " is not a non-negative integer, using 0".toList
  | .duplicateBlock existing skipped =>
    "found a duplicate block declaration, skipping; existing: ".toList ++ existing.describe ++
      ", skipping: ".toList ++ skipped.describe
  | .noBlocks => "no blocks found in documents".toList
  | .ambiguousTemplate template candidates =>
    "found more than one possible template for ".toList ++ backquoted template ++ [':', ' '] ++
      listed candidates ++
      "; continuing with (1), rename conflicting templates or use the full ".toList ++
      "template filename in the declaration".toList
  | .missingTemplate template searched =>
    "could not find template matching ".toList ++ backquoted template ++ " in ".toList ++
      backquoted searched

end Problem

/-- A diagnostic: a problem with the place where it was found. -/
structure Diagnostic where
  problem : Problem
  /-- The document with the problem, if there is one. -/
  file : Option Text := none
  /-- The number of the declaring line, if there is one. -/
  line : Option Nat := none
  /-- The version that was being rendered, if there was one. -/
  version : Option Nat := none
  deriving Repr, DecidableEq

namespace Diagnostic

/-- How serious the problem is. -/
def severity (d : Diagnostic) : Severity := d.problem.severity

/-- The same diagnostic, found while a version was rendered. -/
def during (version : Nat) (d : Diagnostic) : Diagnostic := { d with version := some version }

/-- The text of a diagnostic: where, at which version, and what. -/
def text (d : Diagnostic) : Text :=
  let place :=
    match d.file, d.line with
    | some file, some line => '[' :: file ++ [':'] ++ Text.ofNat line ++ [']', ' ']
    | none, some line => "[line ".toList ++ Text.ofNat line ++ [']', ' ']
    | _, none => []
  let version :=
    match d.version with
    | some version => "(version ".toList ++ Text.ofNat version ++ [')', ' ']
    | none => []
  place ++ version ++ d.problem.message

end Diagnostic

end Tangle
