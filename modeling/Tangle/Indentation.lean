import Tangle.Text

/-!
# Common indentation

Removing from a list of lines the indentation that all its non-blank lines share. Blank lines lose
at most that much and keep what ends them.
-/

namespace Tangle

/-- The number of blank characters that a line begins with, its terminator not counted. -/
def indentWidth (line : Text) : Nat := (line.withoutTerminator.takeWhile isSpace).length

/-- The least indentation of the non-blank lines, zero when all are blank. -/
def commonIndent (lines : List Text) : Nat :=
  (((lines.filter fun line => !line.isBlank).map indentWidth).min?).getD 0

/-- Removes from each line the common indentation, or all of its own when that is less. -/
def dedent (lines : List Text) : List Text :=
  let width := commonIndent lines
  lines.map fun line => line.drop (min (indentWidth line) width)

end Tangle
