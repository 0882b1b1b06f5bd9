import Tangle.Edit.Compaction
import Tangle.Edit.Script
import Tangle.Text.Html

/-!
# Line differences

The difference of two texts, line by line, as a fragment of a page: dropped, added and kept lines,
each in an element of its own.
-/

namespace Tangle.LineDiff

/-- The lines of a text, each with what ends it: a line feed, a carriage return, or the two. -/
def lines : Text → List Text
  | [] => []
  | '\r' :: '\n' :: rest => ['\r', '\n'] :: lines rest
  | c :: rest =>
    if c = '\n' || c = '\r' then [c] :: lines rest
    else
      match lines rest with
      | [] => [[c]]
      | line :: more => (c :: line) :: more

/-- How the lines of `before` become those of `after`. -/
def changes (before after : Text) : List (Edit.Change Text) :=
  Edit.changes (Edit.compact (Edit.script (lines before) (lines after)))

/-- An element for one line. -/
def element (kind : Text) (sign : Char) (line : Text) : Text :=
  "<span class=\"".toList ++ kind ++ ['"', '>', sign, ' '] ++
    Text.escaped line.withoutTerminator ++ "</span>".toList

/-- The element of a dropped, added or kept line. -/
def changeElement : Edit.Change Text → Text
  | .drop line => element "del".toList '-' line
  | .add line => element "ins".toList '+' line
  | .keep line => element "eq".toList ' ' line

/-- The line diff of two texts as a fragment of a page. -/
def render (before after : Text) : Text :=
  "<pre class=\"diff\">".toList ++ (changes before after).flatMap changeElement ++
    "</pre>".toList

end Tangle.LineDiff
