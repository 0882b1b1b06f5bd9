import Tangle.Text

/-!
# Text in HTML

Writing text so that it stands for itself in a page: the characters that could begin or end markup
are replaced by character references.
-/

namespace Tangle.Text

/-- A character as it stands in a page. -/
def escapedChar : Char → Text
  | '<' => "&lt;".toList
  | '>' => "&gt;".toList
  | '&' => "&amp;".toList
  | '"' => "&quot;".toList
  | '\'' => "&#x27;".toList
  | '/' => "&#x2f;".toList
  | c => [c]

/-- A text as it stands in a page. -/
def escaped (text : Text) : Text := text.flatMap escapedChar

end Tangle.Text
