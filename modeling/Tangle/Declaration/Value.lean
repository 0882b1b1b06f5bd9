import Tangle.Declaration.Token

/-!
# Values of attributes

A value is a bare word, a text between single quotes that stands for itself, or a text between
double quotes with backslash escapes. A double-quoted text with a faulty escape stands for itself.
-/

namespace Tangle.Declaration

/-- The character that a backslash and the character `c` stand for. -/
def escaped? : Char → Option Char
  | 'a' => some '\x07'
  | 'b' => some '\x08'
  | 'v' => some '\x0B'
  | 'f' => some '\x0C'
  | 'n' => some '\n'
  | 'r' => some '\r'
  | 't' => some '\t'
  | 'e' | 'E' => some '\x1B'
  | '\\' => some '\\'
  | '\'' => some '\''
  | '"' => some '"'
  | '$' => some '$'
  | '\x60' => some '\x60'
  | ' ' => some ' '
  | _ => none

/-- The character whose code point is written in hexadecimal, a leading plus sign allowed. -/
def escapedPoint? (digits : Text) : Option Char :=
  let digits := (digits.afterStart? ['+']).getD digits
  if digits.isEmpty then none else digits.charOfHex?

theorem length_dropWhile_tail (p : Char → Bool) (text : Text) :
    ((text.dropWhile p).tail).length ≤ text.length := by
  have := Token.length_dropWhile_le p text
  simp only [List.length_tail]
  omega

/-- Replaces the escapes of a double-quoted text, or fails at the first one that has no meaning. -/
def unescape? : Text → Option Text
  | [] => some []
  | '\\' :: 'u' :: '{' :: rest =>
    if rest.contains '}' then do
      let c ← escapedPoint? (rest.takeWhile (· ≠ '}'))
      let text ← unescape? (rest.dropWhile (· ≠ '}')).tail
      pure (c :: text)
    else none
  | '\\' :: c :: rest => do
    let c ← escaped? c
    let text ← unescape? rest
    pure (c :: text)
  | ['\\'] => none
  | c :: rest => (unescape? rest).map (c :: ·)
  termination_by text => text.length
  decreasing_by
    · have := length_dropWhile_tail (· ≠ '}') rest
      simp only [List.length_cons]
      omega
    all_goals simp only [List.length_cons]; omega

/-- The value that a token gives to an attribute. -/
def Token.value? : Token → Option Text
  | .word text => some text
  | .singleQuoted inside => some inside
  | .doubleQuoted inside => some ((unescape? inside).getD inside)
  | .equals | .unknown => none

end Tangle.Declaration
