import Tangle.Text

/-!
# Quoted text

The form in which messages show a text exactly: between double quotes, with a backslash before
quotes and backslashes, and with every character that cannot be shown as it is written as its code
point.
-/

namespace Tangle.Text

/-- The code point of a character as an escape. -/
def codePointEscape (c : Char) : Text :=
  ['\\', 'u', '{'] ++ hexOfNat c.toNat ++ ['}']

/-- A character as it stands in a quoted text. -/
def quotedChar (c : Char) : Text :=
  if c = '\x00' then ['\\', '0']
  else if c = '\t' then ['\\', 't']
  else if c = '\r' then ['\\', 'r']
  else if c = '\n' then ['\\', 'n']
  else if c = '\\' then ['\\', '\\']
  else if c = '"' then ['\\', '"']
  else if isCombining c || !isPrintable c then codePointEscape c
  else [c]

/-- A text in double quotes. -/
def quoted (text : Text) : Text := '"' :: text.flatMap quotedChar ++ ['"']

/-- A text that may be absent: `None`, or `Some` with the quoted text in parentheses. -/
def quotedOption : Option Text → Text
  | none => "None".toList
  | some text => "Some(".toList ++ quoted text ++ [')']

end Tangle.Text
