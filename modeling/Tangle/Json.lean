import Tangle.Text

/-!
# JSON

Values of JSON and their text, on one line or spread over indented lines. The order of fields is
kept.
-/

namespace Tangle

/-- A value of JSON. -/
inductive Json where
  | null
  | bool (value : Bool)
  | number (value : Nat)
  | string (value : Text)
  | array (items : List Json)
  | object (fields : List (Text × Json))

namespace Json

/-- A hexadecimal number with four digits. -/
def fourDigits (n : Nat) : Text :=
  let digits := Text.hexOfNat n
  List.replicate (4 - digits.length) '0' ++ digits

/-- A character as it stands in a string. -/
def stringChar (c : Char) : Text :=
  if c = '"' then ['\\', '"']
  else if c = '\\' then ['\\', '\\']
  else if c = '\n' then ['\\', 'n']
  else if c = '\r' then ['\\', 'r']
  else if c = '\t' then ['\\', 't']
  else if c = '\x08' then ['\\', 'b']
  else if c = '\x0C' then ['\\', 'f']
  else if c.toNat < 0x20 then ['\\', 'u'] ++ fourDigits c.toNat
  else [c]

/-- A text as a string. -/
def stringText (text : Text) : Text := '"' :: text.flatMap stringChar ++ ['"']

/-- The two truth values. -/
def boolText (b : Bool) : Text := if b then "true".toList else "false".toList

mutual

/-- A value on one line, without blanks. -/
def compact : Json → Text
  | null => "null".toList
  | bool b => boolText b
  | number n => Text.ofNat n
  | string s => stringText s
  | array items => '[' :: Text.joinWith [','] (compactItems items) ++ [']']
  | object fields => '{' :: Text.joinWith [','] (compactFields fields) ++ ['}']

/-- Members on one line. -/
def compactItems : List Json → List Text
  | [] => []
  | item :: more => item.compact :: compactItems more

/-- Fields on one line. -/
def compactFields : List (Text × Json) → List Text
  | [] => []
  | (name, value) :: more => (stringText name ++ ':' :: value.compact) :: compactFields more

end

/-- A line feed and the indentation of a depth. -/
def newLine (depth : Nat) : Text := '\n' :: List.replicate (2 * depth) ' '

mutual

/-- A value spread over lines, each depth indented by two blanks. -/
def pretty (depth : Nat) : Json → Text
  | null => "null".toList
  | bool b => boolText b
  | number n => Text.ofNat n
  | string s => stringText s
  | array items =>
    if items.isEmpty then ['[', ']']
    else
      '[' :: Text.joinWith [','] (prettyItems (depth + 1) items) ++ newLine depth ++ [']']
  | object fields =>
    if fields.isEmpty then ['{', '}']
    else
      '{' :: Text.joinWith [','] (prettyFields (depth + 1) fields) ++ newLine depth ++ ['}']

/-- Members, each on lines of its own. -/
def prettyItems (depth : Nat) : List Json → List Text
  | [] => []
  | item :: more => (newLine depth ++ item.pretty depth) :: prettyItems depth more

/-- Fields, each on lines of its own. -/
def prettyFields (depth : Nat) : List (Text × Json) → List Text
  | [] => []
  | (name, value) :: more =>
    (newLine depth ++ stringText name ++ ':' :: ' ' :: value.pretty depth) ::
      prettyFields depth more

end

end Json

end Tangle
