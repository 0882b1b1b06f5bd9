import Tangle.Unicode.CharacterClass

/-!
# Text

Text is the list of its characters. This module holds the cuts that the readers share: lines,
margins, prefixes and suffixes, splitting at a character, and decimal numbers.
-/

namespace Tangle

/-- A text is the list of its characters. -/
abbrev Text := List Char

namespace Text

/-! ## Lines -/

/-- The lines of a text, each with the line feed that ends it. The last one may have none. -/
def lines : Text → List Text
  | [] => []
  | c :: rest =>
    if c = '\n' then [c] :: lines rest
    else
      match lines rest with
      | [] => [[c]]
      | line :: more => (c :: line) :: more

/-- Line feeds and carriage returns, which can end a line. -/
def isTerminator (c : Char) : Bool := c = '\n' || c = '\r'

/-! ## Margins -/

/-- Drops the longest end of a text whose characters all satisfy `p`. -/
def dropEndWhile (text : Text) (p : Char → Bool) : Text := (text.reverse.dropWhile p).reverse

/-- A line without the line feeds and carriage returns at its end. -/
def withoutTerminator (line : Text) : Text := dropEndWhile line isTerminator

/-- A text without the blanks at both ends. -/
def trim (text : Text) : Text := dropEndWhile (text.dropWhile isSpace) isSpace

/-- Whether a text has blanks only. -/
def isBlank (text : Text) : Bool := text.all isSpace

/-! ## Beginnings and ends -/

/-- What follows `start` in a text that begins with it. -/
def afterStart? : Text → Text → Option Text
  | text, [] => some text
  | [], _ :: _ => none
  | c :: text, s :: start => if c = s then afterStart? text start else none

/-- What precedes `ending` in a text that ends with it. -/
def beforeEnd? (text ending : Text) : Option Text :=
  (afterStart? text.reverse ending.reverse).map List.reverse

/-- Whether a text begins with `start`. -/
def startsWith (text start : Text) : Bool := (afterStart? text start).isSome

/-- Whether a text ends with `ending`. -/
def endsWith (text ending : Text) : Bool := (beforeEnd? text ending).isSome

/-- The parts of a text around the first occurrence of `c`. -/
def splitFirst? (text : Text) (c : Char) : Option (Text × Text) :=
  match text.dropWhile (· ≠ c) with
  | [] => none
  | _ :: after => some (text.takeWhile (· ≠ c), after)

/-- The parts of a text around the last occurrence of `c`. -/
def splitLast? (text : Text) (c : Char) : Option (Text × Text) :=
  (splitFirst? text.reverse c).map fun parts => (parts.2.reverse, parts.1.reverse)

/-- The parts of a text between the occurrences of `c`; there is always at least one. -/
def splitOn (c : Char) : Text → List Text
  | [] => [[]]
  | d :: rest =>
    if d = c then [] :: splitOn c rest
    else
      match splitOn c rest with
      | [] => [[d]]
      | part :: more => (d :: part) :: more

/-- Texts with `separator` between neighbours. -/
def joinWith (separator : Text) : List Text → Text
  | [] => []
  | [text] => text
  | text :: more => text ++ separator ++ joinWith separator more

/-- Whether `part` occurs in a text. -/
def includes : Text → Text → Bool
  | [], part => part.isEmpty
  | c :: rest, part => startsWith (c :: rest) part || includes rest part

/-! ## Numbers -/

/-- The decimal digits of a number. -/
def ofNat (n : Nat) : Text := (toString n).toList

/-- The number written by a list of decimal digits. -/
def digitsValue (digits : Text) : Nat :=
  digits.foldl (fun value d => value * 10 + (d.toNat - '0'.toNat)) 0

/-- The number written by a list of hexadecimal digits. -/
def hexValue (digits : Text) : Nat :=
  digits.foldl (fun value d => value * 16 + (Unicode.hexDigit? d).getD 0) 0

/-- The number that a text writes in decimal: an optional plus sign and one or more digits. -/
def toNat? (text : Text) : Option Nat :=
  let digits := (afterStart? text ['+']).getD text
  if digits.isEmpty || !digits.all isDigit then none else some (digitsValue digits)

/-- The digits of a number in base sixteen, in lower case. -/
def hexOfNat (n : Nat) : Text := Nat.toDigits 16 n

/-- The character whose code point hexadecimal digits write. -/
def charOfHex? (digits : Text) : Option Char :=
  if digits.all isHexDigit then charOfNat? (hexValue digits) else none

/-! ## Order -/

/-- Texts in the order of their characters. -/
def precedes : Text → Text → Bool
  | [], _ => true
  | _ :: _, [] => false
  | a :: s, b :: t => if a = b then precedes s t else a < b

end Text

end Tangle
