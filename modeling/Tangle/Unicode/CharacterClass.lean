import Tangle.Unicode.Category
import Tangle.Unicode.Property

/-!
# Character classes

The classes that reading and quoting text ask about: blanks, letters and digits, characters that
are shown as they are. ASCII characters are decided without a table.
-/

namespace Tangle

/-- The characters with the Unicode property White_Space. -/
def isSpace (c : Char) : Bool :=
  let n := c.toNat
  n = 0x20 || (0x09 ≤ n && n ≤ 0x0D) || n = 0x85 || n = 0xA0 || n = 0x1680 ||
    (0x2000 ≤ n && n ≤ 0x200A) || n = 0x2028 || n = 0x2029 || n = 0x202F || n = 0x205F ||
    n = 0x3000

/-- Spaces and tabs. -/
def isSpaceOrTab (c : Char) : Bool := c = ' ' || c = '\t'

/-- The decimal digits `0` to `9`. -/
def isDigit (c : Char) : Bool := '0' ≤ c && c ≤ '9'

/-- The letters `A` to `Z` and `a` to `z`. -/
def isLatinLetter (c : Char) : Bool := ('A' ≤ c && c ≤ 'Z') || ('a' ≤ c && c ≤ 'z')

/-- ASCII letters, digits and the underscore. -/
def isWordCharacter (c : Char) : Bool := isLatinLetter c || isDigit c || c = '_'

/-- The hexadecimal digits, in either case. -/
def isHexDigit (c : Char) : Bool := (Unicode.hexDigit? c).isSome

/-- The character with a code point; surrogates and numbers beyond the last one have none. -/
def charOfNat? (n : Nat) : Option Char := if n.isValidChar then some (Char.ofNat n) else none

/-- Characters that are Alphabetic or of a number category. -/
def isAlphanumeric (c : Char) : Bool :=
  if c.toNat < 0x80 then isLatinLetter c || isDigit c
  else Unicode.Property.alphabetic.has c || Unicode.Category.decimalNumber.has c ||
    Unicode.Category.letterNumber.has c || Unicode.Category.otherNumber.has c

/-- Characters that join the character before them. -/
def isCombining (c : Char) : Bool :=
  if c.toNat < 0x80 then false else Unicode.Property.graphemeExtend.has c

/-- Characters that can be shown as they are: no control, format, private-use or unassigned
character and no separator but the blank. -/
def isPrintable (c : Char) : Bool :=
  if c.toNat < 0x80 then 0x20 ≤ c.toNat && c.toNat < 0x7F
  else !(Unicode.Category.control.has c || Unicode.Category.format.has c ||
    Unicode.Category.privateUse.has c || Unicode.Category.unassigned.has c ||
    Unicode.Category.spaceSeparator.has c || Unicode.Category.lineSeparator.has c ||
    Unicode.Category.paragraphSeparator.has c)

/-- ASCII punctuation: the printable ASCII characters that are no letter, digit or blank. -/
def isAsciiPunctuation (c : Char) : Bool :=
  0x21 ≤ c.toNat && c.toNat ≤ 0x7E && !(isLatinLetter c || isDigit c)

end Tangle
