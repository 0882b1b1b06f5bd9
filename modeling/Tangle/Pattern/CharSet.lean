import Tangle.Unicode.Case
import Tangle.Unicode.CharacterClass

/-!
# Character sets of patterns

A set of characters is an expression over intervals and tables. It is never spread out: membership
is decided by evaluating the expression.
-/

namespace Tangle.Pattern

/-- A set of characters. -/
inductive CharSet where
  /-- The characters from `first` to `last`, both included. -/
  | interval (first last : Char)
  | table (points : Unicode.CodePointSet)
  /-- The characters that `isSpace` accepts. -/
  | space
  | complement (s : CharSet)
  | union (s t : CharSet)
  | inter (s t : CharSet)
  /-- The members of exactly one of two sets. -/
  | exclusive (s t : CharSet)
  /-- The members of a set and all that differ from one in case only. -/
  | caseless (s : CharSet)
  /-- The same for the letters of ASCII alone. -/
  | caselessAscii (s : CharSet)

namespace CharSet

/-- An ASCII letter in the other case, and any other character as it is. -/
def otherCase (c : Char) : Char :=
  if 'a' ≤ c ∧ c ≤ 'z' then Char.ofNat (c.toNat - 32)
  else if 'A' ≤ c ∧ c ≤ 'Z' then Char.ofNat (c.toNat + 32)
  else c

/-- Membership. -/
def has : CharSet → Char → Bool
  | interval first last, c => first ≤ c && c ≤ last
  | table points, c => points.has c
  | space, c => isSpace c
  | complement s, c => !s.has c
  | union s t, c => s.has c || t.has c
  | inter s t, c => s.has c && t.has c
  | exclusive s t, c => s.has c != t.has c
  | caseless s, c => (Unicode.caseVariants c).any s.has
  | caselessAscii s, c => s.has c || s.has (otherCase c)

/-- The set of one character. -/
def single (c : Char) : CharSet := interval c c

/-- The set without members. -/
def nothing : CharSet := interval '\x01' '\x00'

/-- The set of all characters. -/
def anything : CharSet := complement nothing

/-- The union of several sets. -/
def unionOf : List CharSet → CharSet
  | [] => nothing
  | [s] => s
  | s :: more => union s (unionOf more)

/-- The members of `s` that are not in `t`. -/
def difference (s t : CharSet) : CharSet := inter s (complement t)

/-- The decimal digits of all scripts. -/
def digit : CharSet := table Unicode.Category.decimalNumber

/-- The characters of words: letters, marks, digits, connectors and the two join controls. -/
def word : CharSet :=
  unionOf [interval 'a' 'z', interval 'A' 'Z', interval '0' '9', single '_',
    table Unicode.Property.alphabetic, table Unicode.Category.nonspacingMark,
    table Unicode.Category.spacingMark, table Unicode.Category.enclosingMark,
    table Unicode.Category.decimalNumber, table Unicode.Category.connectorPunctuation,
    interval '\u200C' '\u200D']

/-- The characters of words within ASCII. -/
def asciiWord : CharSet :=
  unionOf [interval 'a' 'z', interval 'A' 'Z', interval '0' '9', single '_']

/-- The named classes of ASCII characters. -/
def asciiClass? (name : String) : Option CharSet :=
  match name with
  | "alnum" => some (unionOf [interval '0' '9', interval 'A' 'Z', interval 'a' 'z'])
  | "alpha" => some (unionOf [interval 'A' 'Z', interval 'a' 'z'])
  | "ascii" => some (interval '\x00' '\x7F')
  | "blank" => some (unionOf [single '\t', single ' '])
  | "cntrl" => some (unionOf [interval '\x00' '\x1F', single '\x7F'])
  | "digit" => some (interval '0' '9')
  | "graph" => some (interval '!' '~')
  | "lower" => some (interval 'a' 'z')
  | "print" => some (interval ' ' '~')
  | "punct" =>
    some (unionOf [interval '!' '/', interval ':' '@', interval '[' '\x60', interval '{' '~'])
  | "space" => some (unionOf [interval '\t' '\r', single ' '])
  | "upper" => some (interval 'A' 'Z')
  | "word" => some asciiWord
  | "xdigit" => some (unionOf [interval '0' '9', interval 'A' 'F', interval 'a' 'f'])
  | _ => none

/-- An estimate, in octets, of what a compiled matcher needs for a set. -/
def weight : CharSet → Nat
  | interval first last =>
    if last.toNat < 0x80 then 8 else if first = last then 96 else 120
  | table points => 60 * points.intervals.size
  | space => 480
  | complement s => s.weight + 480
  | union s t => s.weight + t.weight
  | inter s t => s.weight + t.weight
  | exclusive s t => s.weight + t.weight
  | caseless s => 2 * s.weight
  | caselessAscii s => 2 * s.weight

end CharSet

end Tangle.Pattern
