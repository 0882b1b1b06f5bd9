/-!
# Sets of code points

A set of code points is kept as its intervals in ascending order. Tables are written as text, each
interval in hexadecimal, and membership is decided by halving the table.
-/

namespace Tangle.Unicode

/-- The value of a hexadecimal digit, in either case. -/
def hexDigit? (c : Char) : Option Nat :=
  if '0' ≤ c ∧ c ≤ '9' then some (c.toNat - '0'.toNat)
  else if 'A' ≤ c ∧ c ≤ 'F' then some (c.toNat - 'A'.toNat + 10)
  else if 'a' ≤ c ∧ c ≤ 'f' then some (c.toNat - 'a'.toNat + 10)
  else none

/-- The number that a word writes in hexadecimal. -/
def hexNumber (word : List Char) : Nat :=
  word.foldl (fun value c => value * 16 + (hexDigit? c).getD 0) 0

/-- The words of a table: what stands between blanks and line feeds. `word` holds the characters of
the current one in reverse. -/
def wordsAfter (word : List Char) : List Char → List (List Char)
  | [] => if word.isEmpty then [] else [word.reverse]
  | c :: rest =>
    if c = ' ' || c = '\n' then
      if word.isEmpty then wordsAfter [] rest else word.reverse :: wordsAfter [] rest
    else wordsAfter (c :: word) rest

/-- The words of a table. -/
def words (table : List Char) : List (List Char) := wordsAfter [] table

/-- A set of code points as its intervals, both ends included, in ascending order. -/
structure CodePointSet where
  intervals : Array (Nat × Nat)
  deriving Inhabited

namespace CodePointSet

/-- Whether the code point `n` lies in one of the intervals from index `lo` up to `hi`. -/
def containsBetween (intervals : Array (Nat × Nat)) (n lo hi : Nat) : Bool :=
  if _ : lo < hi then
    let middle := (lo + hi) / 2
    match intervals[middle]? with
    | none => false
    | some (first, last) =>
      if n < first then containsBetween intervals n lo middle
      else if last < n then containsBetween intervals n (middle + 1) hi
      else true
  else false
  termination_by hi - lo

/-- Membership of a code point. -/
def contains (s : CodePointSet) (n : Nat) : Bool :=
  containsBetween s.intervals n 0 s.intervals.size

/-- Membership of a character. -/
def has (s : CodePointSet) (c : Char) : Bool := s.contains c.toNat

/-- The interval written as `41-5A` or as `AA`. -/
def readInterval (word : List Char) : Nat × Nat :=
  match word.dropWhile (· ≠ '-') with
  | [] => (hexNumber word, hexNumber word)
  | _ :: last => (hexNumber (word.takeWhile (· ≠ '-')), hexNumber last)

/-- Reads a table: intervals in hexadecimal with blanks between them. -/
def ofText (table : String) : CodePointSet :=
  ⟨((words table.toList).map readInterval).toArray⟩

end CodePointSet

end Tangle.Unicode
