import Tangle.Unicode.CodePointSet

/-!
# Maps from code points to sequences of code points

Entries are kept in ascending order of the code point they map. Tables are written as text, and an
entry is found by halving the table.
-/

namespace Tangle.Unicode

/-- A finite map from code points to code point sequences, its keys ascending. -/
structure CodePointMap where
  entries : Array (Nat × List Nat)
  deriving Inhabited

namespace CodePointMap

/-- The entry of `n` among those from index `lo` up to `hi`. -/
def findBetween (entries : Array (Nat × List Nat)) (n lo hi : Nat) : Option (List Nat) :=
  if _ : lo < hi then
    let middle := (lo + hi) / 2
    match entries[middle]? with
    | none => none
    | some (key, value) =>
      if n < key then findBetween entries n lo middle
      else if key < n then findBetween entries n (middle + 1) hi
      else some value
  else none
  termination_by hi - lo

/-- What the code point `n` maps to, if the table lists it. -/
def find? (m : CodePointMap) (n : Nat) : Option (List Nat) :=
  findBetween m.entries n 0 m.entries.size

/-- The numbers written in hexadecimal with commas between them. -/
def readNumbers (word : List Char) : List Nat :=
  (words (word.map fun c => if c = ',' then ' ' else c)).map hexNumber

/-- The entry written as `DF:53,53`. -/
def readEntry (word : List Char) : Nat × List Nat :=
  (hexNumber (word.takeWhile (· ≠ ':')), readNumbers (word.dropWhile (· ≠ ':')).tail)

/-- Reads a table written as `DF:53,53 E0:C0`, in hexadecimal with blanks between entries. -/
def ofText (table : String) : CodePointMap := ⟨((words table.toList).map readEntry).toArray⟩

end CodePointMap

end Tangle.Unicode
