import Tangle.Unicode.CaseTable
import Tangle.Unicode.Property

/-!
# Upper and lower case

Case mapping of whole texts. Upper case maps each character by itself; lower case writes a capital
sigma at the end of a word as the final form.
-/

namespace Tangle.Unicode

/-- The characters that `table` gives for `c`, or `c` itself. -/
def mapBy (table : CodePointMap) (c : Char) : List Char :=
  match table.find? c.toNat with
  | some points => points.map Char.ofNat
  | none => [c]

/-- The upper case of one character, which may be several. -/
def upperCase (c : Char) : List Char := mapBy CaseTable.upper c

/-- The lower case of one character without its context. -/
def lowerCase (c : Char) : List Char := mapBy CaseTable.lower c

/-- The one character that stands for `c` where case is ignored. -/
def foldCase (c : Char) : Char := ((mapBy CaseTable.fold c).head?).getD c

/-- The characters that differ from `c` in case only, `c` among them. -/
def caseVariants (c : Char) : List Char :=
  let folded := foldCase c
  c :: folded :: (CaseTable.fold.entries.toList.filterMap fun (point, target) =>
    if target.head? = some folded.toNat then some (Char.ofNat point) else none)

/-- Whether the nearest character that is not case-ignorable is a cased one. -/
def meetsCased (context : List Char) : Bool :=
  match context.dropWhile Property.caseIgnorable.has with
  | [] => false
  | c :: _ => Property.cased.has c

/-- The upper case of a text. -/
def toUpper (text : List Char) : List Char := text.flatMap upperCase

/-- Lower case of the rest of a text, `before` being what precedes it in reverse. -/
private def lowerFrom : List Char → List Char → List Char
  | _, [] => []
  | before, c :: rest =>
    let lowered :=
      if c = 'Σ' then if meetsCased before && !meetsCased rest then ['ς'] else ['σ']
      else lowerCase c
    lowered ++ lowerFrom (c :: before) rest

/-- The lower case of a text. -/
def toLower (text : List Char) : List Char := lowerFrom [] text

end Tangle.Unicode
