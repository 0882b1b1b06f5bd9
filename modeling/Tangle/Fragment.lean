import Tangle.Text

/-!
# Fragments

A fragment is a code block of a document: a named, versioned piece of text that the document holds
for one template.
-/

namespace Tangle

/-- A code block, taken from a document. Each line keeps the terminator it was read with. -/
structure Fragment where
  /-- The filtered lines without their common indentation, in document order. -/
  lines : List Text
  /-- The name under which templates see the content. -/
  name : Text
  /-- The identifier of the template that the fragment is for. -/
  template : Text
  version : Nat
  /-- The number of the declaring line, counted from one. -/
  line : Nat
  /-- The document that holds the fragment. -/
  file : Text
  deriving Repr, DecidableEq

namespace Fragment

/-- The text of a fragment: its lines in order. -/
def content (f : Fragment) : Text := f.lines.flatten

/-- The key of a code block: what two fragments must differ in for both to be kept. -/
def key (f : Fragment) : Text × Text × Nat := (f.name, f.template, f.version)

/-- The text by which messages name a fragment. -/
def describe (f : Fragment) : Text :=
  "<CodeBlock name=".toList ++ f.name ++ " template=".toList ++ f.template ++
    " version=".toList ++ Text.ofNat f.version ++ " line=".toList ++ Text.ofNat f.line ++
    " file=".toList ++ f.file ++ ['>']

end Fragment

end Tangle
