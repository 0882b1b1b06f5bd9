import Tangle.Pattern.Reader

/-!
# Line filters

A filter excludes the lines in which one of its patterns occurs. The lines of fragments pass
through it before their indentation is looked at.
-/

namespace Tangle

/-- A filter is the list of its patterns. -/
structure LineFilter where
  patterns : List Pattern

namespace LineFilter

/-- The pattern of the comments by which a publisher annotates code lines. -/
def annotationPattern : Text := "^\\s*<!--\\s*leanpub".toList

/-- The filter that excludes nothing. -/
def none : LineFilter := ⟨[]⟩

/-- Whether a line is excluded. -/
def excludes (filter : LineFilter) (line : Text) : Bool :=
  filter.patterns.any fun p => p.occursIn line

/-- Reads patterns in order and stops at the first faulty one, which is the error. -/
def readPatterns : List Text → Except Text (List Pattern)
  | [] => .ok []
  | source :: more =>
    match Pattern.read? source with
    | .none => .error source
    | some p => (readPatterns more).map (p :: ·)

/-- The filter with the given patterns, and with the annotation pattern after them if wanted. -/
def compile (sources : List Text) (annotations : Bool) : Except Text LineFilter :=
  (readPatterns (if annotations then sources ++ [annotationPattern] else sources)).map (⟨·⟩)

end LineFilter

end Tangle
