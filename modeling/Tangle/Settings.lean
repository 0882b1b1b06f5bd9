import Tangle.Filter
import Tangle.Run

/-!
# Settings

The configuration of a run, which is what can be set for it: the lines that are left out of
fragments, and the suffix by which template files are known.
-/

namespace Tangle

/-- The configuration of a run. -/
structure Settings where
  /-- Patterns of lines to leave out. -/
  patterns : List Text := []
  /-- Whether lines with annotations are left out too. -/
  annotations : Bool := true
  /-- The last extension of template files. -/
  suffix : Text := "jinja".toList
  deriving Repr, DecidableEq

/-- The filter that settings ask for. -/
def Settings.filter (settings : Settings) : Run LineFilter :=
  match LineFilter.compile settings.patterns settings.annotations with
  | .ok filter => pure filter
  | .error pattern => Run.fail (.filterPattern pattern)

end Tangle
