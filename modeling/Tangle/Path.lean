import Tangle.Text

/-!
# Paths

Paths are kept as written. Taking a path apart passes over doubled slashes and single dots, but
what remains is always a beginning of the path as it was written.

A path has a head that is never taken off as a name: the slash of an absolute path, or the dot of a
path that is a single dot or begins with a dot and a slash. The rest is its body.
-/

namespace Tangle.Path

/-- Whether a path begins at the root. -/
def isAbsolute (path : Text) : Bool := path.head? = some '/'

/-- Whether the head of a path is a dot. -/
def startsAtDot : Text → Bool
  | ['.'] => true
  | '.' :: '/' :: _ => true
  | _ => false

/-- The head of a path. -/
def head (path : Text) : Text := if isAbsolute path || startsAtDot path then path.take 1 else []

/-- The body of a path, reversed. -/
def bodyReversed (path : Text) : Text := (path.drop (head path).length).reverse

/-- Takes empty names and single dots off the end of a body, which is given reversed. -/
def trimBody : Text → Text
  | '/' :: rest => trimBody rest
  | '.' :: '/' :: rest => trimBody rest
  | ['.'] => []
  | body => body

/-- The last name of a path. A path that ends in its head or in two dots has none. -/
def fileName? (path : Text) : Option Text :=
  let name := ((trimBody (bodyReversed path)).takeWhile (· ≠ '/')).reverse
  if name.isEmpty || name = ['.', '.'] then none else some name

/-- A path without its last name. -/
def parent? (path : Text) : Option Text :=
  let body := trimBody (bodyReversed path)
  if body.isEmpty then if startsAtDot path then some [] else none
  else some (head path ++ (trimBody (body.dropWhile (· ≠ '/'))).reverse)

/-- What follows the last dot of the last name. A dot that begins the name does not count. -/
def extension? (path : Text) : Option Text :=
  match (fileName? path).bind fun name => name.splitLast? '.' with
  | some (stem, ending) => if stem.isEmpty then none else some ending
  | none => none

/-- A path below another. An absolute path stands alone. -/
def join (base path : Text) : Text :=
  if isAbsolute path then path
  else if base.isEmpty || base.getLast? = some '/' then base ++ path
  else base ++ '/' :: path

/-- The first `count` of a path, its parent, the parent of that, and so on. -/
def ancestors : Nat → Text → List Text
  | 0, _ => []
  | count + 1, path =>
    path ::
      match parent? path with
      | some up => ancestors count up
      | none => []

/-- The names of a path, without empty ones and single dots. -/
def names (path : Text) : List Text :=
  (path.splitOn '/').filter fun name => !name.isEmpty && name ≠ ['.']

/-- Takes empty names and single dots off the front of what follows a name. -/
def trimFront : Text → Text
  | '/' :: rest => trimFront rest
  | '.' :: '/' :: rest => trimFront rest
  | ['.'] => []
  | rest => rest

/-- What is left of the text of a path when names are taken off its front. -/
def afterNames? : List Text → Text → Option Text
  | [], rest => some (trimFront rest)
  | name :: more, rest =>
    let rest := trimFront rest
    if rest.takeWhile (· ≠ '/') = name then afterNames? more (rest.dropWhile (· ≠ '/')) else none

/-- An absolute path as seen from the directory `root`, if it lies below it. -/
def within? (root path : Text) : Option Text :=
  if isAbsolute path && isAbsolute root then
    (afterNames? (names root) path).map fun rest => (trimBody rest.reverse).reverse
  else none

end Tangle.Path
