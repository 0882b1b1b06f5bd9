import Tangle.Declaration.Value

/-!
# Declarations

A declaration is a line in braces that gives a fragment its language, name, template and version,
such as `{lang='ruby' name='greeting' template='app' ver='2'}`. The order of the attributes is
free, unknown ones are ignored, and of a repeated one the last value counts. An empty value counts
as none.
-/

namespace Tangle

namespace Declaration

/-- A key with its value. -/
structure Attribute where
  key : Text
  value : Text
  deriving Repr, DecidableEq

/-- Whether a word can be the key of an attribute. -/
def isKey (word : Text) : Bool := word.all fun c => isAlphanumeric c || c = '_'

/-- The attributes among the tokens: a word, an equals sign and a value. All else is passed over. -/
def attributesOf : List Token → List Attribute
  | .word key :: .equals :: token :: rest =>
    match token.value? with
    | some value =>
      if isKey key then ⟨key, value⟩ :: attributesOf rest
      else attributesOf (.equals :: token :: rest)
    | none => attributesOf (.equals :: token :: rest)
  | _ :: rest => attributesOf rest
  | [] => []

/-- The text between the braces of a line that is wholly in braces. -/
def inside? (line : Text) : Option Text :=
  match line.withoutTerminator with
  | '{' :: rest => Text.beforeEnd? rest ['}']
  | _ => none

/-- The attributes on a line that is wholly in braces. -/
def attributes? (line : Text) : Option (List Attribute) :=
  (inside? line).map fun inside => attributesOf (Token.scan inside)

/-- The last value of `key` that is not empty. -/
def valueOf (key : Text) (attributes : List Attribute) : Option Text :=
  ((attributes.filter fun a => a.key = key && !a.value.isEmpty).getLast?).map Attribute.value

end Declaration

/-- A code block declaration: what a line in braces says. -/
structure Declaration where
  lang : Text
  name : Option Text
  template : Option Text
  version : Option Text
  deriving Repr, DecidableEq

namespace Declaration

/-- Reads a line as a declaration: it is wholly in braces and gives a language. -/
def parse (line : Text) : Option Declaration := do
  let attributes ← attributes? line
  let lang ← valueOf ['l', 'a', 'n', 'g'] attributes
  pure {
    lang
    name := valueOf ['n', 'a', 'm', 'e'] attributes
    template := valueOf ['t', 'e', 'm', 'p', 'l', 'a', 't', 'e'] attributes
    version := valueOf ['v', 'e', 'r'] attributes }

end Declaration

/-! ## Versions -/

/-- The number of versions: a version is below it. -/
def versionBound : Nat := 4294967296

/-- Reads a version: a decimal number below the bound, blanks around it allowed. -/
def readVersion? (value : Text) : Option Nat :=
  value.trim.toNat?.filter (· < versionBound)

end Tangle
