import Tangle.Fault
import Tangle.Path

/-!
# Template files

The name of a template file has three parts: a stem, the extension of what it renders to, and the
suffix that marks templates, such as `app.js.jinja`. At version 2 this file renders to `app-2.js`
beside it.
-/

namespace Tangle

/-- A template file, its name taken apart. -/
structure TemplateFile where
  path : Text
  /-- The name without its two extensions. -/
  stem : Text
  /-- The extension of the rendered file, without a dot. -/
  extension : Text
  deriving Repr, DecidableEq

namespace TemplateFile

/-- Characters that an extension can have. -/
def isExtensionPart (c : Char) : Bool := isAlphanumeric c || c = '_'

/-- Takes the name of a file apart, given the suffix of templates. -/
def parts? (suffix name : Text) : Option (Text × Text) := do
  let name ← name.beforeEnd? suffix
  let name ← Text.beforeEnd? name ['.']
  let (stem, extension) ← Text.splitLast? name '.'
  if !extension.isEmpty && extension.all isExtensionPart then some (stem, extension) else none

/-- Takes a path to a template file apart. -/
def ofPath (path suffix : Text) : Except Fault TemplateFile :=
  match (Path.fileName? path).bind (parts? suffix) with
  | some (stem, extension) => .ok { path, stem, extension }
  | none => .error (.invalidTemplateExtension path suffix)

/-- The name of the file that a template renders to at a version. -/
def outputName (file : TemplateFile) (version : Nat) : Text :=
  file.stem ++ '-' :: Text.ofNat version ++ '.' :: file.extension

/-- The path of that file, beside the template. -/
def outputPath (file : TemplateFile) (version : Nat) : Text :=
  match Path.parent? file.path with
  | some directory => Path.join directory (file.outputName version)
  | none => file.outputName version

end TemplateFile

end Tangle
