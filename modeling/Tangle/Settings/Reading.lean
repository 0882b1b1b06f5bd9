import Tangle.Path
import Tangle.Settings
import Tangle.Toml.Reader
import Tangle.Yaml.Node

/-!
# Reading settings

Settings are read from the text of a file in one of two formats, which the name of the file decides.
A setting that is not given keeps its standard value, unknown ones are passed over, and none may be
given twice.
-/

namespace Tangle.Settings

/-! ## From tables -/

/-- What can be set, in the order in which a sequence sets it. -/
inductive Item where
  | patterns
  | annotations
  | suffix
  deriving Repr, DecidableEq

namespace Item

/-- All that can be set. -/
def all : List Item := [patterns, annotations, suffix]

/-- The name by which something is set. -/
def name : Item → Text
  | patterns => "filter_lines_matching".toList
  | annotations => "filter_leanpub_code_comments".toList
  | suffix => "template_suffix".toList

/-- What is set by a name. -/
def ofName? (text : Text) : Option Item := all.find? fun item => item.name = text

end Item

/-- The text that a value is. -/
def tomlText? : Toml.Value → Option Text
  | .string t => some t
  | _ => none

/-- Settings with one item set by a value. -/
def setToml (settings : Settings) (item : Item) (value : Toml.Value) : Option Settings :=
  match item, value with
  | .patterns, .array items =>
    (items.mapM tomlText?).map fun patterns => { settings with patterns }
  | .annotations, .boolean annotations => some { settings with annotations }
  | .suffix, .string suffix => some { settings with suffix }
  | _, _ => none

/-- The settings that the entries of a table give. -/
def ofToml (entries : Toml.Entries) : Option Settings :=
  entries.foldlM
    (fun settings entry =>
      match Item.ofName? entry.1 with
      | some item => settings.setToml item entry.2
      | none => some settings)
    {}

/-! ## From nodes -/

/-- The text of a scalar, as it is spelled. -/
def yamlText? (document : Yaml.Document) (node : Yaml.Node) : Option Text :=
  match document.resolve node with
  | some (.scalar t _ _) => some t
  | _ => none

/-- Whether a scalar can stand for a truth value: a plain one, or a literal block that is tagged as
one. -/
def canBeBoolean (style : Yaml.Style) (tag : Option Text) : Bool :=
  style = .plain || (style = .literal && tag = some "tag:yaml.org,2002:bool".toList)

/-- The truth value that a text spells. -/
def booleanOf? (text : Text) : Option Bool :=
  if ["true", "True", "TRUE"].any (·.toList = text) then some true
  else if ["false", "False", "FALSE"].any (·.toList = text) then some false
  else none

/-- The truth value that a node is. -/
def yamlBoolean? (document : Yaml.Document) (node : Yaml.Node) : Option Bool :=
  match document.resolve node with
  | some (.scalar t style tag) => if canBeBoolean style tag then booleanOf? t else none
  | _ => none

/-- The texts of a sequence. An absent node is the empty one. -/
def yamlTexts? (document : Yaml.Document) (node : Yaml.Node) : Option (List Text) :=
  match document.resolve node with
  | some (.sequence items) => items.mapM (yamlText? document)
  | some (.scalar [] .plain _) => some []
  | _ => none

/-- Settings with one item set by a node. -/
def setYaml (document : Yaml.Document) (settings : Settings) (item : Item) (node : Yaml.Node) :
    Option Settings :=
  match item with
  | .patterns => (yamlTexts? document node).map fun patterns => { settings with patterns }
  | .annotations =>
    (yamlBoolean? document node).map fun annotations => { settings with annotations }
  | .suffix => (yamlText? document node).map fun suffix => { settings with suffix }

/-- The settings that the pairs of a mapping give. `seen` holds the items that are already set. -/
def ofYamlPairs (document : Yaml.Document) :
    List Item → Settings → List (Yaml.Node × Yaml.Node) → Option Settings
  | _, settings, [] => some settings
  | seen, settings, (key, node) :: more => do
    let name ← yamlText? document key
    match Item.ofName? name with
    | none => ofYamlPairs document seen settings more
    | some item =>
      if seen.contains item then none
      else do
        let settings ← setYaml document settings item node
        ofYamlPairs document (item :: seen) settings more

/-- The settings that the members of a sequence give, one item after the other. -/
def ofYamlItems (document : Yaml.Document) :
    List Item → Settings → List Yaml.Node → Option Settings
  | _, settings, [] => some settings
  | [], _, _ :: _ => none
  | item :: items, settings, node :: more => do
    let settings ← setYaml document settings item node
    ofYamlItems document items settings more

/-- The settings that a document gives. An absent one gives none. -/
def ofYaml (document : Yaml.Document) : Option Settings :=
  match document.root with
  | .mapping pairs => ofYamlPairs document [] {} pairs
  | .sequence items => ofYamlItems document Item.all {} items
  | .scalar [] .plain _ => some {}
  | _ => none

/-! ## From text -/

/-- The formats of settings. -/
inductive Format where
  | toml
  | yaml
  deriving Repr, DecidableEq

/-- The name of a settings file without an extension. -/
def bareName : Text := ".literaterc".toList

/-- The format of a file, by its name. -/
def Format.ofPath (path : Text) : Format :=
  let isBare := Path.fileName? path = some bareName
  let hasExtension :=
    (Path.extension? path).any fun ending =>
      ["yaml", "yml"].any (·.toList = ending.map Char.toLower)
  if isBare || hasExtension then .yaml else .toml

/-- The settings that a text gives. A text of blanks gives none. -/
def ofText (format : Format) (text : Text) : Option Settings :=
  if text.isBlank then some {}
  else
    match format with
    | .toml => (Toml.read text).bind ofToml
    | .yaml => (Yaml.read text).bind ofYaml

end Tangle.Settings
