import Tangle.Text

/-!
# Command lines

What the arguments of a command line ask for. Switches can stand before and after the name of a
command. A parameter has a value, which is the rest of its argument or the next argument. All else
names documents, and so does everything after two dashes.

Arguments are read from left to right, and the first that asks for help or makes no sense decides.
-/

namespace Tangle

/-- How a command shows its result. -/
inductive OutputFormat where
  | text
  | json
  deriving Repr, DecidableEq

/-- A command with what it works on. -/
inductive Command where
  | render (documents : List Text) (templates : Text) (settings : Option Text)
      (format : OutputFormat)
  | diff (documents : List Text) (output : Text)
  | list (documents : List Text) (settings : Option Text)
  deriving Repr, DecidableEq

namespace Command

/-! ## Switches and parameters -/

/-- What is on or off for every command. -/
inductive Switch where
  | verbose
  | quiet
  | noColor
  deriving Repr, DecidableEq

namespace Switch

/-- The switch with a long name. -/
def ofName? (name : Text) : Option Switch :=
  if name = "verbose".toList then some verbose
  else if name = "quiet".toList then some quiet
  else if name = "no-color".toList then some noColor
  else none

/-- The switch with a letter. -/
def ofLetter? (letter : Char) : Option Switch :=
  if letter = 'v' then some verbose else if letter = 'q' then some quiet else none

end Switch

/-- The commands. -/
inductive Verb where
  | render
  | diff
  | list
  deriving Repr, DecidableEq

/-- The command with a name. -/
def Verb.ofName? (name : Text) : Option Verb :=
  if name = "render".toList then some render
  else if name = "diff".toList then some diff
  else if name = "list".toList then some list
  else none

/-- What has a value. -/
inductive Parameter where
  | templates
  | settings
  | format
  | output
  deriving Repr, DecidableEq

namespace Parameter

/-- The parameters of a command. -/
def ofVerb : Verb → List Parameter
  | .render => [templates, settings, format]
  | .diff => [output]
  | .list => [settings]

/-- The long name of a parameter. -/
def name : Parameter → Text
  | templates => "templates".toList
  | settings => "config".toList
  | format => "format".toList
  | output => "output".toList

/-- The letter of a parameter. -/
def letter? : Parameter → Option Char
  | templates => some 't'
  | settings => some 'c'
  | format => none
  | output => some 'o'

end Parameter

/-- The output format with a name. -/
def formatOf? (name : Text) : Option OutputFormat :=
  if name = "text".toList then some .text else if name = "json".toList then some .json else none

/-- Whether a parameter can have a value: a known format, or a path that is not empty. -/
def admits (parameter : Parameter) (value : Text) : Bool :=
  match parameter with
  | .format => (formatOf? value).isSome
  | _ => !value.isEmpty

/-! ## Reading -/

/-- Why no command is run. -/
inductive Notice where
  | help
  | version
  /-- No command is named. -/
  | idle
  /-- The arguments make no sense. -/
  | misuse
  deriving Repr, DecidableEq

/-- What the arguments have given so far. -/
structure Given where
  switches : List Switch := []
  values : List (Parameter × Text) := []
  documents : List Text := []
  deriving Repr, DecidableEq

namespace Given

/-- Turns a switch on, which can be done once. -/
def turnOn (given : Given) (switch : Switch) : Except Notice Given :=
  if given.switches.contains switch then .error .misuse
  else .ok { given with switches := given.switches ++ [switch] }

/-- The value of a parameter. -/
def value? (given : Given) (parameter : Parameter) : Option Text :=
  (given.values.find? fun entry => entry.1 = parameter).map (·.2)

/-- Gives a value to a parameter, which can be done once. -/
def give (given : Given) (parameter : Parameter) (value : Text) : Except Notice Given :=
  if (given.value? parameter).isSome || !admits parameter value then .error .misuse
  else .ok { given with values := given.values ++ [(parameter, value)] }

/-- Adds a document. -/
def addDocument (given : Given) (path : Text) : Except Notice Given :=
  if path.isEmpty then .error .misuse
  else .ok { given with documents := given.documents ++ [path] }

end Given

/-- What has been given, and the parameter that the next argument is the value of. -/
abbrev Progress := Given × Option Parameter

/-- Reads an argument of a dash and letters. The letter of a parameter ends the letters; what
follows it, less an equals sign, is the value. -/
def readLetters (verb : Option Verb) (given : Given) : Text → Except Notice Progress
  | [] => .ok (given, none)
  | c :: rest =>
    if c = 'h' then .error .help
    else if c = 'V' && verb.isNone then .error .version
    else
      match Switch.ofLetter? c with
      | some switch => do
        let given ← given.turnOn switch
        readLetters verb given rest
      | none =>
        match ((verb.map Parameter.ofVerb).getD []).find? fun p => p.letter? = some c with
        | none => .error .misuse
        | some parameter =>
          match rest with
          | [] => .ok (given, some parameter)
          | c :: value => do
            let given ← given.give parameter (if c = '=' then value else c :: value)
            pure (given, none)

/-- Reads an argument of two dashes and a name. An equals sign separates a value from the name. -/
def readName (verb : Option Verb) (given : Given) (text : Text) : Except Notice Progress :=
  let name := text.takeWhile (· ≠ '=')
  let value : Option Text := (text.splitFirst? '=').map (·.2)
  match value, Switch.ofName? name with
  | none, some switch => do
    let given ← given.turnOn switch
    pure (given, none)
  | some _, some _ => .error .misuse
  | value, none =>
    if value.isNone && name = "help".toList then .error .help
    else if value.isNone && name = "version".toList && verb.isNone then .error .version
    else
      match ((verb.map Parameter.ofVerb).getD []).find? fun p => p.name = name, value with
      | none, _ => .error .misuse
      | some parameter, none => .ok (given, some parameter)
      | some parameter, some value => do
        let given ← given.give parameter value
        pure (given, none)

/-- How an argument reads. -/
inductive Shape where
  /-- Two dashes alone. -/
  | separator
  | name (text : Text)
  | letters (text : Text)
  | word (text : Text)
  deriving Repr, DecidableEq

/-- How an argument reads. A dash alone is a word. -/
def Shape.ofArgument : Text → Shape
  | ['-', '-'] => .separator
  | '-' :: '-' :: text => .name text
  | '-' :: c :: text => .letters (c :: text)
  | text => .word text

/-- Reads the arguments after the name of a command. While a parameter waits for its value, only a
word will do. -/
def readArguments (verb : Verb) : Progress → List Text → Except Notice Given
  | (given, none), [] => .ok given
  | (_, some _), [] => .error .misuse
  | (given, some parameter), argument :: more =>
    match Shape.ofArgument argument with
    | .word value => do
      let given ← given.give parameter value
      readArguments verb (given, none) more
    | _ => .error .misuse
  | (given, none), argument :: more =>
    match Shape.ofArgument argument with
    | .separator => more.foldlM Given.addDocument given
    | .name text => do
      let progress ← readName verb given text
      readArguments verb progress more
    | .letters text => do
      let progress ← readLetters verb given text
      readArguments verb progress more
    | .word path => do
      let given ← given.addDocument path
      readArguments verb (given, none) more

/-- The command that the arguments after its name describe. -/
def ofGiven (verb : Verb) (given : Given) : Except Notice Command :=
  if given.documents.isEmpty then .error .misuse
  else
    let settings := given.value? .settings
    match verb with
    | .render =>
      match given.value? .templates with
      | some templates =>
        let format := ((given.value? .format).bind formatOf?).getD .text
        .ok (.render given.documents templates settings format)
      | none => .error .misuse
    | .diff =>
      match given.value? .output with
      | some output => .ok (.diff given.documents output)
      | none => .error .misuse
    | .list => .ok (.list given.documents settings)

/-- What asking for help about commands leads to. One command can be named, or help itself. -/
def helpAbout : List Text → Notice
  | [] => .help
  | [name] => if (Verb.ofName? name).isSome || name = "help".toList then .help else .misuse
  | _ => .misuse

/-- A command to be run, with all switches that are on. -/
structure Invocation where
  command : Command
  switches : List Switch
  deriving Repr, DecidableEq

/-- Reads the arguments up to the name of the command, and the rest with it. -/
def readCommand (given : Given) : List Text → Except Notice Invocation
  | [] => .error .idle
  | argument :: more =>
    match Shape.ofArgument argument with
    | .separator => .error (if more.isEmpty then .idle else .misuse)
    | .name text => do
      let (given, _) ← readName none given text
      readCommand given more
    | .letters text => do
      let (given, _) ← readLetters none given text
      readCommand given more
    | .word name =>
      match Verb.ofName? name with
      | some verb => do
        let inner ← readArguments verb ({}, none) more
        let command ← ofGiven verb inner
        pure ⟨command, given.switches ++ inner.switches⟩
      | none => .error (if name = "help".toList then helpAbout more else .misuse)

/-- The command that arguments ask for. -/
def ofArguments (arguments : List Text) : Except Notice Invocation := readCommand {} arguments

end Command

end Tangle
