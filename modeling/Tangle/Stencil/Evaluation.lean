import Tangle.Scope
import Tangle.Stencil.Reader
import Tangle.Unicode.Case

/-!
# Rendering templates

The text of a template in a scope. Names stand for the bindings of the scope, for the version unless
it is bound, and for the reserved name that holds the version in any case. A name that stands for
nothing is undefined, has undefined parts, and is shown as the empty text. What has no meaning
fails. In pages what is shown is escaped, in other texts it is not.
-/

namespace Tangle.Stencil

/-! ## Operations -/

/-- An operation on integers or on floating-point numbers. -/
def arithmetic (ints : Int → Int → Option Int) (floats : Float → Float → Float)
    (a b : Value) : Option Value := do
  match ← Value.pair? a b with
  | .ints m n => Value.ofInt? (← ints m n)
  | .floats x y => some (.float (floats x y))
  | .texts _ _ => none

/-- Repeats a list a number of times. -/
def repeatList {α : Type} (items : List α) (count : Nat) : List α :=
  (List.replicate count items).flatten

/-- Multiplication: texts and lists are repeated. -/
def product (a b : Value) : Option Value :=
  match a, b with
  | .text t _, .int n | .int n, .text t _ =>
    if 0 ≤ n then some (.ofText (repeatList t n.toNat)) else none
  | .text _ _, _ | _, .text _ _ => none
  | .list items, .int n | .int n, .list items =>
    if 0 ≤ n then some (.list (repeatList items n.toNat)) else none
  | a, b => arithmetic (fun m n => some (m * n)) (· * ·) a b

/-- Division of floating-point numbers, rounded down so that the remainder is not negative. -/
def floorDivideFloats (x y : Float) : Float :=
  let quotient := (x / y)
  let truncated := if quotient < 0 then quotient.ceil else quotient.floor
  if x - truncated * y < 0 then if 0 < y then truncated - 1 else truncated + 1 else truncated

/-- The remainder of floating-point numbers, which is not negative. -/
def remainderFloats (x y : Float) : Float := x - floorDivideFloats x y * y

/-- A power with a natural exponent. Where the exponent is so large that only zero and one and minus
one have a power in range, that power depends on the parity of the exponent. -/
def power? (m n : Int) : Option Int :=
  if n < 0 then none
  else if n ≤ 128 then some (Int.pow m n.toNat)
  else if m.natAbs ≤ 1 then some (Int.pow m (2 + n.toNat % 2))
  else none

/-- The value of an operation on two values. -/
def Binary.apply (a b : Value) : Binary → Option Value
  | .add =>
    match a, b with
    | .list s, .list t => some (.list (s ++ t))
    | .text s _, .text t _ => some (.ofText (s ++ t))
    | a, b => arithmetic (fun m n => some (m + n)) (· + ·) a b
  | .subtract => arithmetic (fun m n => some (m - n)) (· - ·) a b
  | .multiply => product a b
  | .divide => do
    let x ← a.float?
    let y ← b.float?
    some (.float (x / y))
  | .floorDivide =>
    arithmetic (fun m n => if n = 0 then none else some (m / n)) floorDivideFloats a b
  | .modulo => arithmetic (fun m n => if n = 0 then none else some (m % n)) remainderFloats a b
  | .power => arithmetic power? Float.pow a b
  | .concat => some (.ofText (a.shown ++ b.shown))
  | .equal => some (.bool (a.equal b))
  | .notEqual => some (.bool (!a.equal b))
  | .less => some (.bool (a.compare b == .lt))
  | .lessEqual => some (.bool (a.compare b != .gt))
  | .greater => some (.bool (a.compare b == .gt))
  | .greaterEqual => some (.bool (a.compare b != .lt))
  | .isIn => (b.contains? a).map .bool

/-- The index that a bound of a slice stands for in a list of the given length. -/
def sliceIndex (length : Nat) (index : Int) : Nat :=
  if index < 0 then (length + index).toNat else min index.toNat length

/-- Every `step`-th member, from the first on. -/
def everyNth {α : Type} (step : Nat) : Nat → List α → List α
  | _, [] => []
  | 0, a :: rest => a :: everyNth step (step - 1) rest
  | wait + 1, _ :: rest => everyNth step wait rest

/-- The members from one index up to another, in steps. -/
def sliceList {α : Type} (items : List α) (start stop : Option Int) (step : Int) : List α :=
  let n := items.length
  if 0 < step then
    let first := sliceIndex n (start.getD 0)
    let last := sliceIndex n (stop.getD n)
    everyNth step.toNat 0 ((items.take last).drop first)
  else
    let first := match start with
      | some i => min (sliceIndex n i + 1) n
      | none => n
    let last := match stop with
      | some i => min (sliceIndex n i + 1) n
      | none => 0
    everyNth step.natAbs 0 ((items.take first).drop last).reverse

/-- A bound of a slice: absent, none, or an integer. -/
def sliceBound? : Option Value → Option (Option Int)
  | none => some none
  | some .none => some none
  | some v => v.int?.map some

/-- A slice of a text or a list. -/
def sliceValue (v : Value) (start stop step : Option Value) : Option Value := do
  let start ← sliceBound? start
  let stop ← sliceBound? stop
  let step := (← sliceBound? step).getD 1
  if step = 0 then none
  else
    match v with
    | .text t _ => some (.ofText (sliceList t start stop step))
    | .list items => some (.list (sliceList items start stop step))
    | .undefined | .none => some (.list [])
    | _ => none

/-! ## Filters and tests -/

/-- Writes each word with a capital. Blanks and ASCII punctuation separate words; `start` tells
whether a word begins. -/
def titleFrom : Bool → Text → Text
  | _, [] => []
  | start, c :: rest =>
    if isAsciiPunctuation c || isSpace c then c :: titleFrom true rest
    else (if start then Unicode.upperCase c else Unicode.lowerCase c) ++ titleFrom false rest

/-- Replaces every occurrence of `old`, which is not empty, from left to right. `skip` counts the
characters of an occurrence that are still to be passed over. -/
def replaceFrom (old new : Text) : Nat → Text → Text
  | _, [] => []
  | skip + 1, _ :: rest => replaceFrom old new skip rest
  | 0, c :: rest =>
    if Text.startsWith (c :: rest) old then new ++ replaceFrom old new (old.length - 1) rest
    else c :: replaceFrom old new 0 rest

/-- Replaces every occurrence of `old`. The empty text occurs around every character. -/
def replaceAll (old new text : Text) : Text :=
  if old.isEmpty then new ++ text.flatMap fun c => c :: new else replaceFrom old new 0 text

/-- Takes the given characters off both ends of a text. -/
def trimOf (characters text : Text) : Text :=
  Text.dropEndWhile (text.dropWhile characters.contains) characters.contains

/-- The value of a filter. -/
def applyFilter (name : Text) (v : Value) (arguments : List Value) : Option Value :=
  match String.ofList name, arguments with
  | "upper", [] => some (.ofText (Unicode.toUpper v.shown))
  | "lower", [] => some (.ofText (Unicode.toLower v.shown))
  | "title", [] => some (.ofText (titleFrom true v.shown))
  | "trim", [] => some (.ofText v.shown.trim)
  | "trim", [characters] =>
    some (.ofText (match characters with
      | .undefined | .none => v.shown.trim
      | characters => trimOf characters.shown v.shown))
  | "length", [] | "count", [] => v.length?.map fun n => .int n
  | "replace", [old, new] => some (.ofText (replaceAll old.shown new.shown v.shown))
  | "default", [] | "d", [] =>
    some (match v with
      | .undefined => .ofText []
      | v => v)
  | "default", [other] | "d", [other] =>
    some (match v with
      | .undefined => other
      | v => v)
  | "default", [other, .bool lax] | "d", [other, .bool lax] =>
    some (match v with
      | .undefined => other
      | v => if lax && !v.isTrue then other else v)
  | "e", [] | "escape", [] => some (.text v.shownEscaped true)
  | "safe", [] => some (.text v.shown true)
  | _, _ => none

/-- The value of a test. -/
def applyTest (name : Text) (v : Value) (arguments : List Value) : Option Bool :=
  match String.ofList name, arguments with
  | "defined", [] => some (match v with
    | .undefined => false
    | _ => true)
  | "undefined", [] => some (match v with
    | .undefined => true
    | _ => false)
  | "none", [] => some (match v with
    | .none => true
    | _ => false)
  | "true", [] => some (match v with
    | .bool b => b
    | _ => false)
  | "false", [] => some (match v with
    | .bool b => !b
    | _ => false)
  | "string", [] => some (v.rank = 4)
  | "number", [] => some (v.rank = 3)
  | _, _ => none

/-! ## Expressions -/

/-- What names stand for: the names given inside loops, innermost first, then those given outside,
and then the context. -/
structure Environment where
  context : List (Text × Value)
  frames : List (List (Text × Value))
  /-- Whether what is shown is escaped, unless it is markup. -/
  escapes : Bool := false

namespace Environment

/-- The value of a name. -/
def lookup (env : Environment) (name : Text) : Value :=
  match (env.frames.flatten ++ env.context).find? fun binding => binding.1 = name with
  | some binding => binding.2
  | none => .undefined

/-- A value as it is written into the rendered text. -/
def written (env : Environment) (value : Value) : Text :=
  if env.escapes then value.shownEscaped else value.shown

/-- Gives a name to a value in the innermost frame. -/
def assign (env : Environment) (name : Text) (value : Value) : Environment :=
  match env.frames with
  | [] => { env with frames := [[(name, value)]] }
  | frame :: outer => { env with frames := ((name, value) :: frame) :: outer }

/-- Gives one name to a value, or several names to its members. -/
def assignAll (env : Environment) (names : List Text) (value : Value) : Option Environment :=
  match names with
  | [name] => some (env.assign name value)
  | names => do
    let members ← value.members?
    if members.length = names.length then
      some ((names.zip members).foldl (fun env binding => env.assign binding.1 binding.2) env)
    else none

end Environment

mutual

/-- The value of an expression. -/
def Expression.value (env : Environment) : Expression → Option Value
  | .constant v => some v
  | .name n => some (env.lookup n)
  | .list items => (valuesOf env items).map .list
  | .map entries => (entriesOf env entries).map .ofEntries
  | .attribute subject n => (subject.value env).map fun v => v.member (.ofText n)
  | .item subject key => do
    let v ← subject.value env
    let k ← key.value env
    some (v.member k)
  | .slice subject start stop step => do
    let v ← subject.value env
    let start ← optionOf env start
    let stop ← optionOf env stop
    let step ← optionOf env step
    sliceValue v start stop step
  | .call _ _ => none
  | .filter name subject arguments => do
    let v ← subject.value env
    let arguments ← valuesOf env arguments
    applyFilter name v arguments
  | .test name subject arguments => do
    let v ← subject.value env
    let arguments ← valuesOf env arguments
    (applyTest name v arguments).map .bool
  | .negate subject => do
    match ← subject.value env with
    | .int n => Value.ofInt? (-n)
    | .float x => some (.float (-x))
    | _ => none
  | .not subject => (subject.value env).map fun v => .bool (!v.isTrue)
  | .binary operation left right => do
    let a ← left.value env
    let b ← right.value env
    operation.apply a b
  | .and left right => do
    let a ← left.value env
    if a.isTrue then right.value env else some a
  | .or left right => do
    let a ← left.value env
    if a.isTrue then some a else right.value env
  | .choice test yes no => do
    let t ← test.value env
    if t.isTrue then yes.value env
    else
      let v ← optionOf env no
      some (v.getD .undefined)

/-- The values of expressions. -/
def valuesOf (env : Environment) : List Expression → Option (List Value)
  | [] => some []
  | e :: more => do
    let v ← e.value env
    let values ← valuesOf env more
    some (v :: values)

/-- The values of the entries of a map. -/
def entriesOf (env : Environment) : List (Expression × Expression) → Option (List (Value × Value))
  | [] => some []
  | (key, e) :: more => do
    let k ← key.value env
    let v ← e.value env
    let entries ← entriesOf env more
    some ((k, v) :: entries)

/-- The value of an expression that may be left out. -/
def optionOf (env : Environment) : Option Expression → Option (Option Value)
  | none => some none
  | some e => (e.value env).map some

end

/-! ## Statements -/

/-- What a loop tells about its current member: its number, from one and from zero, from the front
and from the back, and its neighbours. -/
def loopState (depth : Nat) (members : List Value) (index : Nat) : Value :=
  let n := members.length
  let neighbour (i : Nat) (exists' : Bool) : Value :=
    if exists' then members[i]?.getD .undefined else .undefined
  Value.ofFields <| [("index", Value.int (index + 1)), ("index0", .int index),
    ("revindex", .int (n - index)), ("revindex0", .int (n - index - 1)),
    ("first", .bool (index = 0)), ("last", .bool (index + 1 = n)), ("length", .int n),
    ("depth", .int (depth + 1)), ("depth0", .int depth),
    ("previtem", neighbour (index - 1) (0 < index)), ("nextitem", neighbour (index + 1) true)].map
      fun field => (field.1.toList, field.2)

/-- Applies filters in order. -/
def filtered (env : Environment) : List (Text × List Expression) → Value → Option Value
  | [], v => some v
  | (name, arguments) :: more, v => do
    let arguments ← valuesOf env arguments
    filtered env more (← applyFilter name v arguments)

/-- The members that pass the test of a loop. -/
def passing (env : Environment) (names : List Text) (test : Option Expression) :
    List Value → Option (List Value)
  | [] => some []
  | v :: more => do
    let keeps ←
      match test with
      | none => some true
      | some e => do
        let inner ← ({ env with frames := [] :: env.frames }).assignAll names v
        (e.value inner).map Value.isTrue
    let rest ← passing env names test more
    some (if keeps then v :: rest else rest)

/-- Goes through the members of a loop. `step` is given the environment, the member and its index,
and gives the text of the body with the environment after it. -/
def iterate (step : Environment → Value → Nat → Option (Text × Environment)) :
    Nat → List Value → Environment → Option Text
  | _, [], _ => some []
  | index, v :: more, env => do
    let (text, env) ← step env v index
    let rest ← iterate step (index + 1) more env
    some (text ++ rest)

mutual

/-- The text of a statement, and the environment after it. -/
def Statement.render (env : Environment) : Statement → Option (Text × Environment)
  | .text t => some (t, env)
  | .emit e => (e.value env).map fun v => (env.written v, env)
  | .assign names e => do
    let v ← e.value env
    let env ← env.assignAll names v
    some ([], env)
  | .capture name filters body => do
    let (text, env) ← renderAll env body
    let v ← filtered env filters (.text text env.escapes)
    some ([], env.assign name v)
  | .choice test yes no => do
    let t ← test.value env
    if t.isTrue then renderAll env yes else renderAll env no
  | .loop names source test body otherwise => do
    let v ← source.value env
    let members ← passing env names test (← v.members?)
    if members.isEmpty then renderAll env otherwise
    else
      let depth := env.frames.length - 1
      let text ← iterate
        (fun inner member index => do
          let inner := inner.assign "loop".toList (loopState depth members index)
          let inner ← inner.assignAll names member
          renderAll inner body)
        0 members { env with frames := [] :: env.frames }
      some (text, env)

/-- The text of statements, and the environment after them. -/
def renderAll (env : Environment) : List Statement → Option (Text × Environment)
  | [] => some ([], env)
  | statement :: more => do
    let (text, env) ← statement.render env
    let (rest, env) ← renderAll env more
    some (text ++ rest, env)

end

/-! ## Scopes -/

/-- The reserved name that always tells the version. -/
def metaName : Text := "literate".toList

/-- The name that tells the version unless a fragment claims it. -/
def versionName : Text := "version".toList

/-- The context of a namespace: what names stand for in a scope. First the version is given its name,
then each binding is put in, and last the reserved name with the version; what is put in later
replaces what has the same name. -/
def contextOf (scope : Scope) : List (Text × Value) :=
  let version := Value.ofNat? scope.version
  let short := Scope.insert versionName version []
  let bound := Scope.insertAll (scope.bindings.map fun b => (b.1, Value.ofText b.2)) short
  Scope.insert metaName (.ofFields [("meta".toList, .ofFields [(versionName, version)])]) bound

/-- The text of a template in which names stand for the given values. `escapes` tells whether what
is shown is escaped. -/
def renderIn (escapes : Bool) (context : List (Text × Value)) (source : Text) : Option Text := do
  let statements ← Statement.readTemplate source
  let (text, _) ← renderAll { context, frames := [[]], escapes } statements
  some text

/-- The text of a template in a scope. Nothing is escaped. -/
def render (source : Text) (scope : Scope) : Option Text := renderIn false (contextOf scope) source

end Tangle.Stencil
