import Tangle.Stencil.Expression
import Tangle.Stencil.Token

/-!
# Reading templates

From segments and tokens to statements and expressions. Operations bind more or less tightly: from
loose to tight these are the choice, `or`, `and`, `not`, comparison, sums, `~`, products, powers,
and the minus sign; access to parts, calls, filters and tests follow what they apply to.

Every reader of expressions takes tokens and gives back those it has not used. The fuel bounds the
depth of nesting.
-/

namespace Tangle.Stencil

namespace Expression

/-- What reading yields: a result and the tokens after it. -/
abbrev Read (α : Type) := α × List Token

/-- Drops a sign from the front of tokens. -/
def expect (sign : Sign) : List Token → Option (List Token)
  | .sign s :: rest => if s = sign then some rest else none
  | _ => none

/-- Whether tokens begin with a sign. -/
def startsWith (sign : Sign) : List Token → Bool
  | .sign s :: _ => s = sign
  | _ => false

/-- Whether tokens begin with a name. -/
def startsWithName (name : String) : List Token → Bool
  | .name n :: _ => n = name.toList
  | _ => false

/-- The comparison that tokens begin with, whether it is negated, and the tokens after it. -/
def comparison? : List Token → Option (Option (Binary × Bool × List Token))
  | .sign .equal :: rest => some (some (.equal, false, rest))
  | .sign .notEqual :: rest => some (some (.notEqual, false, rest))
  | .sign .less :: rest => some (some (.less, false, rest))
  | .sign .lessEqual :: rest => some (some (.lessEqual, false, rest))
  | .sign .greater :: rest => some (some (.greater, false, rest))
  | .sign .greaterEqual :: rest => some (some (.greaterEqual, false, rest))
  | .name ['i', 'n'] :: rest => some (some (.isIn, false, rest))
  | .name ['n', 'o', 't'] :: rest =>
    match rest with
    | .name ['i', 'n'] :: rest => some (some (.isIn, true, rest))
    | _ => none
  | _ => some none

/-- The sum that a sign stands for. -/
def sumSign? : Token → Option Binary
  | .sign .plus => some .add
  | .sign .minus => some .subtract
  | _ => none

/-- The sign that joins texts. -/
def concatSign? : Token → Option Binary
  | .sign .tilde => some .concat
  | _ => none

/-- The product that a sign stands for. -/
def productSign? : Token → Option Binary
  | .sign .times => some .multiply
  | .sign .divide => some .divide
  | .sign .floorDivide => some .floorDivide
  | .sign .modulo => some .modulo
  | _ => none

/-- The sign of powers. -/
def powerSign? : Token → Option Binary
  | .sign .power => some .power
  | _ => none

/-- The signs of sums, of joined texts, of products and of powers, from loose to tight. -/
def levels : List (Token → Option Binary) := [sumSign?, concatSign?, productSign?, powerSign?]

/-- Whether tokens begin with something that a test can take as its argument without
parentheses. -/
def startsArgument : List Token → Bool
  | .name n :: _ => !(["and", "or", "else", "is"].map String.toList).contains n
  | .text _ :: _ | .int _ :: _ | .float _ :: _ => true
  | .sign s :: _ => s = .plus || s = .minus || s = .bracketOpen || s = .braceOpen
  | [] => false

/-- The value that a name always stands for. -/
def constantOf? (name : Text) : Option Value :=
  if name = "true".toList ∨ name = "True".toList then some (.bool true)
  else if name = "false".toList ∨ name = "False".toList then some (.bool false)
  else if name = "none".toList ∨ name = "None".toList then some .none
  else none

mutual

/-- Reads an expression: a choice. -/
def read : Nat → List Token → Option (Read Expression)
  | 0, _ => none
  | fuel + 1, tokens => do
    let (e, rest) ← readOr fuel tokens
    readChoices fuel e rest

/-- Reads the choices after an expression. -/
def readChoices : Nat → Expression → List Token → Option (Read Expression)
  | 0, _, _ => none
  | fuel + 1, e, tokens =>
    match tokens with
    | .name ['i', 'f'] :: rest => do
      let (condition, rest) ← readOr fuel rest
      match rest with
      | .name ['e', 'l', 's', 'e'] :: rest =>
        let (no, rest) ← read fuel rest
        readChoices fuel (.choice condition e (some no)) rest
      | rest => readChoices fuel (.choice condition e none) rest
    | tokens => some (e, tokens)

/-- Reads alternatives. -/
def readOr : Nat → List Token → Option (Read Expression)
  | 0, _ => none
  | fuel + 1, tokens => do
    let (e, rest) ← readAnd fuel tokens
    readOrs fuel e rest

/-- Reads the alternatives after an expression. -/
def readOrs : Nat → Expression → List Token → Option (Read Expression)
  | 0, _, _ => none
  | fuel + 1, e, tokens =>
    match tokens with
    | .name ['o', 'r'] :: rest => do
      let (right, rest) ← readAnd fuel rest
      readOrs fuel (.or e right) rest
    | tokens => some (e, tokens)

/-- Reads conjunctions. -/
def readAnd : Nat → List Token → Option (Read Expression)
  | 0, _ => none
  | fuel + 1, tokens => do
    let (e, rest) ← readNot fuel tokens
    readAnds fuel e rest

/-- Reads the conjunctions after an expression. -/
def readAnds : Nat → Expression → List Token → Option (Read Expression)
  | 0, _, _ => none
  | fuel + 1, e, tokens =>
    match tokens with
    | .name ['a', 'n', 'd'] :: rest => do
      let (right, rest) ← readNot fuel rest
      readAnds fuel (.and e right) rest
    | tokens => some (e, tokens)

/-- Reads negations. -/
def readNot : Nat → List Token → Option (Read Expression)
  | 0, _ => none
  | fuel + 1, tokens =>
    match tokens with
    | .name ['n', 'o', 't'] :: rest => do
      let (e, rest) ← readNot fuel rest
      some (.not e, rest)
    | tokens => do
      let (e, rest) ← readLevel fuel levels tokens
      readComparisons fuel e rest

/-- Reads the comparisons after an expression. -/
def readComparisons : Nat → Expression → List Token → Option (Read Expression)
  | 0, _, _ => none
  | fuel + 1, e, tokens => do
    match ← comparison? tokens with
    | none => some (e, tokens)
    | some (operation, negated, rest) =>
      let (right, rest) ← readLevel fuel levels rest
      let compared := Expression.binary operation e right
      readComparisons fuel (if negated then .not compared else compared) rest

/-- Reads operations of the given levels, the loosest first. -/
def readLevel : Nat → List (Token → Option Binary) → List Token → Option (Read Expression)
  | 0, _, _ => none
  | fuel + 1, levels, tokens =>
    match levels with
    | [] => readUnary fuel tokens
    | sign :: tighter => do
      let (e, rest) ← readLevel fuel tighter tokens
      readOperations fuel sign tighter e rest

/-- Reads the operations of one level after an expression. -/
def readOperations : Nat → (Token → Option Binary) → List (Token → Option Binary) → Expression →
    List Token → Option (Read Expression)
  | 0, _, _, _, _ => none
  | fuel + 1, sign, tighter, e, tokens =>
    match tokens with
    | [] => some (e, [])
    | token :: rest =>
      match sign token with
      | none => some (e, token :: rest)
      | some operation => do
        let (right, rest) ← readLevel fuel tighter rest
        readOperations fuel sign tighter (.binary operation e right) rest

/-- Reads an expression without operations but the minus sign, with all that follows it. -/
def readUnary : Nat → List Token → Option (Read Expression)
  | 0, _ => none
  | fuel + 1, tokens => do
    let (e, rest) ← readMinus fuel tokens
    let (e, rest) ← readParts fuel e rest
    readFilters fuel e rest

/-- Reads minus signs and what they apply to. -/
def readMinus : Nat → List Token → Option (Read Expression)
  | 0, _ => none
  | fuel + 1, tokens =>
    match tokens with
    | .sign .minus :: rest => do
      let (e, rest) ← readMinus fuel rest
      some (.negate e, rest)
    | tokens => readPrimary fuel tokens

/-- Reads accesses to parts and calls after an expression. -/
def readParts : Nat → Expression → List Token → Option (Read Expression)
  | 0, _, _ => none
  | fuel + 1, e, tokens =>
    match tokens with
    | .sign .dot :: rest =>
      match rest with
      | .name n :: rest => readParts fuel (.attribute e n) rest
      | .int n :: rest => readParts fuel (.item e (.constant (.int n))) rest
      | _ => none
    | .sign .bracketOpen :: rest => do
      let (e, rest) ← readSubscript fuel e rest
      readParts fuel e rest
    | .sign .parenOpen :: rest => do
      let (arguments, rest) ← readArguments fuel true rest
      readParts fuel (.call e arguments) rest
    | tokens => some (e, tokens)

/-- Reads what stands in brackets after an expression. -/
def readSubscript : Nat → Expression → List Token → Option (Read Expression)
  | 0, _, _ => none
  | fuel + 1, e, tokens => do
    let (start, rest) ← readBound fuel tokens
    match rest with
    | .sign .colon :: rest =>
      let (stop, rest) ← readBound fuel rest
      let (step, rest) ←
        if startsWith .colon rest then readBound fuel rest.tail else some (none, rest)
      let rest ← expect .bracketClose rest
      some (.slice e start stop step, rest)
    | rest =>
      let rest ← expect .bracketClose rest
      let key ← start
      some (.item e key, rest)

/-- Reads an expression that may be left out before a colon or a closing bracket. -/
def readBound : Nat → List Token → Option (Read (Option Expression))
  | 0, _ => none
  | fuel + 1, tokens =>
    if startsWith .colon tokens || startsWith .bracketClose tokens then some (none, tokens)
    else do
      let (e, rest) ← read fuel tokens
      some (some e, rest)

/-- Reads arguments up to the closing parenthesis. A named argument is a map of its name and
value. -/
def readArguments : Nat → Bool → List Token → Option (Read (List Expression))
  | 0, _, _ => none
  | fuel + 1, first, tokens =>
    match tokens with
    | .sign .parenClose :: rest => some ([], rest)
    | tokens => do
      let tokens ← if first then some tokens else expect .comma tokens
      if !first && startsWith .parenClose tokens then some ([], tokens.tail)
      else
        let (e, rest) ← read fuel tokens
        match e, rest with
        | .name n, .sign .assign :: rest =>
          let (value, rest) ← readOr fuel rest
          let (more, rest) ← readArguments fuel false rest
          some (.map [(.constant (.ofText n), value)] :: more, rest)
        | e, rest =>
          let (more, rest) ← readArguments fuel false rest
          some (e :: more, rest)

/-- Reads filters and tests after an expression. -/
def readFilters : Nat → Expression → List Token → Option (Read Expression)
  | 0, _, _ => none
  | fuel + 1, e, tokens =>
    match tokens with
    | .sign .pipe :: rest =>
      match rest with
      | .name n :: rest => do
        let (arguments, rest) ←
          if startsWith .parenOpen rest then readArguments fuel true rest.tail else some ([], rest)
        readFilters fuel (.filter n e arguments) rest
      | _ => none
    | .name ['i', 's'] :: rest =>
      let (negated, rest) :=
        if startsWithName "not" rest then (true, rest.tail) else (false, rest)
      match rest with
      | .name n :: rest => do
        let (arguments, rest) ←
          if startsWith .parenOpen rest then readArguments fuel true rest.tail
          else if startsArgument rest then do
            let (argument, rest) ← readMinus fuel rest
            let (argument, rest) ← readParts fuel argument rest
            some ([argument], rest)
          else some ([], rest)
        let tested := Expression.test n e arguments
        readFilters fuel (if negated then .not tested else tested) rest
      | _ => none
    | tokens => some (e, tokens)

/-- Reads a literal, a name, or an expression in brackets. -/
def readPrimary : Nat → List Token → Option (Read Expression)
  | 0, _ => none
  | fuel + 1, tokens =>
    match tokens with
    | .name n :: rest =>
      match constantOf? n with
      | some value => some (.constant value, rest)
      | none => some (.name n, rest)
    | .text t :: rest => some (.constant (.ofText t), rest)
    | .int n :: rest => some (.constant (.int n), rest)
    | .float x :: rest => some (.constant (.float x), rest)
    | .sign .parenOpen :: rest =>
      if startsWith .parenClose rest then some (.list [], rest.tail)
      else do
        let (e, rest) ← read fuel rest
        match rest with
        | .sign .comma :: rest =>
          let (more, rest) ← readItems fuel .parenClose rest
          some (.list (e :: more), rest)
        | rest =>
          let rest ← expect .parenClose rest
          some (e, rest)
    | .sign .bracketOpen :: rest => do
      let (items, rest) ← readItems fuel .bracketClose rest
      some (.list items, rest)
    | .sign .braceOpen :: rest => do
      let (entries, rest) ← readEntries fuel rest
      some (.map entries, rest)
    | _ => none

/-- Reads the members of a list up to the sign that closes it. A comma may follow the last one. -/
def readItems : Nat → Sign → List Token → Option (Read (List Expression))
  | 0, _, _ => none
  | fuel + 1, close, tokens =>
    if startsWith close tokens then some ([], tokens.tail)
    else do
      let (e, rest) ← read fuel tokens
      match rest with
      | .sign .comma :: rest =>
        let (more, rest) ← readItems fuel close rest
        some (e :: more, rest)
      | rest =>
        let rest ← expect close rest
        some ([e], rest)

/-- Reads the entries of a map up to the closing brace. A comma may follow the last one. -/
def readEntries : Nat → List Token → Option (Read (List (Expression × Expression)))
  | 0, _ => none
  | fuel + 1, tokens =>
    if startsWith .braceClose tokens then some ([], tokens.tail)
    else do
      let (key, rest) ← read fuel tokens
      let rest ← expect .colon rest
      let (value, rest) ← read fuel rest
      match rest with
      | .sign .comma :: rest =>
        let (more, rest) ← readEntries fuel rest
        some ((key, value) :: more, rest)
      | rest =>
        let rest ← expect .braceClose rest
        some ([(key, value)], rest)

end

/-- Fuel that is enough for reading any expression of the given tokens. -/
def fuelFor (tokens : List Token) : Nat := 24 * (tokens.length + 1)

/-- Reads an expression that all tokens belong to. -/
def readWhole (tokens : List Token) : Option Expression := do
  let (e, rest) ← read (fuelFor tokens) tokens
  if rest.isEmpty then some e else none

end Expression

namespace Statement

open Expression (Read)

/-- The names that nothing can be given. -/
def reserved : List Text :=
  ["true", "True", "false", "False", "none", "None", "loop", "self"].map String.toList

/-- A name that something can be given. -/
def assignable? (name : Text) : Option Text := if reserved.contains name then none else some name

/-- Reads names with commas between them, in parentheses or not. -/
def readNames : Nat → List Token → Option (Read (List Text))
  | 0, _ => none
  | fuel + 1, tokens =>
    match tokens with
    | .sign .parenOpen :: rest => do
      let (names, rest) ← readNames fuel rest
      let rest ← Expression.expect .parenClose rest
      some (names, rest)
    | .name name :: rest => do
      let name ← assignable? name
      match rest with
      | .sign .comma :: rest =>
        match rest with
        | .name ['i', 'n'] :: _ | .sign _ :: _ | [] => some ([name], rest)
        | rest =>
          let (more, rest) ← readNames fuel rest
          some (name :: more, rest)
      | rest => some ([name], rest)
    | _ => none

/-- Reads a chain of filters, the first sign of which is already read. -/
def readFilterChain : Nat → List Token → Option (Read (List (Text × List Expression)))
  | 0, _ => none
  | fuel + 1, tokens =>
    match tokens with
    | .name name :: rest => do
      let (arguments, rest) ←
        if Expression.startsWith .parenOpen rest then
          Expression.readArguments (Expression.fuelFor rest) true rest.tail
        else some ([], rest)
      match rest with
      | .sign .pipe :: rest =>
        let (more, rest) ← readFilterChain fuel rest
        some ((name, arguments) :: more, rest)
      | rest => some ([(name, arguments)], rest)
    | _ => none

/-- What a statement that assigns says: a whole one, or the beginning of a capture. -/
inductive Assignment where
  | whole (statement : Statement)
  | captureStart (name : Text) (filters : List (Text × List Expression))

/-- Reads the rest of a statement that assigns. -/
def readAssignment (tokens : List Token) : Option Assignment :=
  match tokens with
  | .name name :: [] => do
    let name ← assignable? name
    some (.captureStart name [])
  | .name name :: .sign .pipe :: rest => do
    let name ← assignable? name
    let (filters, rest) ← readFilterChain (rest.length + 1) rest
    if rest.isEmpty then some (.captureStart name filters) else none
  | tokens => do
    let (names, rest) ← readNames (tokens.length + 1) tokens
    let rest ← Expression.expect .assign rest
    let value ← Expression.readWhole rest
    some (.whole (.assign names value))

/-- What a loop says before its body: names, source and test. -/
def readLoopHead (tokens : List Token) : Option (List Text × Expression × Option Expression) := do
  let (names, rest) ← readNames (tokens.length + 1) tokens
  match rest with
  | .name ['i', 'n'] :: rest =>
    let (source, rest) ← Expression.readOr (Expression.fuelFor rest) rest
    match rest with
    | .name ['i', 'f'] :: rest =>
      let test ← Expression.readWhole rest
      some (names, source, some test)
    | [] => some (names, source, none)
    | _ => none
  | _ => none

/-- What reading statements yields: the statements, the words of the statement that ended them if
there was one, and the segments after it. -/
abbrev Block := List Statement × Option (Text × List Token) × List Segment

mutual

/-- Reads statements up to one that begins with a word of `stops`. -/
def readBlock : Nat → List Text → List Segment → Option Block
  | 0, _, _ => none
  | fuel + 1, stops, segments =>
    match segments with
    | [] => some ([], none, [])
    | .text t :: rest => do
      let (more, stop, rest) ← readBlock fuel stops rest
      some (.text t :: more, stop, rest)
    | .expression tokens :: rest => do
      let e ← Expression.readWhole tokens
      let (more, stop, rest) ← readBlock fuel stops rest
      some (.emit e :: more, stop, rest)
    | .statement (.name word :: tokens) :: rest =>
      if stops.contains word then some ([], some (word, tokens), rest)
      else do
        let (statement, rest) ← readStatement fuel word tokens rest
        let (more, stop, rest) ← readBlock fuel stops rest
        some (statement :: more, stop, rest)
    | .statement _ :: _ => none

/-- Reads a statement that begins with a word, with its body. -/
def readStatement : Nat → Text → List Token → List Segment → Option (Statement × List Segment)
  | 0, _, _, _ => none
  | fuel + 1, word, tokens, segments =>
    if word = "if".toList then readChoice fuel tokens segments
    else if word = "for".toList then do
      let (names, source, test) ← readLoopHead tokens
      let (body, stop, rest) ← readBlock fuel (["endfor", "else"].map String.toList) segments
      match stop with
      | some (['e', 'n', 'd', 'f', 'o', 'r'], []) => some (.loop names source test body [], rest)
      | some (['e', 'l', 's', 'e'], []) =>
        let (otherwise, stop, rest) ← readBlock fuel ["endfor".toList] rest
        match stop with
        | some (_, []) => some (.loop names source test body otherwise, rest)
        | _ => none
      | _ => none
    else if word = "set".toList then do
      match ← readAssignment tokens with
      | .whole statement => some (statement, segments)
      | .captureStart name filters =>
        let (body, stop, rest) ← readBlock fuel ["endset".toList] segments
        match stop with
        | some (_, []) => some (.capture name filters body, rest)
        | _ => none
    else none

/-- Reads a choice, of which the first word is already read. -/
def readChoice : Nat → List Token → List Segment → Option (Statement × List Segment)
  | 0, _, _ => none
  | fuel + 1, tokens, segments => do
    let test ← Expression.readWhole tokens
    let (yes, stop, rest) ←
      readBlock fuel (["endif", "else", "elif"].map String.toList) segments
    match stop with
    | some (['e', 'n', 'd', 'i', 'f'], []) => some (.choice test yes [], rest)
    | some (['e', 'l', 's', 'e'], []) =>
      let (no, stop, rest) ← readBlock fuel ["endif".toList] rest
      match stop with
      | some (_, []) => some (.choice test yes no, rest)
      | _ => none
    | some (['e', 'l', 'i', 'f'], tokens) =>
      let (more, rest) ← readChoice fuel tokens rest
      some (.choice test yes [more], rest)
    | _ => none

end

/-- Reads a template. -/
def readTemplate (source : Text) : Option (List Statement) := do
  let segments ← Segment.scan source
  let (statements, stop, _) ← readBlock (2 * segments.length + 2) [] segments
  if stop.isNone then some statements else none

end Statement

end Tangle.Stencil
