import Tangle.Toml.Scalar

/-!
# Reading a settings file

A settings file is a list of statements, each on a line of its own: headers, and pairs of a key and
a value. Strings, arrays and inline tables may spread over lines.

Every reader takes text and gives back the text after what it has read. Line ends of two characters
are made single ones before.
-/

namespace Tangle.Toml

/-! ## Blanks and comments -/

/-- The characters that may stand nowhere, not even in strings and comments. Line feeds are among
them where a line may not end. -/
def isForbidden (c : Char) : Bool := (c < ' ' && c ≠ '\t') || c = '\x7F'

/-- Line ends of two characters as single line feeds. -/
def withLineFeeds : Text → Text
  | '\r' :: '\n' :: rest => '\n' :: withLineFeeds rest
  | c :: rest => c :: withLineFeeds rest
  | [] => []

/-- Drops blanks. -/
def skipBlanks (text : Text) : Text := text.dropWhile isSpaceOrTab

/-- Drops blanks, line feeds and comments. -/
def skipTrivia (comment : Bool) : Text → Option Text
  | [] => some []
  | c :: rest =>
    if c = '\n' then skipTrivia false rest
    else if comment then if isForbidden c then none else skipTrivia true rest
    else if c = '#' then skipTrivia true rest
    else if isSpaceOrTab c then skipTrivia false rest
    else some (c :: rest)

/-- Drops what may stand between a statement and the end of its line. -/
def skipLineEnd (text : Text) : Option Text :=
  match skipBlanks text with
  | [] => some []
  | '\n' :: rest => some rest
  | '#' :: rest => skipTrivia true rest
  | _ => none

/-! ## Strings -/

/-- The character that a letter stands for after a backslash. -/
def escape? (c : Char) : Option Char :=
  if c = 'b' then some '\x08'
  else if c = 't' then some '\t'
  else if c = 'n' then some '\n'
  else if c = 'f' then some '\x0C'
  else if c = 'r' then some '\r'
  else if c = 'e' then some '\x1B'
  else if c = '"' || c = '\\' then some c
  else none

/-- If the text begins with the three quotes that close a string of several lines: the quotes before
them, which belong to the string, and the text after them. -/
def closing? (quote : Char) : Text → Option (Text × Text)
  | a :: b :: c :: rest =>
    if a = quote && b = quote && c = quote then
      let more := (rest.take 2).takeWhile (· = quote)
      some (more, rest.drop more.length)
    else none
  | _ => none

/-- Reads the rest of a string in double quotes on one line. -/
def readBasic : Text → Option (Text × Text)
  | [] => none
  | '"' :: rest => some ([], rest)
  | '\\' :: 'x' :: a :: b :: rest => do
    let c ← Text.charOfHex? [a, b]
    let (more, rest) ← readBasic rest
    some (c :: more, rest)
  | '\\' :: 'u' :: a :: b :: c :: d :: rest => do
    let c ← Text.charOfHex? [a, b, c, d]
    let (more, rest) ← readBasic rest
    some (c :: more, rest)
  | '\\' :: 'U' :: a :: b :: c :: d :: e :: f :: g :: h :: rest => do
    let c ← Text.charOfHex? [a, b, c, d, e, f, g, h]
    let (more, rest) ← readBasic rest
    some (c :: more, rest)
  | '\\' :: c :: rest => do
    let c ← escape? c
    let (more, rest) ← readBasic rest
    some (c :: more, rest)
  | c :: rest =>
    if isForbidden c || c = '\\' then none
    else do
      let (more, rest) ← readBasic rest
      some (c :: more, rest)

/-- Reads the rest of a string in single quotes on one line. -/
def readLiteral : Text → Option (Text × Text)
  | [] => none
  | c :: rest =>
    if c = '\'' then some ([], rest)
    else if isForbidden c then none
    else do
      let (more, rest) ← readLiteral rest
      some (c :: more, rest)

/-- Reads the rest of a string of several lines in double quotes. While `skipping`, blanks and line
feeds are dropped: a backslash at the end of a line asks for that. -/
def readBasicLines (skipping : Bool) : Text → Option (Text × Text)
  | [] => none
  | '\\' :: 'x' :: a :: b :: rest => do
    let c ← Text.charOfHex? [a, b]
    let (more, rest) ← readBasicLines false rest
    some (c :: more, rest)
  | '\\' :: 'u' :: a :: b :: c :: d :: rest => do
    let c ← Text.charOfHex? [a, b, c, d]
    let (more, rest) ← readBasicLines false rest
    some (c :: more, rest)
  | '\\' :: 'U' :: a :: b :: c :: d :: e :: f :: g :: h :: rest => do
    let c ← Text.charOfHex? [a, b, c, d, e, f, g, h]
    let (more, rest) ← readBasicLines false rest
    some (c :: more, rest)
  | '\\' :: c :: rest =>
    if (skipBlanks (c :: rest)).head? = some '\n' then readBasicLines true rest
    else do
      let c ← escape? c
      let (more, rest) ← readBasicLines false rest
      some (c :: more, rest)
  | c :: rest =>
    match closing? '"' (c :: rest) with
    | some ended => some ended
    | none =>
      if skipping && (isSpaceOrTab c || c = '\n') then readBasicLines true rest
      else if (isForbidden c && c ≠ '\n') || c = '\\' then none
      else do
        let (more, rest) ← readBasicLines false rest
        some (c :: more, rest)

/-- Reads the rest of a string of several lines in single quotes. -/
def readLiteralLines : Text → Option (Text × Text)
  | [] => none
  | c :: rest =>
    match closing? '\'' (c :: rest) with
    | some ended => some ended
    | none =>
      if isForbidden c && c ≠ '\n' then none
      else do
        let (more, rest) ← readLiteralLines rest
        some (c :: more, rest)

/-- Drops a line feed right after the quotes that open a string of several lines. -/
def skipFirstLineFeed : Text → Text
  | '\n' :: rest => rest
  | text => text

/-- Reads a string. -/
def readString : Text → Option (Text × Text)
  | '"' :: '"' :: '"' :: rest => readBasicLines false (skipFirstLineFeed rest)
  | '\'' :: '\'' :: '\'' :: rest => readLiteralLines (skipFirstLineFeed rest)
  | '"' :: rest => readBasic rest
  | '\'' :: rest => readLiteral rest
  | _ => none

/-! ## Keys -/

/-- The characters of a name without quotes. -/
def isNameCharacter (c : Char) : Bool := isWordCharacter c || c = '-'

/-- Reads one name of a key. -/
def readName : Text → Option (Text × Text)
  | '"' :: rest => readBasic rest
  | '\'' :: rest => readLiteral rest
  | text =>
    let name := text.takeWhile isNameCharacter
    if name.isEmpty then none else some (name, text.dropWhile isNameCharacter)

/-- Reads a key: names with dots between them. The fuel bounds their number. -/
def readKey : Nat → Text → Option (Key × Text)
  | 0, _ => none
  | fuel + 1, text => do
    let (name, rest) ← readName (skipBlanks text)
    match skipBlanks rest with
    | '.' :: rest =>
      let (key, rest) ← readKey fuel rest
      some ({ key with path := name :: key.path }, rest)
    | rest => some (⟨[], name⟩, rest)

/-- Reads a key and the sign that separates it from its value. -/
def readPairKey (text : Text) : Option (Key × Text) := do
  let (key, rest) ← readKey (text.length + 1) text
  match rest with
  | '=' :: rest => some (key, skipBlanks rest)
  | _ => none

/-! ## Values -/

/-- The characters of a value without quotes. -/
def isUnquoted (c : Char) : Bool :=
  isNameCharacter c || c = '+' || c = '.' || c = ':'

/-- Reads a value without quotes. A blank may stand between a date and a time. -/
def readUnquoted (text : Text) : Option (Value × Text) :=
  let word := text.takeWhile isUnquoted
  let rest := text.dropWhile isUnquoted
  let (word, rest) :=
    match rest with
    | ' ' :: d :: rest =>
      if (afterDate? word).any List.isEmpty && isDigit d then
        (word ++ ' ' :: (d :: rest).takeWhile isUnquoted, (d :: rest).dropWhile isUnquoted)
      else (word, ' ' :: d :: rest)
    | rest => (word, rest)
  (Value.ofUnquoted? word).map fun value => (value, rest)

mutual

/-- Reads a value that lies in no more than `depth` further brackets. -/
def readValue : Nat → Nat → Text → Option (Value × Text)
  | 0, _, _ => none
  | fuel + 1, depth, text =>
    match text, depth with
    | '[' :: _, 0 => none
    | '{' :: _, 0 => none
    | '[' :: rest, depth + 1 => do
      let (items, rest) ← readItems fuel depth rest
      some (.array items, rest)
    | '{' :: rest, depth + 1 => do
      let (pairs, rest) ← readPairs fuel depth rest
      let table ← inlineTable pairs
      some (table, rest)
    | '"' :: _, _ | '\'' :: _, _ => do
      let (t, rest) ← readString text
      some (.string t, rest)
    | _, _ => readUnquoted text

/-- Reads the members of an array up to the bracket that closes it. A comma may follow the last
one. -/
def readItems : Nat → Nat → Text → Option (List Value × Text)
  | 0, _, _ => none
  | fuel + 1, depth, text => do
    match ← skipTrivia false text with
    | ']' :: rest => some ([], rest)
    | text =>
      let (item, rest) ← readValue fuel depth text
      match ← skipTrivia false rest with
      | ']' :: rest => some ([item], rest)
      | ',' :: rest =>
        let (more, rest) ← readItems fuel depth rest
        some (item :: more, rest)
      | _ => none

/-- Reads the pairs of an inline table up to the brace that closes it. A comma may follow the last
one. -/
def readPairs : Nat → Nat → Text → Option (List (Key × Value) × Text)
  | 0, _, _ => none
  | fuel + 1, depth, text => do
    match ← skipTrivia false text with
    | '\x7d' :: rest => some ([], rest)
    | text =>
      let (key, rest) ← readPairKey text
      let (value, rest) ← readValue fuel depth rest
      match ← skipTrivia false rest with
      | '\x7d' :: rest => some ([(key, value)], rest)
      | ',' :: rest =>
        let (more, rest) ← readPairs fuel depth rest
        some ((key, value) :: more, rest)
      | _ => none

end

/-! ## Statements -/

/-- The number of brackets that may lie around a value. -/
def depthBound : Nat := 80

/-- Drops a text from the front of another. -/
def expect (sign text : Text) : Option Text := text.afterStart? sign

/-- Reads a statement. -/
def readStatement (text : Text) : Option (Statement × Text) :=
  match text with
  | '[' :: '[' :: rest => do
    let (key, rest) ← readKey (rest.length + 1) rest
    let rest ← expect "]]".toList rest
    some (.nextHeader key, rest)
  | '[' :: rest => do
    let (key, rest) ← readKey (rest.length + 1) rest
    let rest ← expect "]".toList rest
    some (.header key, rest)
  | text => do
    let (key, rest) ← readPairKey text
    let (value, rest) ← readValue (2 * text.length + 2) depthBound rest
    some (.pair key value, rest)

/-- Reads statements up to the end. The fuel bounds their number. -/
def readStatements : Nat → Text → Option (List Statement)
  | 0, _ => none
  | fuel + 1, text => do
    match ← skipTrivia false text with
    | [] => some []
    | text =>
      let (statement, rest) ← readStatement text
      let rest ← skipLineEnd rest
      let more ← readStatements fuel rest
      some (statement :: more)

/-- The entries of a settings file. A byte order mark may stand at its front. -/
def read (text : Text) : Option Entries := do
  let text := withLineFeeds ((text.afterStart? ['\uFEFF']).getD text)
  let statements ← readStatements (text.length + 1) text
  Document.ofStatements statements

end Tangle.Toml
