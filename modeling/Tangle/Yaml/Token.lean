import Tangle.Text.Utf8
import Tangle.Yaml.Scalar

/-!
# Tokens of YAML

The text of a document as a list of tokens. Indentation becomes tokens of its own: one where a block
collection begins, and one where it ends. A word before a colon turns out to be a key only when the
colon is met; its token is then put before that of the word. So the scanner remembers the last place
where a key may begin, one for each flow collection around it.
-/

namespace Tangle.Yaml

/-- How a scalar is written. -/
inductive Style where
  | plain
  | singleQuoted
  | doubleQuoted
  | literal
  | folded
  deriving Repr, DecidableEq

/-- A token. -/
inductive Token where
  | version (major minor : Nat)
  | tagHandle (handle start : Text)
  | documentStart
  | documentEnd
  | blockSequenceStart
  | blockMappingStart
  | blockEnd
  | flowSequenceStart
  | flowSequenceEnd
  | flowMappingStart
  | flowMappingEnd
  | blockEntry
  | flowEntry
  | key
  | value
  | reference (name : Text)
  | anchor (name : Text)
  | tag (handle suffix : Text)
  | scalar (text : Text) (style : Style)
  deriving Repr, DecidableEq

/-! ## Names, tags and directives -/

/-- The characters of anchors and tag handles. -/
def isNameCharacter (c : Char) : Bool := isWordCharacter c || c = '-'

/-- Drops a character from the front of what follows a place. -/
def expect (c : Char) (place : Place) : Option Place :=
  if place.rest.head? = some c then some (place.skip 1) else none

/-- Reads the name of an anchor or alias, after the sign in front. -/
def readName (place : Place) : Option (Text × Place) :=
  let name := place.rest.takeWhile isNameCharacter
  let place := place.skipWhile isNameCharacter
  if name.isEmpty then none
  else if atGap place.rest || place.rest.head?.any ("?:,]\x7d%@\x60".toList.contains ·) then
    some (name, place)
  else none

/-- The characters of a tag. In a verbatim tag there are a few more. -/
def isTagCharacter (verbatim : Bool) (c : Char) : Bool :=
  isNameCharacter c || ";/?:@&=+$.%!~*'()".toList.contains c ||
    (verbatim && ",[]".toList.contains c)

/-- The octets that hexadecimal escapes write; other characters are taken as their octets. -/
def escapedOctets : Text → Option (List UInt8)
  | '%' :: a :: b :: rest =>
    if isHexDigit a && isHexDigit b then
      (escapedOctets rest).map ((Text.hexValue [a, b]).toUInt8 :: ·)
    else none
  | c :: rest =>
    if c = '%' then none else (escapedOctets rest).map (c.toNat.toUInt8 :: ·)
  | [] => some []

/-- Reads the characters of a tag after `front`. Together they are not empty. -/
def readTagText (verbatim : Bool) (front : Text) (place : Place) : Option (Text × Place) := do
  let text := place.rest.takeWhile (isTagCharacter verbatim)
  if front.isEmpty && text.isEmpty then none
  else
    let spelled ← (escapedOctets text).bind Utf8.text?
    some (front.drop 1 ++ spelled, place.skipWhile (isTagCharacter verbatim))

/-- Reads a tag handle: an exclamation mark, and perhaps a name with a second one. -/
def readHandle (place : Place) : Option (Text × Place) := do
  let place ← expect '!' place
  let name := place.rest.takeWhile isNameCharacter
  let place := place.skipWhile isNameCharacter
  match expect '!' place with
  | some place => some ('!' :: name ++ ['!'], place)
  | none => some ('!' :: name, place)

/-- Reads a tag. -/
def readTag (flow : Bool) (place : Place) : Option (Token × Place) := do
  let (token, place) ←
    match place.rest with
    | '!' :: '<' :: _ => do
      let (suffix, place) ← readTagText true [] (place.skip 2)
      let place ← expect '>' place
      some (Token.tag [] suffix, place)
    | _ => do
      let (handle, place) ← readHandle place
      if 1 < handle.length && handle.getLast? = some '!' then do
        let (suffix, place) ← readTagText false [] place
        some (Token.tag handle suffix, place)
      else do
        let (suffix, place) ← readTagText false handle place
        some (if suffix.isEmpty then .tag [] ['!'] else .tag ['!'] suffix, place)
  if atGap place.rest || (flow && place.rest.head? = some ',') then some (token, place) else none

/-- Reads a number of at most nine digits. -/
def readNumber (place : Place) : Option (Nat × Place) :=
  let digits := place.rest.takeWhile isDigit
  if digits.isEmpty || 9 < digits.length then none
  else some (Text.digitsValue digits, place.skip digits.length)

/-- Reads a directive, up to the end of its line. -/
def readDirective (place : Place) : Option (Token × Place) := do
  let place := place.skip 1
  let name := place.rest.takeWhile isNameCharacter
  let place := place.skipWhile isNameCharacter
  if !atGap place.rest then none
  else
    let place := place.skipWhile isSpaceOrTab
    let (token, place) ←
      if name = "YAML".toList then do
        let (major, place) ← readNumber place
        let (minor, place) ← expect '.' place >>= readNumber
        some (Token.version major minor, place)
      else if name = "TAG".toList then do
        let (handle, place) ← readHandle place
        if handle.length ≠ 1 && handle.getLast? ≠ some '!' then none
        else if !place.rest.head?.any isSpaceOrTab then none
        else
          let (start, place) ← readTagText true [] (place.skipWhile isSpaceOrTab)
          if atGap place.rest then some (Token.tagHandle handle start, place) else none
      else none
    let place ← place.skipLineEnd
    some (token, place)

/-! ## The scanner -/

/-- A place where a key may begin: the number of tokens before it, its line and its column, and
whether it must be a key for the document to be well formed. -/
structure KeyStart where
  before : Nat
  line : Nat
  column : Nat
  required : Bool
  deriving Repr, DecidableEq

/-- The greatest number of columns between the start of a key and its colon. -/
def keyBound : Nat := 1024

/-- Whether a key that began at a place may still end at a line and column. -/
def KeyStart.isRecent (start : KeyStart) (place : Place) : Bool :=
  start.line = place.line && place.column ≤ start.column + keyBound

/-- A document that is scanned in part. -/
structure Scanner where
  place : Place
  /-- The tokens so far, the last one first. -/
  tokens : List Token := []
  /-- The columns of the block collections around the place, the innermost one first. -/
  indents : List Nat := []
  /-- Where a key may have begun in the innermost collection. -/
  keyStart : Option KeyStart := none
  /-- Where a key may have begun around each flow collection, the innermost one first. -/
  outerStarts : List (Option KeyStart) := []
  /-- Whether a key may begin here. -/
  keyAllowed : Bool := true
  deriving Repr

namespace Scanner

/-- Whether a flow collection is open. -/
def inFlow (s : Scanner) : Bool := !s.outerStarts.isEmpty

/-- The least column at which something inside the innermost block collection stands. -/
def margin (s : Scanner) : Nat :=
  match s.indents with
  | [] => 0
  | indent :: _ => indent + 1

/-- Adds a token. -/
def emit (s : Scanner) (token : Token) : Scanner := { s with tokens := token :: s.tokens }

/-- Puts a token before others: `before` tokens stay in front of it. -/
def insert (s : Scanner) (before : Nat) (token : Token) : Scanner :=
  let later := s.tokens.length - before
  { s with tokens := s.tokens.take later ++ token :: s.tokens.drop later }

/-- Ends the block collections whose columns lie right of `margin` or at it. -/
def closeBlocks (margin : Nat) (s : Scanner) : Scanner :=
  if s.inFlow then s
  else
    let closed := s.indents.takeWhile (margin ≤ ·)
    { s with
      indents := s.indents.drop closed.length
      tokens := List.replicate closed.length .blockEnd ++ s.tokens }

/-- Begins a block collection at a column, unless one has begun there already. -/
def openBlock (column before : Nat) (token : Token) (s : Scanner) : Scanner :=
  if s.inFlow || column < s.margin then s
  else { s.insert before token with indents := column :: s.indents }

/-- Gives up the place where a key may have begun. -/
def dropKey (s : Scanner) : Option Scanner :=
  if s.keyStart.any (·.required) then none else some { s with keyStart := none }

/-- Remembers this place as one where a key may begin. -/
def saveKey (s : Scanner) : Option Scanner :=
  if s.keyAllowed then do
    let s ← s.dropKey
    let required := !s.inFlow && s.indents.head? = some s.place.column
    some { s with keyStart := some ⟨s.tokens.length, s.place.line, s.place.column, required⟩ }
  else some s

/-- Passes over blanks, comments and line ends. Tabs do not count as blanks where a key may begin in
a block. The fuel bounds the number of lines. -/
def skipTrivia : Nat → Scanner → Scanner
  | 0, s => s
  | fuel + 1, s =>
    let isSkipped (c : Char) : Bool := c = ' ' || (c = '\t' && (s.inFlow || !s.keyAllowed))
    let place := (s.place.skipWhile isSkipped).skipComment
    match place.rest with
    | c :: rest =>
      if isBreak c then
        skipTrivia fuel { s with
          place := ⟨rest, place.line + 1, 0⟩
          keyAllowed := s.keyAllowed || !s.inFlow }
      else { s with place }
    | [] => { s with place }

/-- Adds a token of some characters. -/
def emitSigns (count : Nat) (token : Token) (s : Scanner) : Scanner :=
  { s.emit token with place := s.place.skip count }

/-- Adds a token that was read, which may be part of a key. -/
def emitRead (read : Place → Option (Token × Place)) (s : Scanner) : Option Scanner := do
  let s ← s.saveKey
  let (token, place) ← read s.place
  some { s.emit token with place, keyAllowed := false }

/-- Adds a scalar that was read, which may be a key. -/
def emitScalar (style : Style) (reading : Option Reading) (s : Scanner) : Option Scanner := do
  let s ← s.saveKey
  let reading ← reading
  some { s.emit (.scalar reading.text style) with
    place := reading.place, keyAllowed := reading.lineEnded }

/-- Scans a block of lines. -/
def scanBlock (literal : Bool) (s : Scanner) : Option Scanner := do
  let s ← s.dropKey
  let reading ← readBlock literal s.margin (s.place.skip 1)
  some { s.emit (.scalar reading.text (if literal then .literal else .folded)) with
    place := reading.place, keyAllowed := true }

/-- Scans the opening bracket of a flow collection. -/
def openFlow (token : Token) (s : Scanner) : Option Scanner := do
  let s ← s.saveKey
  some <| emitSigns 1 token
    { s with outerStarts := s.keyStart :: s.outerStarts, keyStart := none, keyAllowed := true }

/-- Scans the closing bracket of a flow collection. -/
def closeFlow (token : Token) (s : Scanner) : Option Scanner := do
  let s ← s.dropKey
  some <| emitSigns 1 token { s with
    outerStarts := s.outerStarts.tail, keyStart := s.outerStarts.head?.join, keyAllowed := false }

/-- Scans a comma between the members of a flow collection. -/
def scanComma (s : Scanner) : Option Scanner := do
  let s ← s.dropKey
  some (emitSigns 1 .flowEntry { s with keyAllowed := true })

/-- Scans the dash of a member of a block sequence. -/
def scanDash (s : Scanner) : Option Scanner :=
  if !s.inFlow && !s.keyAllowed then none
  else do
    let s ← (s.openBlock s.place.column s.tokens.length .blockSequenceStart).dropKey
    some (emitSigns 1 .blockEntry { s with keyAllowed := true })

/-- Scans the question mark of a key. -/
def scanQuestion (s : Scanner) : Option Scanner :=
  if !s.inFlow && !s.keyAllowed then none
  else do
    let s ← (s.openBlock s.place.column s.tokens.length .blockMappingStart).dropKey
    some (emitSigns 1 .key { s with keyAllowed := !s.inFlow })

/-- Scans the colon before a value. What lies before it on the line can turn out to be the key. -/
def scanColon (s : Scanner) : Option Scanner :=
  match s.keyStart.filter (·.isRecent s.place) with
  | some start =>
    let s := (s.insert start.before .key).openBlock start.column start.before .blockMappingStart
    some (emitSigns 1 .value { s with keyStart := none, keyAllowed := false })
  | none =>
    if s.keyStart.any (·.required) || (!s.inFlow && !s.keyAllowed) then none
    else
      let s := s.openBlock s.place.column s.tokens.length .blockMappingStart
      some (emitSigns 1 .value { s with keyStart := none, keyAllowed := !s.inFlow })

/-- Scans what stands at the beginning of a line outside all collections. -/
def scanOutside (scan : Scanner → Option Scanner) (s : Scanner) : Option Scanner := do
  let s ← (s.closeBlocks 0).dropKey
  scan { s with keyAllowed := false }

/-- Scans a directive. -/
def scanDirective (s : Scanner) : Option Scanner := do
  let (token, place) ← readDirective s.place
  some { s.emit token with place }

/-- Whether a character can begin a plain scalar, given what follows it. -/
def beginsPlain (flow : Bool) (c : Char) (rest : Text) : Bool :=
  if c = '-' then !rest.head?.any isSpaceOrTab
  else if c = '?' || c = ':' then !flow && !atGap rest
  else !isSpaceOrTab c && !isBreak c && !isFlowSign c && !"#&*!|>'\"%@\x60".toList.contains c

/-- Scans the token that begins with a character. -/
def scanToken (c : Char) (rest : Text) (s : Scanner) : Option Scanner :=
  let ⟨_, line, column⟩ := s.place
  if column = 0 && c = '%' then s.scanOutside scanDirective
  else if column = 0 && startsWithMark (c :: rest) then
    s.scanOutside fun s =>
      some (s.emitSigns 3 (if c = '-' then .documentStart else .documentEnd))
  else if c = '[' then s.openFlow .flowSequenceStart
  else if c = '\x7b' then s.openFlow .flowMappingStart
  else if c = ']' then s.closeFlow .flowSequenceEnd
  else if c = '\x7d' then s.closeFlow .flowMappingEnd
  else if c = ',' then s.scanComma
  else if c = '-' && atGap rest then s.scanDash
  else if c = '?' && (s.inFlow || atGap rest) then s.scanQuestion
  else if c = ':' && (s.inFlow || atGap rest) then s.scanColon
  else if c = '*' then s.emitRead fun place => do
    let (name, place) ← readName (place.skip 1)
    some (.reference name, place)
  else if c = '&' then s.emitRead fun place => do
    let (name, place) ← readName (place.skip 1)
    some (.anchor name, place)
  else if c = '!' then s.emitRead (readTag s.inFlow)
  else if c = '|' && !s.inFlow then s.scanBlock true
  else if c = '>' && !s.inFlow then s.scanBlock false
  else if c = '\'' then s.emitScalar .singleQuoted (readSingle .none line (column + 1) rest)
  else if c = '"' then s.emitScalar .doubleQuoted (readDouble .none line (column + 1) rest)
  else if beginsPlain s.inFlow c rest then
    s.emitScalar .plain (readPlain s.inFlow s.margin .none line column (c :: rest))
  else none

/-- Scans up to the end. The fuel bounds the number of tokens that the text has signs for. -/
def scanAll : Nat → Scanner → Option (List Token)
  | 0, _ => none
  | fuel + 1, s =>
    let s := skipTrivia (s.place.rest.length + 1) s
    let s := s.closeBlocks (s.place.column + 1)
    match s.place.rest with
    | [] => (s.closeBlocks 0).dropKey.map fun s => s.tokens.reverse
    | c :: rest => do
      let s ← s.scanToken c rest
      scanAll fuel s

end Scanner

/-- The characters that may occur in a document. -/
def isAllowed (c : Char) : Bool :=
  let n := c.toNat
  n = 0x09 || n = 0x0A || n = 0x0D || (0x20 ≤ n && n ≤ 0x7E) || n = 0x85 ||
    (0xA0 ≤ n && n ≤ 0xFFFD && n ≠ 0xFEFF) || 0x10000 ≤ n

/-- Line ends as single line feeds, except for the separators of lines and paragraphs. -/
def withLineFeeds : Text → Text
  | '\r' :: '\n' :: rest => '\n' :: withLineFeeds rest
  | c :: rest => (if c = '\r' || c = '\u0085' then '\n' else c) :: withLineFeeds rest
  | [] => []

/-- The tokens of a text. A byte order mark may stand at its front. -/
def scan (text : Text) : Option (List Token) :=
  let text := (text.afterStart? ['\uFEFF']).getD text
  if text.all isAllowed then
    Scanner.scanAll (text.length + 1) { place := ⟨withLineFeeds text, 0, 0⟩ }
  else none

end Tangle.Yaml
