import Tangle.Text

/-!
# Scalars in YAML

The ways to write a text: plain, in quotes, or as a block of indented lines. Plain and quoted texts
can go over several lines; what lies between two of their words is a gap, which a fold turns into
blanks or line feeds.

All readers keep track of the line and the column where they are. Before reading, line ends are made
line feeds, except for the two separators of lines and paragraphs.
-/

namespace Tangle.Yaml

/-! ## Characters -/

/-- The characters that end a line, once line ends are made line feeds. -/
def isBreak (c : Char) : Bool := c = '\n' || c = '\u2028' || c = '\u2029'

/-- Whether a text is at its end, or a blank or a line end follows. -/
def atGap : Text → Bool
  | [] => true
  | c :: _ => isSpaceOrTab c || isBreak c

/-- Whether a text begins with the mark of a document's start or end. -/
def startsWithMark : Text → Bool
  | '-' :: '-' :: '-' :: rest => atGap rest
  | '.' :: '.' :: '.' :: rest => atGap rest
  | _ => false

/-- The brackets and the comma of flow collections. -/
def isFlowSign (c : Char) : Bool :=
  c = ',' || c = '[' || c = ']' || c = '\x7b' || c = '\x7d'

/-- A place in a text: what follows it, its line, and its column. -/
structure Place where
  rest : Text
  line : Nat
  column : Nat
  deriving Repr, DecidableEq

namespace Place

/-- The place after the characters at the front that satisfy `p`, none of which ends a line. -/
def skipWhile (place : Place) (p : Char → Bool) : Place :=
  { place with
    rest := place.rest.dropWhile p
    column := place.column + (place.rest.takeWhile p).length }

/-- The place after some characters, none of which ends a line. -/
def skip (place : Place) (count : Nat) : Place :=
  { place with rest := place.rest.drop count, column := place.column + count }

/-- The place after a comment, if one is here. -/
def skipComment (place : Place) : Place :=
  if place.rest.head? = some '#' then place.skipWhile (!isBreak ·) else place

/-- The place after the end of the line, where blanks and a comment may stand before it. -/
def skipLineEnd (place : Place) : Option Place :=
  let place := (place.skipWhile isSpaceOrTab).skipComment
  match place.rest with
  | [] => some place
  | c :: rest => if isBreak c then some ⟨rest, place.line + 1, 0⟩ else none

end Place

/-! ## Gaps -/

/-- What lies between two words of a text. -/
inductive Gap where
  /-- Blanks on one line, or nothing. -/
  | blanks (within : Text)
  /-- The line ends after the first one, which itself is missing if a backslash hides it. -/
  | breaks (first : Option Char) (more : Text)
  deriving Repr, DecidableEq

namespace Gap

/-- The gap inside a word. -/
def none : Gap := .blanks []

/-- Whether two words are apart. -/
def isOpen : Gap → Bool
  | .blanks within => !within.isEmpty
  | .breaks .. => true

/-- Whether a gap goes over a line end. -/
def crossesLines : Gap → Bool
  | .blanks _ => false
  | .breaks .. => true

/-- A gap with a further blank. -/
def addBlank (c : Char) : Gap → Gap
  | .blanks within => .blanks (within ++ [c])
  | gap => gap

/-- A gap with a further line end. -/
def addBreak (c : Char) : Gap → Gap
  | .blanks _ => .breaks (some c) []
  | .breaks first more => .breaks first (more ++ [c])

/-- What a gap becomes: a single line feed is a space, and of several the first one is dropped. -/
def folded : Gap → Text
  | .blanks within => within
  | .breaks (some '\n') [] => [' ']
  | .breaks (some '\n') more => more
  | .breaks (some c) more => c :: more
  | .breaks Option.none more => more

end Gap

/-! ## Plain texts -/

/-- A text that was read, whether a line end follows it, and the place of what comes next. -/
structure Reading where
  text : Text
  lineEnded : Bool
  place : Place
  deriving Repr, DecidableEq

/-- A reading with more text at the front. -/
def Reading.after (front : Text) (reading : Reading) : Reading :=
  { reading with text := front ++ reading.text }

/-- Whether a plain text ends before a character at which it has a gap. -/
def endsAtGap (flow : Bool) (margin column : Nat) (text : Text) : Bool :=
  (!flow && column < margin) || (column = 0 && startsWithMark text) || text.head? = some '#'

/-- Reads a plain text. Outside flow collections its lines are indented by at least `margin`
columns. -/
def readPlain (flow : Bool) (margin : Nat) (gap : Gap) (line column : Nat) :
    Text → Option Reading
  | [] => some ⟨[], gap.crossesLines, ⟨[], line, column⟩⟩
  | c :: rest =>
    if isSpaceOrTab c then
      if c = '\t' && gap.crossesLines && column < margin then none
      else readPlain flow margin (gap.addBlank c) line (column + 1) rest
    else if isBreak c then readPlain flow margin (gap.addBreak c) (line + 1) 0 rest
    else if gap.isOpen && endsAtGap flow margin column (c :: rest) then
      some ⟨[], gap.crossesLines, ⟨c :: rest, line, column⟩⟩
    else if flow && c = ':' && rest.head?.any (fun d => isFlowSign d || d = '?') then none
    else if (c = ':' && atGap rest) || (flow && isFlowSign c) then
      some ⟨[], gap.crossesLines, ⟨c :: rest, line, column⟩⟩
    else (readPlain flow margin .none line (column + 1) rest).map (.after (gap.folded ++ [c]))

/-! ## Quoted texts -/

/-- Reads the rest of a text in single quotes, in which a quote is written twice. -/
def readSingle (gap : Gap) (line column : Nat) : Text → Option Reading
  | [] => none
  | '\'' :: '\'' :: rest =>
    (readSingle .none line (column + 2) rest).map (.after (gap.folded ++ ['\'']))
  | c :: rest =>
    if isSpaceOrTab c then readSingle (gap.addBlank c) line (column + 1) rest
    else if isBreak c then readSingle (gap.addBreak c) (line + 1) 0 rest
    else if column = 0 && startsWithMark (c :: rest) then none
    else if c = '\'' then some ⟨gap.folded, false, ⟨rest, line, column + 1⟩⟩
    else (readSingle .none line (column + 1) rest).map (.after (gap.folded ++ [c]))

/-- The character that a character stands for after a backslash. -/
def escape? (c : Char) : Option Char :=
  if c = '0' then some '\x00'
  else if c = 'a' then some '\x07'
  else if c = 'b' then some '\x08'
  else if c = 't' || c = '\t' then some '\t'
  else if c = 'n' then some '\n'
  else if c = 'v' then some '\x0B'
  else if c = 'f' then some '\x0C'
  else if c = 'r' then some '\r'
  else if c = 'e' then some '\x1B'
  else if c = ' ' || c = '"' || c = '/' || c = '\\' then some c
  else if c = 'N' then some '\u0085'
  else if c = '_' then some '\u00A0'
  else if c = 'L' then some '\u2028'
  else if c = 'P' then some '\u2029'
  else none

/-- Reads the rest of a text in double quotes, in which a backslash begins an escape. -/
def readDouble (gap : Gap) (line column : Nat) : Text → Option Reading
  | [] => none
  | '"' :: rest => some ⟨gap.folded, false, ⟨rest, line, column + 1⟩⟩
  | '\\' :: 'x' :: a :: b :: rest => do
    let c ← Text.charOfHex? [a, b]
    let reading ← readDouble .none line (column + 4) rest
    some (reading.after (gap.folded ++ [c]))
  | '\\' :: 'u' :: a :: b :: c :: d :: rest => do
    let c ← Text.charOfHex? [a, b, c, d]
    let reading ← readDouble .none line (column + 6) rest
    some (reading.after (gap.folded ++ [c]))
  | '\\' :: 'U' :: a :: b :: c :: d :: e :: f :: g :: h :: rest => do
    let c ← Text.charOfHex? [a, b, c, d, e, f, g, h]
    let reading ← readDouble .none line (column + 10) rest
    some (reading.after (gap.folded ++ [c]))
  | '\\' :: c :: rest =>
    if isBreak c then
      (readDouble (.breaks Option.none []) (line + 1) 0 rest).map (.after gap.folded)
    else do
      let c ← escape? c
      let reading ← readDouble .none line (column + 2) rest
      some (reading.after (gap.folded ++ [c]))
  | c :: rest =>
    if isSpaceOrTab c then readDouble (gap.addBlank c) line (column + 1) rest
    else if isBreak c then readDouble (gap.addBreak c) (line + 1) 0 rest
    else if (column = 0 && startsWithMark (c :: rest)) || c = '\\' then none
    else (readDouble .none line (column + 1) rest).map (.after (gap.folded ++ [c]))

/-! ## Blocks of lines -/

/-- What becomes of the line ends at the end of a block. -/
inductive Chomping where
  | strip
  | clip
  | keep
  deriving Repr, DecidableEq

/-- Line ends between two lines of a block, the greatest column to which their lines were indented,
and the place of what comes next. -/
structure Margin where
  breaks : Text
  widest : Nat
  place : Place
  deriving Repr, DecidableEq

/-- Reads empty lines and the indentation of the line after them, up to the column `indent` if that
is known. -/
def readMargin (indent : Option Nat) (widest line column : Nat) : Text → Option Margin
  | [] => some ⟨[], max widest column, ⟨[], line, column⟩⟩
  | c :: rest =>
    let inside := indent.all (column < ·)
    if c = ' ' && inside then readMargin indent widest line (column + 1) rest
    else if c = '\t' && inside then none
    else if isBreak c then
      (readMargin indent (max widest column) (line + 1) 0 rest).map fun margin =>
        { margin with breaks := c :: margin.breaks }
    else some ⟨[], max widest column, ⟨c :: rest, line, column⟩⟩

/-- Reads the lines of a block. `pending` is the end of the line before, `breaks` the line ends
after that, and `indented` says whether that line began with a blank. The fuel bounds the number of
lines. -/
def readLines (literal : Bool) (chomping : Chomping) (indent : Nat) :
    Nat → Text → Text → Bool → Place → Option Reading
  | 0, _, _, _, _ => none
  | fuel + 1, pending, breaks, indented, place =>
    if place.column ≠ indent || place.rest.isEmpty then
      match chomping with
      | .strip => some ⟨[], true, place⟩
      | .clip => some ⟨pending, true, place⟩
      | .keep => some ⟨pending ++ breaks, true, place⟩
    else do
      let indentedNow := place.rest.head?.any isSpaceOrTab
      let front :=
        if !literal && pending = ['\n'] && !indented && !indentedNow then
          if breaks.isEmpty then [' '] else breaks
        else pending ++ breaks
      let content := place.rest.takeWhile (!isBreak ·)
      let ended := place.skipWhile (!isBreak ·)
      let ending := ended.rest.take 1
      let margin ←
        if ending.isEmpty then some ⟨[], 0, ended⟩
        else readMargin (some indent) 0 (ended.line + 1) 0 (ended.rest.drop 1)
      let reading ← readLines literal chomping indent fuel ending margin.breaks indentedNow
        margin.place
      some (reading.after (front ++ content))

/-- The width of the indentation that a digit gives. Zero is none. -/
def width? (c : Char) : Option Nat :=
  if isDigit c && c ≠ '0' then some (Text.digitsValue [c]) else none

/-- How a sign ends a block. -/
def chomping? (c : Char) : Option Chomping :=
  if c = '+' then some .keep else if c = '-' then some .strip else none

/-- Reads the signs after the mark of a block: how it ends, and how far it is indented. -/
def readHeader (place : Place) : Option (Chomping × Option Nat × Place) :=
  match place.rest with
  | c :: rest =>
    match chomping? c with
    | some chomping =>
      match rest with
      | d :: _ =>
        if isDigit d then (width? d).map fun width => (chomping, some width, place.skip 2)
        else some (chomping, none, place.skip 1)
      | [] => some (chomping, none, place.skip 1)
    | none =>
      if isDigit c then
        (width? c).map fun width =>
          match rest.head?.bind chomping? with
          | some chomping => (chomping, some width, place.skip 2)
          | none => (.clip, some width, place.skip 1)
      else some (.clip, none, place)
  | [] => some (.clip, none, place)

/-- Reads a block of lines after its mark. Its lines are indented by at least `margin` columns,
unless a width is given, which counts from the indentation around. -/
def readBlock (literal : Bool) (margin : Nat) (place : Place) : Option Reading := do
  let (chomping, width, place) ← readHeader place
  let place ← place.skipLineEnd
  let indent := width.map fun width => (margin - 1) + width
  let start ← readMargin indent 0 place.line place.column place.rest
  let indent := indent.getD (max 1 (max margin start.widest))
  readLines literal chomping indent (place.rest.length + 1) [] start.breaks false start.place

end Tangle.Yaml
