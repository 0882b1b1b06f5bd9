import Tangle.Text

/-!
# Tokens of templates

A template is text with expressions between `{{` and `}}`, statements between `{%` and `%}`, and
comments. It is cut into segments; those that are not text are lists of tokens. A minus sign inside
a delimiter takes away the blanks on its outer side.
-/

namespace Tangle.Stencil

/-- Signs of expressions. -/
inductive Sign where
  | plus | minus | times | divide | floorDivide | modulo | power
  | equal | notEqual | less | lessEqual | greater | greaterEqual
  | assign | tilde | pipe | dot | comma | colon
  | parenOpen | parenClose | bracketOpen | bracketClose | braceOpen | braceClose
  deriving Repr, DecidableEq

/-- A token of an expression or a statement. -/
inductive Token where
  | name (value : Text)
  | text (value : Text)
  | int (value : Nat)
  | float (value : Float)
  | sign (value : Sign)

/-- A part of a template. -/
inductive Segment where
  | text (contents : Text)
  | expression (tokens : List Token)
  | statement (tokens : List Token)

namespace Token

/-- Blanks between tokens. -/
def isBlank (c : Char) : Bool := c = ' ' || c = '\t' || c = '\n' || c = '\x0C' || c = '\r'

/-! ## Signs -/

/-- The sign of two characters at the start of a text. -/
def longSign? : Text → Option Sign
  | '/' :: '/' :: _ => some .floorDivide
  | '*' :: '*' :: _ => some .power
  | '=' :: '=' :: _ => some .equal
  | '!' :: '=' :: _ => some .notEqual
  | '>' :: '=' :: _ => some .greaterEqual
  | '<' :: '=' :: _ => some .lessEqual
  | _ => none

/-- The sign of one character. -/
def shortSign? : Char → Option Sign
  | '+' => some .plus
  | '-' => some .minus
  | '*' => some .times
  | '/' => some .divide
  | '%' => some .modulo
  | '=' => some .assign
  | '~' => some .tilde
  | '|' => some .pipe
  | '.' => some .dot
  | ',' => some .comma
  | ':' => some .colon
  | '<' => some .less
  | '>' => some .greater
  | '(' => some .parenOpen
  | ')' => some .parenClose
  | '[' => some .bracketOpen
  | ']' => some .bracketClose
  | '{' => some .braceOpen
  | '}' => some .braceClose
  | _ => none

/-- How a sign changes the number of open brackets. -/
def nesting : Sign → Int
  | .parenOpen | .bracketOpen | .braceOpen => 1
  | .parenClose | .bracketClose | .braceClose => -1
  | _ => 0

/-! ## Texts -/

/-- Splits a text at the delimiter that ends it; a backslash takes the next character with it. -/
def closeText (delimiter : Char) : Text → Option (Text × Text)
  | [] => none
  | ['\\'] => none
  | '\\' :: c :: rest =>
    (closeText delimiter rest).map fun (inside, after) => ('\\' :: c :: inside, after)
  | c :: rest =>
    if c = delimiter then some ([], rest)
    else (closeText delimiter rest).map fun (inside, after) => (c :: inside, after)

/-- The character of a backslash and a letter. -/
def escaped? : Char → Option Char
  | '"' => some '"'
  | '\\' => some '\\'
  | '/' => some '/'
  | '\'' => some '\''
  | 'b' => some '\x08'
  | 'f' => some '\x0C'
  | 'n' => some '\n'
  | 'r' => some '\r'
  | 't' => some '\t'
  | _ => none

/-- The number that four characters write in hexadecimal. -/
def unit? (a b c d : Char) : Option Nat :=
  let digits := if a = '+' then [b, c, d] else [a, b, c, d]
  if digits.all isHexDigit then some (Text.hexValue digits) else none

/-- Replaces the escapes of a text. `high` is the first half of a character written in two halves,
which has to be followed by the second. -/
def unescape : Option Nat → Text → Option Text
  | none, [] => some []
  | some _, [] => none
  | high, '\\' :: 'u' :: a :: b :: c :: d :: rest => do
    let n ← unit? a b c d
    match high with
    | none =>
      if 0xD800 ≤ n ∧ n ≤ 0xDFFF then unescape (some n) rest
      else (unescape none rest).map (Char.ofNat n :: ·)
    | some h =>
      if 0xDC00 ≤ n ∧ n ≤ 0xDFFF ∧ h < 0xDC00 then
        (unescape none rest).map
          (Char.ofNat (0x10000 + (h - 0xD800) * 0x400 + (n - 0xDC00)) :: ·)
      else none
  | none, '\\' :: c :: rest => do
    let c ← escaped? c
    (unescape none rest).map (c :: ·)
  | none, ['\\'] => none
  | none, c :: rest => (unescape none rest).map (c :: ·)
  | some _, _ :: _ => none

/-! ## Numbers -/

/-- What part of a number is being read. -/
inductive NumberPart where
  | whole
  | fraction
  | exponent
  | power
  deriving DecidableEq

/-- The characters of a decimal number at the start of a text, and the part that it ends in. -/
def readDecimal : NumberPart → Text → Text × NumberPart × Text
  | part, [] => ([], part, [])
  | part, c :: rest =>
    let next : Option NumberPart :=
      if isDigit c then some (if part = .exponent then .power else part)
      else if c = '_' then some part
      else if c = '.' && part = .whole then some .fraction
      else if (c = 'e' || c = 'E') && (part = .whole || part = .fraction) then some .exponent
      else if (c = '+' || c = '-') && part = .exponent then some .power
      else none
    match next with
    | some next =>
      let (read, final, rest) := readDecimal next rest
      (c :: read, final, rest)
    | none => ([], part, c :: rest)

/-- The number that an integer part, a fraction and a power of ten make. -/
def floatOf (whole fraction : Text) (negative : Bool) (power : Nat) : Float :=
  let mantissa := Text.digitsValue (whole ++ fraction)
  let power : Int := (if negative then -(power : Int) else power) - fraction.length
  if 0 ≤ power then Float.ofScientific mantissa false (min power.toNat 400)
  else Float.ofScientific mantissa true (min power.natAbs 2000)

/-- A floating-point number with its underscores taken out. -/
def float? (digits : Text) : Option Float :=
  let mantissa := digits.takeWhile fun c => c ≠ 'e' && c ≠ 'E'
  let exponent := digits.drop mantissa.length
  let whole := mantissa.takeWhile (· ≠ '.')
  let fraction := (mantissa.dropWhile (· ≠ '.')).drop 1
  match exponent with
  | [] => some (floatOf whole fraction false 0)
  | _ :: rest =>
    let (negative, power) :=
      match rest with
      | '-' :: power => (true, power)
      | '+' :: power => (false, power)
      | power => (false, power)
    if power.isEmpty then none else some (floatOf whole fraction negative (Text.digitsValue power))

/-- The first number that a literal cannot write. -/
def intBound : Nat := Nat.pow 2 128

/-- An integer literal in a base other than ten. -/
def based? (base : Nat) (digits : Text) : Option Nat :=
  if digits.isEmpty then none
  else
    digits.foldlM
      (fun value c => do
        let d ← Unicode.hexDigit? c
        if d < base then some (value * base + d) else none)
      0

/-- Reads a number at the start of a text. -/
def readNumber (text : Text) : Option (Token × Text) :=
  let base : Nat :=
    match text with
    | '0' :: 'b' :: _ | '0' :: 'B' :: _ => 2
    | '0' :: 'o' :: _ | '0' :: 'O' :: _ => 8
    | '0' :: 'x' :: _ | '0' :: 'X' :: _ => 16
    | _ => 10
  if base = 10 then
    let (read, part, rest) := readDecimal .whole text
    let digits := read.filter (· ≠ '_')
    if read.getLast? = some '_' then none
    else if part = .whole then
      if Text.digitsValue digits < intBound then some (.int (Text.digitsValue digits), rest)
      else none
    else (float? digits).map fun x => (.float x, rest)
  else
    let isPart (c : Char) : Bool := isDigit c || c = '_' || (base = 16 && isHexDigit c)
    let read := (text.drop 2).takeWhile isPart
    if read.getLast? = some '_' then none
    else do
      let n ← based? base (read.filter (· ≠ '_'))
      if n < intBound then some (.int n, (text.drop 2).dropWhile isPart) else none

/-! ## Lists of tokens -/

/-- Letters that a name begins with. -/
def isNameStart (c : Char) : Bool := isLatinLetter c || c = '_'

/-- Reads the token at the start of a text that begins with no blank. -/
def readToken (c : Char) (rest : Text) : Option (Token × Text) :=
  match longSign? (c :: rest), shortSign? c with
  | some long, _ => some (.sign long, rest.tail)
  | none, some short => some (.sign short, rest)
  | none, none =>
    if c = '"' || c = '\'' then do
      let (inside, after) ← closeText c rest
      let value ← unescape none inside
      some (.text value, after)
    else if isDigit c then readNumber (c :: rest)
    else if isNameStart c then
      some (.name (c :: rest.takeWhile isWordCharacter), rest.dropWhile isWordCharacter)
    else none

/-- What follows the end of an expression or statement, and whether blanks after it go. The end is
the character `close` and a brace, or for expressions two braces, with a sign before it or not. -/
def afterEnd? (close : Char) : Text → Option (Bool × Text)
  | '-' :: c :: '}' :: rest => if c = close then some (true, rest) else none
  | '+' :: c :: '}' :: rest => if c = close then some (false, rest) else none
  | c :: '}' :: rest => if c = close then some (false, rest) else none
  | _ => none

/-- How a token changes the number of open brackets. -/
def opens : Token → Int
  | .sign s => nesting s
  | _ => 0

/-- Reads tokens up to the end of an expression or statement. Inside brackets nothing ends it. -/
def readAll (close : Char) : Nat → Int → Text → Option (List Token × Bool × Text)
  | 0, _, _ => none
  | fuel + 1, depth, source =>
    let source := source.dropWhile isBlank
    match if depth = 0 then afterEnd? close source else none with
    | some (trims, rest) => some ([], trims, rest)
    | none =>
      match source with
      | [] => none
      | c :: rest => do
        let (token, rest) ← readToken c rest
        let (tokens, trims, rest) ← readAll close fuel (depth + token.opens) rest
        some (token :: tokens, trims, rest)

end Token

namespace Segment

/-- What a segment that is no text begins with. -/
inductive Marker where
  | expression
  | statement
  | comment
  deriving DecidableEq

/-- The text up to the first marker, the marker, and what follows it. -/
def splitMarker : Text → Text × Option (Marker × Text)
  | [] => ([], none)
  | '{' :: '{' :: rest => ([], some (.expression, rest))
  | '{' :: '%' :: rest => ([], some (.statement, rest))
  | '{' :: '#' :: rest => ([], some (.comment, rest))
  | c :: rest =>
    let (before, marker) := splitMarker rest
    (c :: before, marker)

/-- The text up to the end of a comment, and what follows it. -/
def splitCommentEnd : Text → Option (Text × Text)
  | [] => none
  | '#' :: '}' :: rest => some ([], rest)
  | c :: rest => (splitCommentEnd rest).map fun (inside, after) => (c :: inside, after)

/-- The sign right after a marker: whether it takes the blanks before it away, and what follows. -/
def control : Text → Bool × Text
  | '-' :: rest => (true, rest)
  | '+' :: rest => (false, rest)
  | rest => (false, rest)

/-- What follows the name `name` and the end of a statement, and whether blanks after it go. -/
def afterTag? (name text : Text) : Option (Bool × Text) := do
  let rest ← Text.afterStart? (text.dropWhile Token.isBlank) name
  let (trims, rest) := control (rest.dropWhile Token.isBlank)
  match rest with
  | '%' :: '}' :: rest => some (trims, rest)
  | _ => none

/-- The text up to the statement that ends raw text: the text, whether the blanks at its end go,
whether those after the statement go, and what follows. -/
def splitRawEnd : Text → Option (Text × Bool × Bool × Text)
  | [] => none
  | c :: rest =>
    let ending : Option (Bool × Bool × Text) :=
      match c, rest with
      | '{', '%' :: inside =>
        let (trimsBefore, inside) := control inside
        (afterTag? "endraw".toList inside).map fun (trimsAfter, after) =>
          (trimsBefore, trimsAfter, after)
      | _, _ => none
    match ending with
    | some (trimsBefore, trimsAfter, after) => some ([], trimsBefore, trimsAfter, after)
    | none =>
      (splitRawEnd rest).map fun (inside, trimsBefore, trimsAfter, after) =>
        (c :: inside, trimsBefore, trimsAfter, after)

/-- A text segment, none for the empty text. -/
def ofText (text : Text) : List Segment := if text.isEmpty then [] else [.text text]

/-- Cuts a template into segments. `trims` tells whether the blanks at its start go. -/
def scanFrom : Nat → Bool → Text → Option (List Segment)
  | 0, _, _ => none
  | fuel + 1, trims, source =>
    let (before, marker) := splitMarker (if trims then source.dropWhile isSpace else source)
    match marker with
    | none => some (ofText before)
    | some (marker, rest) =>
      let (trimsBefore, rest) := control rest
      let before := if trimsBefore then Text.dropEndWhile before isSpace else before
      match marker with
      | .comment => do
        let (inside, after) ← splitCommentEnd rest
        let trims := if inside.isEmpty then trimsBefore else inside.getLast? = some '-'
        let more ← scanFrom fuel trims after
        some (ofText before ++ more)
      | .expression => do
        let (tokens, trims, after) ← Token.readAll '}' (rest.length + 1) 0 rest
        let more ← scanFrom fuel trims after
        some (ofText before ++ .expression tokens :: more)
      | .statement =>
        match afterTag? "raw".toList rest with
        | some (trimsStart, inside) => do
          let (raw, trimsEnd, trims, after) ← splitRawEnd inside
          let raw := if trimsStart then raw.dropWhile isSpace else raw
          let raw := if trimsEnd then Text.dropEndWhile raw isSpace else raw
          let more ← scanFrom fuel trims after
          some (ofText before ++ ofText raw ++ more)
        | none => do
          let (tokens, trims, after) ← Token.readAll '%' (rest.length + 1) 0 rest
          let more ← scanFrom fuel trims after
          some (ofText before ++ .statement tokens :: more)

/-- Cuts a template into segments. -/
def scan (text : Text) : Option (List Segment) := scanFrom (text.length + 1) false text

end Segment

end Tangle.Stencil
