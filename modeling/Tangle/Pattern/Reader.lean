import Tangle.Pattern.Basic
import Tangle.Pattern.Property

/-!
# Reading patterns

The notation of patterns: literals, classes in brackets with set operations, escapes, groups with
flags, alternatives and repetition. There is no looking around and no reference to a group. Every
reader takes the rest of the notation and returns what follows what it has read, or `none` where
the notation is faulty.
-/

namespace Tangle.Pattern

/-! ## Flags -/

/-- How the notation is read at some place. -/
structure Flags where
  ignoreCase : Bool := false
  multiLine : Bool := false
  dotAll : Bool := false
  unicode : Bool := true
  crlf : Bool := false
  verbose : Bool := false

/-- What follows a comment. -/
def afterComment : Text → Text
  | [] => []
  | '\n' :: rest => rest
  | _ :: rest => afterComment rest

theorem length_afterComment (text : Text) : (afterComment text).length ≤ text.length := by
  fun_induction afterComment text <;> simp_all
  omega

/-- Passes over blanks and comments, which have no meaning in verbose notation. -/
def skip (flags : Flags) : Text → Text
  | [] => []
  | c :: rest =>
    if flags.verbose && isSpace c then skip flags rest
    else if flags.verbose && c = '#' then skip flags (afterComment rest)
    else c :: rest
  termination_by text => text.length
  decreasing_by
    · simp
    · have := length_afterComment rest
      simp only [List.length_cons]
      omega

/-- A flag set or cleared. -/
def Flags.set (flags : Flags) (value : Bool) : Char → Option Flags
  | 'i' => some { flags with ignoreCase := value }
  | 'm' => some { flags with multiLine := value }
  | 's' => some { flags with dotAll := value }
  | 'U' => some flags
  | 'u' => some { flags with unicode := value }
  | 'R' => some { flags with crlf := value }
  | 'x' => some { flags with verbose := value }
  | _ => none

/-- Reads flags up to the colon or parenthesis that ends them. `seen` holds the letters read so
far, `negated` whether a minus sign stood before, and `dangling` whether one stood just before. -/
def readFlags (flags : Flags) (seen : List Char) (negated dangling : Bool) :
    Text → Option (Flags × List Char × Bool × Text)
  | [] => none
  | c :: rest =>
    if c = ':' || c = ')' then
      if dangling then none else some (flags, seen, c = ')', rest)
    else if c = '-' then
      if negated then none else readFlags flags seen true true rest
    else if seen.contains c then none
    else
      match flags.set (!negated) c with
      | some flags => readFlags flags (c :: seen) negated false rest
      | none => none

/-! ## Escapes -/

/-- What an escape stands for. -/
inductive Escape where
  | literal (c : Char)
  /-- An octet beyond ASCII, which no text can hold by itself. -/
  | octet
  | set (s : CharSet)
  | assertion (a : Assertion)

/-- Characters with a meaning in the notation. -/
def isMeta (c : Char) : Bool :=
  ['\\', '.', '+', '*', '?', '(', ')', '|', '[', ']', '{', '}', '^', '$', '#', '&', '-',
    '~'].contains
    c

/-- Reads `count` hexadecimal digits. -/
def readHexDigits (flags : Flags) : Nat → Nat → Text → Option (Nat × Text)
  | 0, value, text => some (value, text)
  | count + 1, value, text =>
    match skip flags text with
    | [] => none
    | c :: rest =>
      match Unicode.hexDigit? c with
      | some d => readHexDigits flags count (value * 16 + d) rest
      | none => none

/-- Reads the code point of an escape: in braces, or with a fixed number of digits. -/
def readHex (flags : Flags) (count : Nat) (text : Text) : Option (Escape × Text) :=
  match skip flags text with
  | '{' :: rest =>
    let digits := (rest.takeWhile (· ≠ '}')).filter fun c => !(flags.verbose && isSpace c)
    match rest.dropWhile (· ≠ '}') with
    | [] => none
    | _ :: rest =>
      if digits.isEmpty || !digits.all isHexDigit then none
      else (charOfNat? (Text.hexValue digits)).map fun c => (.literal c, rest)
  | text => do
    let (value, rest) ← readHexDigits flags count 0 text
    let c ← charOfNat? value
    pure (if !flags.unicode && count = 2 && 0x7F < value then .octet else .literal c, rest)

/-- The set that the text between the braces of a property escape asks for. -/
def propertySet? (name : Text) : Option CharSet :=
  match name.splitFirst? '!' with
  | some (property, '=' :: value) =>
    (valuedSet? (String.ofList property) (String.ofList value)).map .complement
  | _ =>
    match (name.splitFirst? ':').or (name.splitFirst? '=') with
    | some (property, value) => valuedSet? (String.ofList property) (String.ofList value)
    | none => namedSet? (String.ofList name)

/-- Reads the name of a property escape. -/
def readProperty (flags : Flags) (text : Text) : Option (CharSet × Text) :=
  match skip flags text with
  | [] => none
  | '{' :: rest =>
    let name := (rest.takeWhile (· ≠ '}')).filter fun c => !(flags.verbose && isSpace c)
    match rest.dropWhile (· ≠ '}') with
    | [] => none
    | _ :: rest => (propertySet? name).map (·, rest)
  | c :: rest => if c = '\\' then none else (propertySet? [c]).map (·, rest)

/-- A set where case may be ignored. -/
def CharSet.folded (flags : Flags) (s : CharSet) : CharSet :=
  if flags.ignoreCase then if flags.unicode then .caseless s else .caselessAscii s else s

/-- The class that a letter after a backslash stands for. -/
def letterClass (flags : Flags) : Char → Option CharSet
  | 'd' => some (if flags.unicode then .digit else .interval '0' '9')
  | 's' => some (if flags.unicode then .space else .unionOf [.interval '\t' '\r', .single ' '])
  | 'w' => some (if flags.unicode then .word else .asciiWord)
  | _ => none

/-- The boundary that a name in braces asks for. -/
def namedBoundary? (name : Text) : Option Boundary :=
  match String.ofList name with
  | "start" => some .start
  | "end" => some .finish
  | "start-half" => some .startHalf
  | "end-half" => some .finishHalf
  | _ => none

/-- Reads what may follow the escape of a word boundary: the name of a special one in braces. Braces
that begin with anything but a letter or a hyphen are left for a repetition. -/
def readBoundary (flags : Flags) (text : Text) : Option (Boundary × Text) :=
  let isNamePart (c : Char) : Bool := isLatinLetter c || c = '-'
  match text with
  | '{' :: rest =>
    match skip flags rest with
    | [] => none
    | c :: rest =>
      if !isNamePart c then some (.edge, text)
      else
        let inside := (c :: rest).takeWhile (· ≠ '}')
        let name := inside.filter fun c => !(flags.verbose && isSpace c)
        match (c :: rest).dropWhile (· ≠ '}') with
        | [] => none
        | _ :: rest =>
          if name.all isNamePart then (namedBoundary? name).map (·, rest) else none
  | _ => some (.edge, text)

/-- Reads an escape, the backslash of which is already read. -/
def readEscape (flags : Flags) : Text → Option (Escape × Text)
  | [] => none
  | c :: rest =>
    if isDigit c then none
    else if c = 'x' then readHex flags 2 rest
    else if c = 'u' then readHex flags 4 rest
    else if c = 'U' then readHex flags 8 rest
    else if c = 'p' || c = 'P' then
      if !flags.unicode then none
      else
        (readProperty flags rest).map fun (s, rest) =>
          let s := s.folded flags
          (.set (if c = 'P' then .complement s else s), rest)
    else
      match letterClass flags c, letterClass flags c.toLower with
      | some s, _ => some (.set s, rest)
      | none, some s =>
        if flags.unicode then some (.set (.complement s), rest) else none
      | none, none =>
        let ascii := !flags.unicode
        match c with
        | 'a' => some (.literal '\x07', rest)
        | 'f' => some (.literal '\x0C', rest)
        | 't' => some (.literal '\t', rest)
        | 'n' => some (.literal '\n', rest)
        | 'r' => some (.literal '\r', rest)
        | 'v' => some (.literal '\x0B', rest)
        | 'A' => some (.assertion .textStart, rest)
        | 'z' => some (.assertion .textEnd, rest)
        | 'b' =>
          (readBoundary flags rest).map fun (boundary, rest) =>
            (.assertion (.word boundary ascii), rest)
        | 'B' => some (.assertion (.word .noEdge ascii), rest)
        | '<' => some (.assertion (.word .start ascii), rest)
        | '>' => some (.assertion (.word .finish ascii), rest)
        | _ =>
          if isMeta c || (c.toNat < 0x80 && !isLatinLetter c) then some (.literal c, rest)
          else none

/-! ## Classes -/

/-- Reads the name of an ASCII class, of which `[:` is already read. -/
def readAsciiClass (flags : Flags) (text : Text) : Option (CharSet × Text) :=
  let (negated, text) :=
    match text with
    | '^' :: rest => (true, rest)
    | _ => (false, text)
  match text.dropWhile (· ≠ ':') with
  | ':' :: ']' :: rest => do
    let s ← CharSet.asciiClass? (String.ofList (text.takeWhile (· ≠ ':')))
    let s := s.folded flags
    pure (if negated then .complement s else s, rest)
  | _ => none

/-- Reads a member of a class, which may be an escape. -/
def readClassItem (flags : Flags) : Text → Option (Escape × Text)
  | [] => none
  | '\\' :: rest => readEscape flags rest
  | c :: rest => some (.literal c, rest)

/-- Reads a member of a class or an interval of them. A hyphen before the closing bracket or before
another hyphen makes no interval. -/
def readClassRange (flags : Flags) (text : Text) : Option (CharSet × Text) := do
  let (first, rest) ← readClassItem flags text
  let rest := skip flags rest
  let alone : Option (CharSet × Text) :=
    match first with
    | .literal c => if !flags.unicode && 0x7F < c.toNat then none else some (.single c, rest)
    | .set s => some (s, rest)
    | .octet | .assertion _ => none
  match rest with
  | [] => none
  | '-' :: after =>
    match skip flags after with
    | [] => none
    | c :: _ =>
      if c = ']' || c = '-' then alone
      else
        let (last, rest) ← readClassItem flags (skip flags after)
        match first, last with
        | .literal a, .literal b =>
          if a ≤ b && (flags.unicode || b.toNat < 0x80) then some (.interval a b, rest) else none
        | _, _ => none
  | _ => alone

/-- The operations between the parts of a class. -/
inductive ClassOperation where
  | intersection
  | difference
  | exclusive

/-- The set that an operation makes of two. -/
def ClassOperation.apply (flags : Flags) (s t : CharSet) : ClassOperation → CharSet
  | .intersection => .inter (s.folded flags) (t.folded flags)
  | .difference => .difference (s.folded flags) (t.folded flags)
  | .exclusive => .exclusive (s.folded flags) (t.folded flags)

/-- A part of a class that an operation is still to be applied to. -/
abbrev Pending := Option (CharSet × ClassOperation)

/-- The set of a pending part and the members after it. -/
def applyPending (flags : Flags) (pending : Pending) (members : List CharSet) : CharSet :=
  match pending with
  | none => .unionOf members
  | some (s, operation) => operation.apply flags s (.unionOf members)

/-- The hyphens that a class begins with, which stand for themselves. -/
def readLeadingHyphens (flags : Flags) : Nat → List CharSet → Text → List CharSet × Text
  | 0, members, text => (members, text)
  | fuel + 1, members, text =>
    match skip flags text with
    | '-' :: rest => readLeadingHyphens flags fuel (.single '-' :: members) rest
    | text => (members, text)

mutual

/-- Reads a class, the opening bracket of which is already read. -/
def readClass (flags : Flags) : Nat → Text → Option (CharSet × Text)
  | 0, _ => none
  | fuel + 1, text =>
    let (negated, text) :=
      match skip flags text with
      | '^' :: rest => (true, rest)
      | text => (false, text)
    let (members, text) := readLeadingHyphens flags text.length [] text
    let (members, text) :=
      match members, text with
      | [], ']' :: rest => ([.single ']'], rest)
      | members, text => (members, text)
    match readMembers flags fuel none members text with
    | none => none
    | some (s, rest) =>
      let s := s.folded flags
      if !negated then some (s, rest)
      else if flags.unicode then some (.complement s, rest)
      else none

/-- Reads the members of a class up to the closing bracket. -/
def readMembers (flags : Flags) :
    Nat → Pending → List CharSet → Text → Option (CharSet × Text)
  | 0, _, _, _ => none
  | fuel + 1, pending, members, text =>
    match skip flags text with
    | [] => none
    | ']' :: rest => some (applyPending flags pending members, rest)
    | '&' :: '&' :: rest =>
      readMembers flags fuel (some (applyPending flags pending members, .intersection)) [] rest
    | '-' :: '-' :: rest =>
      readMembers flags fuel (some (applyPending flags pending members, .difference)) [] rest
    | '~' :: '~' :: rest =>
      readMembers flags fuel (some (applyPending flags pending members, .exclusive)) [] rest
    | '[' :: rest =>
      let ascii :=
        match rest with
        | ':' :: name => readAsciiClass flags name
        | _ => none
      match ascii with
      | some (s, rest) => readMembers flags fuel pending (s :: members) rest
      | none =>
        match readClass flags fuel rest with
        | none => none
        | some (s, rest) => readMembers flags fuel pending (s :: members) rest
    | text =>
      match readClassRange flags text with
      | none => none
      | some (s, rest) => readMembers flags fuel pending (s :: members) rest

end

/-! ## Groups, alternatives and repetition -/

/-- The number that counts in a pattern stay below. -/
def countBound : Nat := 4294967296

/-- Reads a decimal number below the bound, blanks around it allowed. -/
def readCount (text : Text) : Option (Nat × Text) :=
  let text := text.dropWhile isSpace
  let digits := text.takeWhile isDigit
  if digits.isEmpty || countBound ≤ Text.digitsValue digits then none
  else some (Text.digitsValue digits, (text.dropWhile isDigit).dropWhile isSpace)

/-- Reads the bounds of a counted repetition, the opening brace of which is already read: the least
number of copies, and how many more are allowed. -/
def readBounds (flags : Flags) (text : Text) : Option ((Nat × Option Nat) × Text) := do
  let (least, rest) ← readCount (skip flags text)
  match rest with
  | '}' :: rest => some ((least, some 0), rest)
  | ',' :: rest =>
    match skip flags rest with
    | '}' :: rest => some ((least, none), rest)
    | rest =>
      let (most, rest) ← readCount rest
      match rest with
      | '}' :: rest => if most < least then none else some ((least, some (most - least)), rest)
      | _ => none
  | _ => none

/-- What follows a repetition sign: a question mark after it only changes which match is
preferred. -/
def afterLazy : Text → Text
  | '?' :: rest => rest
  | text => text

/-- Reads the name of a group, up to the angle bracket that closes it. -/
def readGroupName (text : Text) : Option (Text × Text) :=
  let name := text.takeWhile (· ≠ '>')
  let isFirst (c : Char) : Bool := c = '_' || Unicode.Property.alphabetic.has c
  let isLater (c : Char) : Bool := c = '_' || c = '.' || c = '[' || c = ']' || isAlphanumeric c
  match name, text.dropWhile (· ≠ '>') with
  | first :: later, _ :: rest =>
    if isFirst first && later.all isLater then some (name, rest) else none
  | _, _ => none

/-- A member of a sequence. The setting of flags is a member that cannot be repeated. -/
structure Item where
  pattern : Pattern
  repeatable : Bool := true

/-- A group that is open: the flags outside it, the alternatives before it, and the members of the
sequence before it, the last one first. -/
structure OpenGroup where
  flags : Flags
  alternatives : List Pattern
  items : List Item

/-- The reader's place in a pattern. -/
structure Progress where
  flags : Flags := {}
  groups : List OpenGroup := []
  names : List Text := []
  alternatives : List Pattern := []
  items : List Item := []

namespace Progress

/-- The sequence of members, given the last one first. -/
def sequenceOf (items : List Item) : Pattern :=
  items.foldl (fun after item => .seq item.pattern after) .empty

/-- The pattern of what is read so far inside the innermost open group. -/
def current (p : Progress) : Pattern :=
  p.alternatives.foldl (fun later earlier => .either earlier later) (sequenceOf p.items)

/-- Adds a member to the sequence. -/
def push (p : Progress) (pattern : Pattern) : Progress :=
  { p with items := ⟨pattern, true⟩ :: p.items }

/-- Opens a group with the given flags inside. -/
def openGroup (p : Progress) (inside : Flags) : Progress :=
  { p with
    flags := inside
    groups := ⟨p.flags, p.alternatives, p.items⟩ :: p.groups
    alternatives := []
    items := [] }

/-- Closes the innermost open group. -/
def closeGroup? (p : Progress) : Option Progress :=
  match p.groups with
  | [] => none
  | group :: groups =>
    some { p with
      flags := group.flags
      groups
      alternatives := group.alternatives
      items := ⟨p.current, true⟩ :: group.items }

/-- Repeats the last member of the sequence. -/
def repeatLast? (p : Progress) (least : Nat) (extra : Option Nat) : Option Progress :=
  match p.items with
  | ⟨pattern, true⟩ :: items =>
    some { p with items := ⟨.repeating pattern least extra, true⟩ :: items }
  | _ => none

/-- Adds the set of a literal. -/
def pushLiteral (p : Progress) (c : Char) : Progress :=
  p.push (.char ((CharSet.single c).folded p.flags))

end Progress

/-- Reads what follows an opening parenthesis up to the contents of the group. -/
def readGroupStart (p : Progress) (text : Text) : Option (Progress × Text) :=
  match skip p.flags text with
  | '?' :: '=' :: _ | '?' :: '!' :: _ | '?' :: '<' :: '=' :: _ | '?' :: '<' :: '!' :: _ => none
  | '?' :: 'P' :: '<' :: rest | '?' :: '<' :: rest => do
    let (name, rest) ← readGroupName rest
    if p.names.contains name then none
    else some ({ p with names := name :: p.names }.openGroup p.flags, rest)
  | '?' :: rest => do
    let (flags, seen, closed, rest) ← readFlags p.flags [] false false rest
    if !closed then some (p.openGroup flags, rest)
    else if seen.isEmpty then none
    else some ({ p with flags, items := ⟨.empty, false⟩ :: p.items }, rest)
  | text => some (p.openGroup p.flags, text)

/-- Reads one step of a pattern, the first character of which is `c`. -/
def readStep (p : Progress) (c : Char) (rest : Text) : Option (Progress × Text) :=
  match c with
  | '(' => readGroupStart p rest
  | ')' => p.closeGroup?.map (·, rest)
  | '|' =>
    let alternatives := Progress.sequenceOf p.items :: p.alternatives
    some ({ p with alternatives, items := [] }, rest)
  | '[' =>
    (readClass p.flags (2 * rest.length + 2) rest).map fun (s, rest) => (p.push (.char s), rest)
  | '?' => (p.repeatLast? 0 (some 1)).map (·, afterLazy rest)
  | '*' => (p.repeatLast? 0 none).map (·, afterLazy rest)
  | '+' => (p.repeatLast? 1 none).map (·, afterLazy rest)
  | '{' => do
    let ((least, extra), rest) ← readBounds p.flags rest
    let p ← p.repeatLast? least extra
    some (p, afterLazy (skip p.flags rest))
  | '\\' => do
    let (escape, rest) ← readEscape p.flags rest
    match escape with
    | .literal c => some (p.pushLiteral c, rest)
    | .octet => none
    | .set s => some (p.push (.char s), rest)
    | .assertion a => some (p.push (.assertion a), rest)
  | '.' =>
    if !p.flags.unicode then none
    else if p.flags.dotAll then some (p.push (.char .anything), rest)
    else if p.flags.crlf then
      some (p.push (.char (.complement (.unionOf [.single '\n', .single '\r']))), rest)
    else some (p.push (.char (.complement (.single '\n'))), rest)
  | '^' =>
    let a : Assertion :=
      if !p.flags.multiLine then .textStart else if p.flags.crlf then .crlfLineStart else .lineStart
    some (p.push (.assertion a), rest)
  | '$' =>
    let a : Assertion :=
      if !p.flags.multiLine then .textEnd else if p.flags.crlf then .crlfLineEnd else .lineEnd
    some (p.push (.assertion a), rest)
  | c => some (p.pushLiteral c, rest)

/-- Reads a pattern to its end. Every step takes a character, so the fuel needed is the length. -/
def readAll : Nat → Progress → Text → Option Progress
  | 0, _, _ => none
  | fuel + 1, p, text =>
    match skip p.flags text with
    | [] => some p
    | c :: rest =>
      match readStep p c rest with
      | some (p, rest) => readAll fuel p rest
      | none => none

/-- The pattern that a text denotes, if its notation is sound and it is not too large. -/
def read? (source : Text) : Option Pattern := do
  let p ← readAll (source.length + 1) {} source
  if p.groups.isEmpty && p.current.weight ≤ weightBound then some p.current else none

end Tangle.Pattern
