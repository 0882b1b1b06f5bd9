import Tangle.Text

/-!
# Globs

Patterns for file names: a star stands for any text without a slash, a question mark for one
character, brackets for one of several characters, braces for alternatives, and a backslash takes
the next character literally.
-/

namespace Tangle

/-- A part of a glob. -/
inductive Glob where
  | literal (c : Char)
  | anyOne
  | star
  | class (negated : Bool) (intervals : List (Char × Char))
  | either (alternatives : List (List Glob))

namespace Glob

/-! ## Reading -/

/-- A text as a glob that stands for itself, as far as stars, question marks, brackets and braces
go. A backslash keeps its meaning. -/
def escape (text : Text) : Text :=
  text.flatMap fun c =>
    if ['?', '*', '[', ']', '{', '}'].contains c then ['[', c, ']'] else [c]

/-- Reads the members of a class up to its closing bracket. `intervals` are those read so far, the
last one first, and `open?` tells whether a hyphen waits for the end of the first of them. -/
def readClass (first pending : Bool) (intervals : List (Char × Char)) :
    Text → Option (List (Char × Char) × Text)
  | [] => none
  | c :: rest =>
    if c = ']' && !first then
      some (if pending then ('-', '-') :: intervals else intervals, rest)
    else if c = '-' && !first && !pending then readClass false true intervals rest
    else if pending then
      match intervals with
      | (low, _) :: more => if c < low then none else readClass false false ((low, c) :: more) rest
      | [] => none
    else readClass false false ((c, c) :: intervals) rest

theorem length_readClass {first pending : Bool} {intervals read : List (Char × Char)}
    {text rest : Text} (h : readClass first pending intervals text = some (read, rest)) :
    rest.length ≤ text.length := by
  fun_induction readClass first pending intervals text with
  | case1 => simp at h
  | case2 =>
    simp only [Option.some.injEq, Prod.mk.injEq] at h
    simp only [List.length_cons, h.2]
    omega
  | case3 _ _ _ _ _ _ _ ih => exact Nat.le_succ_of_le (ih h)
  | case4 => simp at h
  | case5 _ _ _ _ _ _ _ _ _ ih => exact Nat.le_succ_of_le (ih h)
  | case6 => simp at h
  | case7 _ _ _ _ _ _ _ _ ih => exact Nat.le_succ_of_le (ih h)

/-- Alternatives that are being read: those already complete, and the parts of the current one,
each the last one first. -/
structure Branches where
  complete : List (List Glob)
  current : List Glob

/-- Adds a part to the innermost alternatives. -/
def push (part : Glob) : List Branches → List Branches
  | [] => []
  | b :: outer => { b with current := part :: b.current } :: outer

/-- Reads a glob. `open` holds the alternatives that are open, the innermost first; the last one is
the glob itself. -/
def readFrom (levels : List Branches) : Text → Option (List Glob)
  | [] =>
    match levels with
    | [whole] => some whole.current.reverse
    | _ => none
  | '?' :: rest => readFrom (push .anyOne levels) rest
  | '*' :: rest => readFrom (push .star levels) rest
  | '{' :: rest => readFrom (⟨[], []⟩ :: levels) rest
  | '}' :: rest =>
    match levels with
    | inner :: outer :: more =>
      let alternatives := (inner.current.reverse :: inner.complete).reverse
      readFrom ({ outer with current := .either alternatives :: outer.current } :: more) rest
    | _ => none
  | ',' :: rest =>
    match levels with
    | inner :: outer :: more =>
      readFrom (⟨inner.current.reverse :: inner.complete, []⟩ :: outer :: more) rest
    | _ => readFrom (push (.literal ',') levels) rest
  | ['\\'] => none
  | '\\' :: c :: rest => readFrom (push (.literal c) levels) rest
  | '[' :: rest =>
    let negated := rest.head? = some '!' || rest.head? = some '^'
    match _h : readClass true false [] (if negated then rest.tail else rest) with
    | some (intervals, after) => readFrom (push (.class negated intervals) levels) after
    | none => none
  | c :: rest => readFrom (push (.literal c) levels) rest
  termination_by text => text.length
  decreasing_by
    all_goals simp only [List.length_cons]
    all_goals try omega
    have h₁ := length_readClass _h
    split at h₁
    · simp only [List.length_tail] at h₁
      omega
    · omega

/-- The glob that a text denotes. -/
def read? (text : Text) : Option (List Glob) := readFrom [⟨[], []⟩] text

/-! ## Matching -/

/-- The rests of a text after beginnings without a slash. -/
def restsOfStar : Text → List Text
  | [] => [[]]
  | c :: rest => if c = '/' then [c :: rest] else (c :: rest) :: restsOfStar rest

mutual

/-- The rests of a text after the beginnings that a part matches. -/
def rests : Glob → Text → List Text
  | literal c, text =>
    match text with
    | d :: rest => if d = c then [rest] else []
    | [] => []
  | anyOne, text =>
    match text with
    | d :: rest => if d = '/' then [] else [rest]
    | [] => []
  | star, text => restsOfStar text
  | .class negated intervals, text =>
    match text with
    | d :: rest =>
      if (intervals.any fun (low, high) => low ≤ d && d ≤ high) != negated && d ≠ '/' then [rest]
      else []
    | [] => []
  | either alternatives, text =>
    if alternatives.all List.isEmpty then [text] else restsOfEither alternatives text

/-- The rests after the beginnings that a sequence of parts matches. -/
def restsOfAll : List Glob → Text → List Text
  | [], text => [text]
  | part :: more, text => (rests part text).flatMap fun rest => restsOfAll more rest

/-- The rests after the beginnings that one of several sequences matches. Empty sequences do not
count. -/
def restsOfEither : List (List Glob) → Text → List Text
  | [], _ => []
  | parts :: more, text =>
    (if parts.isEmpty then [] else restsOfAll parts text) ++ restsOfEither more text

end

/-- Whether a glob matches a whole text. -/
def matchesText (glob : List Glob) (text : Text) : Bool :=
  (restsOfAll glob text).any List.isEmpty

end Glob

end Tangle
