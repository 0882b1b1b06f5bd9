import Tangle.Pattern.CharSet
import Tangle.Text

/-!
# Patterns

A pattern is a regular expression over characters with assertions about positions. Its meaning is
the set of positions at which it can end when it starts at one of a given set of positions; that is
all that asking for a match needs.
-/

namespace Tangle

namespace Pattern

/-- Which side of a word an assertion looks for. -/
inductive Boundary where
  /-- A word character on exactly one side. -/
  | edge
  /-- A word character on both sides or on none. -/
  | noEdge
  /-- A word character after the position and none before it. -/
  | start
  /-- A word character before the position and none after it. -/
  | finish
  /-- No word character before the position. -/
  | startHalf
  /-- No word character after the position. -/
  | finishHalf
  deriving Repr, DecidableEq

/-- A condition on a position in a text. -/
inductive Assertion where
  | textStart
  | textEnd
  | lineStart
  | lineEnd
  /-- A line starts where carriage returns end lines as well. -/
  | crlfLineStart
  | crlfLineEnd
  | word (boundary : Boundary) (ascii : Bool)
  deriving Repr, DecidableEq

end Pattern

/-- A regular expression. -/
inductive Pattern where
  | empty
  | char (set : Pattern.CharSet)
  | assertion (condition : Pattern.Assertion)
  | seq (first second : Pattern)
  | either (left right : Pattern)
  /-- At least `least` copies of `inner`, and at most `least + extra` if there is a bound. -/
  | repeated (inner : Pattern) (least : Nat) (extra : Option Nat)

namespace Pattern

/-! ## Positions -/

/-- The character before a position. -/
def charBefore (text : Array Char) (i : Nat) : Option Char :=
  if i = 0 then none else text[i - 1]?

/-- Whether a character is one of a word. -/
def isWord (ascii : Bool) (c : Option Char) : Bool :=
  match c with
  | some c => if ascii then isWordCharacter c else CharSet.word.has c
  | none => false

/-- Whether a condition holds at a position. -/
def Assertion.holds (text : Array Char) (i : Nat) : Assertion → Bool
  | .textStart => i = 0
  | .textEnd => i = text.size
  | .lineStart => i = 0 || charBefore text i = some '\n'
  | .lineEnd => i = text.size || text[i]? = some '\n'
  | .crlfLineStart =>
    i = 0 || charBefore text i = some '\n' ||
      (charBefore text i = some '\r' && text[i]? ≠ some '\n')
  | .crlfLineEnd =>
    i = text.size || text[i]? = some '\r' ||
      (text[i]? = some '\n' && charBefore text i ≠ some '\r')
  | .word boundary ascii =>
    let before := isWord ascii (charBefore text i)
    let after := isWord ascii text[i]?
    match boundary with
    | .edge => before != after
    | .noEdge => before == after
    | .start => !before && after
    | .finish => before && !after
    | .startHalf => !before
    | .finishHalf => !after

/-- The union of two ascending lists of positions. -/
def mergePositions : List Nat → List Nat → List Nat
  | [], t => t
  | s, [] => s
  | i :: s, j :: t =>
    if i < j then i :: mergePositions s (j :: t)
    else if j < i then j :: mergePositions (i :: s) t
    else i :: mergePositions s t

/-- Applies `step` a number of times. -/
def iterate (step : List Nat → List Nat) : Nat → List Nat → List Nat
  | 0, positions => positions
  | n + 1, positions =>
    if positions.isEmpty then [] else iterate step n (step positions)

/-- All positions that at most `n` steps lead to. -/
def reachable (step : List Nat → List Nat) : Nat → List Nat → List Nat
  | 0, positions => positions
  | n + 1, positions =>
    let more := mergePositions positions (step positions)
    if more.length = positions.length then positions else reachable step n more

/-- Where a pattern can end when it starts at one of `positions`. Positions are ascending. -/
def ends (text : Array Char) : Pattern → List Nat → List Nat
  | empty, positions => positions
  | char set, positions =>
    positions.filterMap fun i =>
      match text[i]? with
      | some c => if set.has c then some (i + 1) else none
      | none => none
  | assertion condition, positions => positions.filter fun i => condition.holds text i
  | seq first second, positions => ends text second (ends text first positions)
  | either left right, positions =>
    mergePositions (ends text left positions) (ends text right positions)
  | repeated inner least extra, positions =>
    let start := iterate (fun p => ends text inner p) least positions
    reachable (fun p => ends text inner p) ((extra.getD (text.size + 1)).min (text.size + 1)) start

/-- Whether a pattern matches somewhere in a text. -/
def occursIn (p : Pattern) (text : Text) : Bool :=
  let characters := text.toArray
  !(p.ends characters (List.range (characters.size + 1))).isEmpty

/-! ## Size -/

/-- Whether a pattern can only match the empty text. -/
def isWidthless : Pattern → Bool
  | empty => true
  | char _ => false
  | assertion _ => true
  | seq first second => first.isWidthless && second.isWidthless
  | either left right => left.isWidthless && right.isWidthless
  | repeated inner least extra => inner.isWidthless || (least = 0 && extra = some 0)

/-- A repetition. What has no width is repeated once at most. -/
def repeating (inner : Pattern) (least : Nat) (extra : Option Nat) : Pattern :=
  if inner.isWidthless then repeated inner (min least 1) (if least = 0 then some 1 else some 0)
  else repeated inner least extra

/-- An estimate, in octets, of what a compiled matcher needs for a pattern. -/
def weight : Pattern → Nat
  | empty => 0
  | char set => 24 + set.weight
  | assertion _ => 32
  | seq first second => first.weight + second.weight
  | either left right => left.weight + right.weight + 40
  | repeated inner least extra =>
    match extra with
    | none => (least + 1) * inner.weight + 40
    | some extra => least * inner.weight + extra * (inner.weight + 40)

/-- The greatest weight of a pattern that is accepted. -/
def weightBound : Nat := 10 * Nat.pow 2 20

end Pattern

end Tangle
