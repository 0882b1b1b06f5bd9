/-!
# The middle of a shortest edit path

Two lists span a grid; an edit path leads from its origin to the opposite corner, a step right for
an entry dropped, a step down for one added, and a free diagonal step for an entry that both lists
share. Searching from both corners at once, with one more edit on each side in every round, the two
searches meet in the middle of a shortest path.

Diagonal `k` holds the points with `x - y = k`. After round `d` a search knows how far `d` edits
lead on the diagonals `d, d - 2, …, -d`, listed in that order. The backward search is the forward
one on the reversed lists.
-/

namespace Tangle.Edit

variable {α : Type} [DecidableEq α]

/-- The number of equal entries from `x` in `old` and `y` in `new` on. -/
def diagonalRun (old new : Array α) (x y : Nat) : Nat :=
  if h : x < old.size ∧ y < new.size then
    if old[x] = new[y] then diagonalRun old new (x + 1) (y + 1) + 1 else 0
  else 0
  termination_by old.size - x

/-- Where the paths of the next round leave the neighbouring diagonals, between the outermost
ones: the further of a step down from above and a step right from below. -/
def innerStarts : List Nat → List Nat
  | above :: below :: rest =>
    (if below < above then above else below + 1) :: innerStarts (below :: rest)
  | last => last

/-- Where the paths of the next round start, given how far those of the round before came. -/
def starts : List Nat → List Nat
  | [] => [0]
  | first :: rest => (first + 1) :: innerStarts (first :: rest)

/-- A path on one diagonal: where it starts there, and how far it comes along it. -/
structure Reach where
  diagonal : Int
  start : Nat
  furthest : Nat

/-- How far `d` edits lead on each diagonal, given how far one edit less led. -/
def advance (old new : Array α) (d : Nat) (before : List Nat) : List Reach :=
  (starts before).mapIdx fun i (x : Nat) =>
    let diagonal : Int := (d : Int) - 2 * i
    let y : Int := (x : Int) - diagonal
    let run := if 0 ≤ y then diagonalRun old new x y.toNat else 0
    ⟨diagonal, x, x + run⟩

/-- Whether a path on diagonal `k` meets the opposite search, whose last round was `d`. -/
def meets (size : Nat) (delta : Int) (opposite : List Nat) (d : Int) (reach : Reach) : Bool :=
  let k := delta - reach.diagonal
  match opposite[((d - k) / 2).toNat]? with
  | some x => -d ≤ k && k ≤ d && size ≤ reach.furthest + x
  | none => false

/-- The rounds from `d` on, `rounds` of them, until the searches meet. The forward search meets
the round before it when the lengths differ by an odd number, the backward search meets the same
round when they differ by an even one. -/
def searchFrom (old new oldBack newBack : Array α) (d : Nat) (forward backward : List Nat) :
    Nat → Option (Nat × Nat)
  | 0 => none
  | rounds + 1 =>
    let delta : Int := (old.size : Int) - new.size
    let odd := delta % 2 ≠ 0
    let ahead := advance old new d forward
    match if odd then ahead.find? (meets old.size delta backward ((d : Int) - 1)) else none with
    | some reach => some (reach.start, ((reach.start : Int) - reach.diagonal).toNat)
    | none =>
      let forward := ahead.map Reach.furthest
      let back := advance oldBack newBack d backward
      match if odd then none else back.find? (meets old.size delta forward d) with
      | some reach =>
        some (old.size - reach.furthest,
          ((new.size : Int) - ((reach.furthest : Int) - reach.diagonal)).toNat)
      | none =>
        searchFrom old new oldBack newBack (d + 1) forward (back.map Reach.furthest) rounds

/-- A point where a shortest edit path can be cut in two. -/
def middle? (old new : List α) : Option (Nat × Nat) :=
  searchFrom old.toArray new.toArray old.reverse.toArray new.reverse.toArray 0 [] []
    ((old.length + new.length + 1) / 2 + 1)

end Tangle.Edit
