/-!
# Pieces of an edit script

An edit script turns one list into another. It is a list of pieces: runs of entries that both lists
hold, and runs that only one of them holds. Reading a script on one side gives that side's list.
-/

namespace Tangle.Edit

/-- One of the two lists that a script relates. -/
inductive Side where
  | old
  | new
  deriving Repr, DecidableEq

/-- A run of entries on both sides, or on one side only. -/
inductive Piece (α : Type) where
  | keep (entries : List α)
  | edit (side : Side) (entries : List α)
  deriving Repr, DecidableEq

namespace Piece

variable {α : Type}

/-- The entries that a piece stands for on one side. -/
def on (side : Side) : Piece α → List α
  | .keep entries => entries
  | .edit s entries => if s = side then entries else []

/-- The number of entries of a piece. -/
def size : Piece α → Nat
  | .keep entries => entries.length
  | .edit _ entries => entries.length

/-- Whether a piece is an edit of the given side. -/
def isEditOf (side : Side) : Piece α → Bool
  | .keep _ => false
  | .edit s _ => s = side

end Piece

/-- The list that a script has on one side. -/
def reading {α : Type} (side : Side) (script : List (Piece α)) : List α :=
  script.flatMap (Piece.on side)

/-- A piece for entries on both sides; none when there are no entries. -/
def kept {α : Type} (entries : List α) : List (Piece α) :=
  if entries.isEmpty then [] else [.keep entries]

/-- The longest common beginning of two lists, and what each has after it. -/
def splitCommon {α : Type} [DecidableEq α] : List α → List α → List α × List α × List α
  | a :: s, b :: t =>
    if a = b then
      let (common, s, t) := splitCommon s t
      (a :: common, s, t)
    else ([], a :: s, b :: t)
  | s, t => ([], s, t)

/-- A common beginning and the rests put the two lists together again. -/
theorem splitCommon_append {α : Type} [DecidableEq α] (s t : List α) :
    (splitCommon s t).1 ++ (splitCommon s t).2.1 = s ∧
      (splitCommon s t).1 ++ (splitCommon s t).2.2 = t := by
  induction s generalizing t with
  | nil => simp [splitCommon]
  | cons a s ih =>
    cases t with
    | nil => simp [splitCommon]
    | cons b t =>
      by_cases h : a = b
      · subst h
        simpa [splitCommon] using ih t
      · simp [splitCommon, h]

theorem length_splitCommon_left {α : Type} [DecidableEq α] (s t : List α) :
    (splitCommon s t).2.1.length ≤ s.length := by
  have h := congrArg List.length (splitCommon_append s t).1
  rw [List.length_append] at h
  omega

theorem length_splitCommon_right {α : Type} [DecidableEq α] (s t : List α) :
    (splitCommon s t).2.2.length ≤ t.length := by
  have h := congrArg List.length (splitCommon_append s t).2
  rw [List.length_append] at h
  omega

end Tangle.Edit
