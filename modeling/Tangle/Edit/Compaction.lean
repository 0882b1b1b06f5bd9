import Tangle.Edit.Piece

/-!
# Compaction of edit scripts

A run of added entries next to a kept run can often stand at several places. Each edit is moved as
far up as it goes and then as far down, joining the edits of its side that it meets and passing the
others: first all edits of the old side, then all of the new side.
-/

namespace Tangle.Edit

variable {α : Type} [DecidableEq α]

/-- A place in a script: the pieces before it, nearest first, the entries of the edit at it, and
the pieces after it. -/
structure Place (α : Type) where
  before : List (Piece α)
  entries : List α
  after : List (Piece α)

/-- Puts entries at the front of a kept run that begins `pieces`, or before them as a run of their
own. -/
def growFront (entries : List α) : List (Piece α) → List (Piece α)
  | .keep more :: rest => .keep (entries ++ more) :: rest
  | pieces => .keep entries :: pieces

/-- The same for the pieces before a place, nearest first. -/
def growBack (entries : List α) : List (Piece α) → List (Piece α)
  | .keep more :: rest => .keep (more ++ entries) :: rest
  | pieces => .keep entries :: pieces

/-- The entries that an edit adds to the new side. -/
def added (side : Side) (entries : List α) : List α :=
  match side with
  | .old => []
  | .new => entries

/-- The length of the longest common end of two lists. -/
def commonEnd (s t : List α) : Nat := (splitCommon s.reverse t.reverse).1.length

/-- The length of the longest common beginning of two lists. -/
def commonStart (s t : List α) : Nat := (splitCommon s t).1.length

/-- Moves an edit up. Over a kept run it moves by the entries that the run and the edit have in
common at their ends, and stops where there are none. -/
def shiftUp (side : Side) : List (Piece α) → List α → List (Piece α) → Place α
  | [], entries, after => ⟨[], entries, after⟩
  | .edit s above :: before, entries, after =>
    if s = side then shiftUp side before (above ++ entries) after
    else shiftUp side before entries (.edit s above :: after)
  | .keep run :: before, entries, after =>
    let shared := commonEnd run (added side entries)
    if 0 < shared ∧ shared ≤ run.length then
      let stays := run.take (run.length - shared)
      let moved := run.drop (run.length - shared)
      let entries := moved ++ entries.take (entries.length - shared)
      let after := growFront moved after
      if stays.isEmpty then shiftUp side before entries after
      else shiftUp side (.keep stays :: before) entries after
    else if run.isEmpty then shiftUp side before entries after
    else ⟨.keep run :: before, entries, after⟩
  termination_by before => before.foldr (fun piece weight => piece.size + 1 + weight) 0
  decreasing_by
    all_goals simp only [List.foldr_cons, Piece.size, List.length_take]
    all_goals omega

/-- Moves an edit down, as `shiftUp` moves it up. -/
def shiftDown (side : Side) : List (Piece α) → List α → List (Piece α) → Place α
  | before, entries, [] => ⟨before, entries, []⟩
  | before, entries, .edit s below :: after =>
    if s = side then shiftDown side before (entries ++ below) after
    else shiftDown side (.edit s below :: before) entries after
  | before, entries, .keep run :: after =>
    let shared := commonStart run (added side entries)
    if 0 < shared ∧ shared ≤ run.length then
      let moved := run.take shared
      let stays := run.drop shared
      let entries := entries.drop shared ++ moved
      let before := growBack moved before
      if stays.isEmpty then shiftDown side before entries after
      else shiftDown side before entries (.keep stays :: after)
    else if run.isEmpty then shiftDown side before entries after
    else ⟨before, entries, .keep run :: after⟩
  termination_by _ _ after => after.foldr (fun piece weight => piece.size + 1 + weight) 0
  decreasing_by
    all_goals simp only [List.foldr_cons, Piece.size, List.length_drop]
    all_goals omega

/-- The number of edits of one side. -/
def editCount (side : Side) (pieces : List (Piece α)) : Nat := pieces.countP (Piece.isEditOf side)

omit [DecidableEq α] in
theorem editCount_growFront (side : Side) (entries : List α) (pieces : List (Piece α)) :
    editCount side (growFront entries pieces) = editCount side pieces := by
  unfold growFront editCount
  split <;> simp [Piece.isEditOf]

/-- Moving an edit up puts no edit of its own side behind it. -/
theorem editCount_shiftUp (side : Side) (before : List (Piece α)) (entries : List α)
    (after : List (Piece α)) :
    editCount side (shiftUp side before entries after).after ≤ editCount side after := by
  fun_induction shiftUp side before entries after with
  | case1 => exact Nat.le_refl _
  | case2 _ _ _ _ ih => exact ih
  | case3 _ _ _ _ _ h ih => simpa [editCount, Piece.isEditOf, h] using ih
  | case4 run _ _ after shared _ _ _ _ _ _ ih =>
    exact Nat.le_trans ih (Nat.le_of_eq (editCount_growFront side _ after))
  | case5 run _ _ after shared _ _ _ _ _ _ ih =>
    exact Nat.le_trans ih (Nat.le_of_eq (editCount_growFront side _ after))
  | case6 _ _ _ _ _ _ _ ih => exact ih
  | case7 => exact Nat.le_refl _

/-- Moving an edit down leaves no more edits of its side behind it than there were. -/
theorem editCount_shiftDown (side : Side) (before : List (Piece α)) (entries : List α)
    (after : List (Piece α)) :
    editCount side (shiftDown side before entries after).after ≤ editCount side after := by
  fun_induction shiftDown side before entries after with
  | case1 => exact Nat.le_refl _
  | case2 before entries below after ih =>
    refine Nat.le_trans ih ?_
    rw [editCount, editCount, List.countP_cons]
    exact Nat.le_add_right _ _
  | case3 before entries s below after h ih => simpa [editCount, Piece.isEditOf, h] using ih
  | case4 _ _ _ _ _ _ _ _ _ _ _ ih => simpa [editCount, Piece.isEditOf] using ih
  | case5 _ _ _ _ _ _ _ _ _ _ _ ih => simpa [editCount, Piece.isEditOf] using ih
  | case6 _ _ _ _ _ _ _ ih => simpa [editCount, Piece.isEditOf] using ih
  | case7 => exact Nat.le_refl _

/-- Moves every edit of one side, from the first piece to the last. `before` holds the pieces that
are done, the last one first. -/
def settle (side : Side) (before : List (Piece α)) : List (Piece α) → List (Piece α)
  | [] => before.reverse
  | .keep run :: rest => settle side (.keep run :: before) rest
  | .edit s entries :: rest =>
    if s = side then
      let up := shiftUp side before entries rest
      let down := shiftDown side up.before up.entries up.after
      settle side (.edit side down.entries :: down.before) down.after
    else settle side (.edit s entries :: before) rest
  termination_by pieces => (editCount side pieces, pieces.length)
  decreasing_by
    · simp [editCount, Piece.isEditOf, Prod.lex_def]
    · rename_i h
      have h₁ := editCount_shiftUp side before entries rest
      have h₂ := editCount_shiftDown side up.before up.entries up.after
      apply Prod.Lex.left
      simp only [editCount, List.countP_cons, Piece.isEditOf, h, decide_true, if_true]
      simp only [editCount, up] at *
      omega
    · rename_i h
      simp [editCount, Piece.isEditOf, Prod.lex_def, h]

/-- A script with all edits in their final places. -/
def compact (script : List (Piece α)) : List (Piece α) :=
  settle .new [] (settle .old [] script)

/-! ## Changes -/

/-- A single entry of a script. -/
inductive Change (α : Type) where
  | keep (entry : α)
  | drop (entry : α)
  | add (entry : α)
  deriving Repr, DecidableEq

/-- The entries of a script in order, with `dropped` and `added` still to be given out: between two
kept runs all dropped entries come before all added ones. -/
def changesAfter (dropped added : List α) : List (Piece α) → List (Change α)
  | [] => dropped.map .drop ++ added.map .add
  | .edit .old entries :: rest => changesAfter (dropped ++ entries) added rest
  | .edit .new entries :: rest => changesAfter dropped (added ++ entries) rest
  | .keep entries :: rest =>
    dropped.map .drop ++ added.map .add ++ entries.map .keep ++ changesAfter [] [] rest

/-- The entries of a script in order. -/
def changes (script : List (Piece α)) : List (Change α) := changesAfter [] [] script

end Tangle.Edit
