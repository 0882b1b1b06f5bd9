import Tangle.Edit.Piece
import Tangle.Edit.Snake

/-!
# Shortest edit scripts

A script is found by setting aside what two lists share at both ends, cutting the rest in the
middle of a shortest edit path, and going on with the two halves.
-/

namespace Tangle.Edit

variable {α : Type} [DecidableEq α]

/-- What two lists share at their ends, and the parts between. -/
structure Trimmed (α : Type) where
  front : List α
  old : List α
  new : List α
  back : List α

/-- Sets aside the common beginning and then the common end of two lists. -/
def trimmed (old new : List α) : Trimmed α :=
  let front := splitCommon old new
  let back := splitCommon front.2.1.reverse front.2.2.reverse
  ⟨front.1, back.2.1.reverse, back.2.2.reverse, back.1.reverse⟩

theorem length_trimmed_old (old new : List α) : (trimmed old new).old.length ≤ old.length := by
  have h₁ := length_splitCommon_left old new
  have h₂ := length_splitCommon_left (splitCommon old new).2.1.reverse
    (splitCommon old new).2.2.reverse
  simp only [List.length_reverse] at h₂
  simp only [trimmed, List.length_reverse]
  omega

theorem length_trimmed_new (old new : List α) : (trimmed old new).new.length ≤ new.length := by
  have h₁ := length_splitCommon_right old new
  have h₂ := length_splitCommon_right (splitCommon old new).2.1.reverse
    (splitCommon old new).2.2.reverse
  simp only [List.length_reverse] at h₂
  simp only [trimmed, List.length_reverse]
  omega

/-- A shortest script from `old` to `new`. -/
def script (old new : List α) : List (Piece α) :=
  let parts := trimmed old new
  kept parts.front ++
    (if parts.old.isEmpty && parts.new.isEmpty then []
    else if parts.new.isEmpty then [.edit .old parts.old]
    else if parts.old.isEmpty then [.edit .new parts.new]
    else
      match middle? parts.old parts.new with
      | none => [.edit .old parts.old, .edit .new parts.new]
      | some (x, y) =>
        if _ : (x < parts.old.length ∨ y < parts.new.length) ∧
            ((0 < x ∧ 0 < parts.old.length) ∨ (0 < y ∧ 0 < parts.new.length)) then
          script (parts.old.take x) (parts.new.take y) ++
            script (parts.old.drop x) (parts.new.drop y)
        else [.edit .old parts.old, .edit .new parts.new]) ++
    kept parts.back
  termination_by old.length + new.length
  decreasing_by
    all_goals
      have h₁ := length_trimmed_old old new
      have h₂ := length_trimmed_new old new
      simp only [List.length_take, List.length_drop]
      simp only [parts] at *
      omega

end Tangle.Edit
