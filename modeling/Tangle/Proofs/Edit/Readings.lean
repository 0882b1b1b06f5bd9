import Mathlib.Data.List.Basic
import Tangle.Edit.Compaction
import Tangle.Edit.Script

/-!
# Readings of edit scripts

A script is right if its readings are the two lists that it relates. Cutting the lists in the middle
of an edit path keeps this wherever the cut is made. Moving an edit over its neighbours keeps both
readings as well: over an edit of the other side, since each side reads only one of the two, and
over the end of a kept run, since these entries are the last ones of the edit too.
-/

namespace Tangle.Edit

variable {α : Type}

/-! ## Reading -/

@[simp] theorem reading_nil (side : Side) : reading side ([] : List (Piece α)) = [] := rfl

@[simp] theorem reading_cons (side : Side) (piece : Piece α) (script : List (Piece α)) :
    reading side (piece :: script) = piece.on side ++ reading side script := rfl

@[simp] theorem reading_append (side : Side) (script more : List (Piece α)) :
    reading side (script ++ more) = reading side script ++ reading side more :=
  List.flatMap_append

@[simp] theorem Piece.on_keep (side : Side) (entries : List α) :
    (Piece.keep entries).on side = entries := rfl

@[simp] theorem Piece.on_edit_self (side : Side) (entries : List α) :
    (Piece.edit side entries).on side = entries := if_pos rfl

theorem Piece.on_edit_of_ne {s side : Side} (h : s ≠ side) (entries : List α) :
    (Piece.edit s entries).on side = [] := if_neg h

@[simp] theorem reading_kept (side : Side) (entries : List α) :
    reading side (kept entries) = entries := by
  unfold kept
  split
  · rename_i hempty
    rw [List.isEmpty_iff.mp hempty]
    rfl
  · rw [reading_cons, Piece.on_keep, reading_nil, List.append_nil]

@[simp] theorem reading_growFront (side : Side) (entries : List α) (pieces : List (Piece α)) :
    reading side (growFront entries pieces) = entries ++ reading side pieces := by
  unfold growFront
  split <;> simp

@[simp] theorem reading_reverse_growBack (side : Side) (entries : List α)
    (pieces : List (Piece α)) :
    reading side (growBack entries pieces).reverse = reading side pieces.reverse ++ entries := by
  unfold growBack
  split <;> simp

/-- Neighbouring edits of different sides can be read in either order. -/
theorem reading_swap {s side : Side} (h : s ≠ side) (on : Side) (entries more : List α)
    (rest : List (Piece α)) :
    reading on (.edit s entries :: .edit side more :: rest) =
      reading on (.edit side more :: .edit s entries :: rest) := by
  by_cases hs : s = on
  · subst hs
    simp [Piece.on_edit_of_ne h.symm]
  · simp [Piece.on_edit_of_ne hs]

variable [DecidableEq α]

/-! ## Scripts -/

omit [DecidableEq α] in
/-- What belongs to a side, of two things. -/
def Side.pick {β : Type} (old new : β) : Side → β
  | .old => old
  | .new => new

theorem pick_trimmed (side : Side) (old new : List α) :
    (trimmed old new).front ++
      (side.pick (trimmed old new).old (trimmed old new).new ++ (trimmed old new).back) =
      side.pick old new := by
  have hfront := splitCommon_append old new
  have hback := splitCommon_append (splitCommon old new).2.1.reverse
    (splitCommon old new).2.2.reverse
  cases side with
  | old =>
    dsimp only [Side.pick, trimmed]
    rw [← List.reverse_append, hback.1, List.reverse_reverse, hfront.1]
  | new =>
    dsimp only [Side.pick, trimmed]
    rw [← List.reverse_append, hback.2, List.reverse_reverse, hfront.2]

omit [DecidableEq α] in
theorem reading_replacement (side : Side) (old new : List α) :
    reading side [.edit .old old, .edit .new new] = side.pick old new := by
  cases side <;> simp [Side.pick, Piece.on]

/-- **A script relates its two lists**, wherever they were cut. -/
theorem reading_script (side : Side) (old new : List α) :
    reading side (script old new) = side.pick old new := by
  induction old, new using script.induct with
  | case1 old new parts ihFront ihBack =>
    rw [script, reading_append, reading_append, reading_kept, reading_kept, List.append_assoc]
    refine Eq.trans ?_ (pick_trimmed side old new)
    congr 2
    -- what remains is the part between the common ends
    split
    · rename_i hempty
      obtain ⟨hold, hnew⟩ := Bool.and_eq_true_iff.mp hempty
      rw [List.isEmpty_iff.mp hold, List.isEmpty_iff.mp hnew]
      cases side <;> rfl
    split
    · rename_i hnew
      rw [List.isEmpty_iff.mp hnew]
      cases side <;> simp [Side.pick, Piece.on]
    split
    · rename_i hold
      rw [List.isEmpty_iff.mp hold]
      cases side <;> simp [Side.pick, Piece.on]
    cases middle? (trimmed old new).old (trimmed old new).new with
    | none => exact reading_replacement side ..
    | some point =>
      obtain ⟨x, y⟩ := point
      dsimp only
      split
      · rename_i hproper
        rw [reading_append, ihFront x y hproper, ihBack x y hproper]
        cases side <;> exact List.take_append_drop ..
      · exact reading_replacement side ..

/-- A script of a list and itself keeps everything. -/
theorem script_self (entries : List α) : script entries entries = kept entries := by
  have hsplit : splitCommon entries entries = (entries, [], []) := by
    induction entries with
    | nil => rfl
    | cons a rest ih => simp [splitCommon, ih]
  have htrimmed : trimmed entries entries = ⟨entries, [], [], []⟩ := by
    simp [trimmed, hsplit, splitCommon]
  rw [script, htrimmed]
  simp [kept]

/-! ## Compaction -/

/-- An edit moves up over the end of a kept run only if it adds entries and these end as the run
does. Each side then reads the same when what is shared stands behind the edit. -/
theorem rotate_up (on : Side) {side : Side} {run entries : List α}
    (h : 0 < commonEnd run (added side entries)) :
    let shared := commonEnd run (added side entries)
    let moved := run.drop (run.length - shared)
    run.take (run.length - shared) ++
        ((Piece.edit side (moved ++ entries.take (entries.length - shared))).on on ++ moved) =
      run ++ (Piece.edit side entries).on on := by
  have hcommon := splitCommon_append run.reverse (added side entries).reverse
  rw [commonEnd] at h ⊢
  generalize splitCommon run.reverse (added side entries).reverse = split at h hcommon ⊢
  have hrun := congrArg List.reverse hcommon.1
  have hentries := congrArg List.reverse hcommon.2
  rw [List.reverse_append, List.reverse_reverse] at hrun hentries
  cases side with
  | old =>
    have hlength := congrArg List.length hentries
    rw [List.length_append, List.length_reverse, List.length_reverse, added, List.length_nil]
      at hlength
    omega
  | new =>
    rw [added] at hentries
    subst hrun hentries
    cases on <;> simp [Piece.on]

/-- The same for moving down over the beginning of a kept run. -/
theorem rotate_down (on : Side) {side : Side} {run entries : List α}
    (h : 0 < commonStart run (added side entries)) :
    let shared := commonStart run (added side entries)
    let moved := run.take shared
    moved ++ ((Piece.edit side (entries.drop shared ++ moved)).on on ++ run.drop shared) =
      (Piece.edit side entries).on on ++ run := by
  have hcommon := splitCommon_append run (added side entries)
  rw [commonStart] at h ⊢
  generalize splitCommon run (added side entries) = split at h hcommon ⊢
  obtain ⟨hrun, hentries⟩ := hcommon
  cases side with
  | old =>
    have hlength := congrArg List.length hentries
    rw [List.length_append, added, List.length_nil] at hlength
    omega
  | new =>
    rw [added] at hentries
    subst hrun hentries
    cases on <;> simp [Piece.on]

/-- The pieces around a place, with the edit at it. -/
def Place.pieces (side : Side) (place : Place α) : List (Piece α) :=
  place.before.reverse ++ .edit side place.entries :: place.after

omit [DecidableEq α] in
@[simp] theorem reading_pieces (on side : Side) (place : Place α) :
    reading on (place.pieces side) = reading on place.before.reverse ++
      ((Piece.edit side place.entries).on on ++ reading on place.after) := by
  rw [Place.pieces, reading_append, reading_cons]

/-- Moving an edit up keeps both readings. -/
theorem reading_shiftUp (on side : Side) (before : List (Piece α)) (entries : List α)
    (after : List (Piece α)) :
    reading on ((shiftUp side before entries after).pieces side) =
      reading on (Place.pieces side ⟨before, entries, after⟩) := by
  -- one case for each move of the edit: a merge with an edit of its side, a swap with one of the
  -- other side, a rotation through a kept run
  fun_induction shiftUp side before entries after with
  | case1 => rfl
  | case2 above before entries after ih =>
    rw [ih]
    by_cases hon : side = on
    · subst hon
      simp
    · simp [Piece.on_edit_of_ne hon]
  | case3 s above before entries after h ih =>
    rw [ih]
    simp only [Place.pieces, List.reverse_cons, List.append_assoc, List.singleton_append]
    rw [reading_append, reading_append, reading_swap h]
  | case4 run before entries after shared h stays moved entries' after' hempty ih =>
    have hrotate : stays ++ ((Piece.edit side entries').on on ++ moved) =
        run ++ (Piece.edit side entries).on on := rotate_up on h.1
    -- nothing of the run stays, and no empty run is left
    rw [List.isEmpty_iff.mp hempty, List.nil_append] at hrotate
    rw [ih]
    simpa [after'] using
      congrArg (fun middle => reading on before.reverse ++ (middle ++ reading on after)) hrotate
  | case5 run before entries after shared h stays moved entries' after' hempty ih =>
    have hrotate : stays ++ ((Piece.edit side entries').on on ++ moved) =
        run ++ (Piece.edit side entries).on on := rotate_up on h.1
    rw [ih]
    simpa [after'] using
      congrArg (fun middle => reading on before.reverse ++ (middle ++ reading on after)) hrotate
  | case6 run before entries after shared h hempty ih =>
    rw [ih, List.isEmpty_iff.mp hempty]
    simp
  | case7 => rfl

/-- Moving an edit down keeps both readings. -/
theorem reading_shiftDown (on side : Side) (before : List (Piece α)) (entries : List α)
    (after : List (Piece α)) :
    reading on ((shiftDown side before entries after).pieces side) =
      reading on (Place.pieces side ⟨before, entries, after⟩) := by
  fun_induction shiftDown side before entries after with
  | case1 => rfl
  | case2 before entries below after ih =>
    rw [ih]
    by_cases hon : side = on
    · subst hon
      simp
    · simp [Piece.on_edit_of_ne hon]
  | case3 before entries s below after h ih =>
    rw [ih]
    simp only [Place.pieces, List.reverse_cons, List.append_assoc, List.singleton_append]
    rw [reading_append, reading_append, reading_swap h]
  | case4 before entries run after shared h moved stays entries' before' hempty ih =>
    have hrotate : moved ++ ((Piece.edit side entries').on on ++ stays) =
        (Piece.edit side entries).on on ++ run := rotate_down on h.1
    rw [List.isEmpty_iff.mp hempty, List.append_nil] at hrotate
    rw [ih]
    simpa [before'] using
      congrArg (fun middle => reading on before.reverse ++ (middle ++ reading on after)) hrotate
  | case5 before entries run after shared h moved stays entries' before' hempty ih =>
    have hrotate : moved ++ ((Piece.edit side entries').on on ++ stays) =
        (Piece.edit side entries).on on ++ run := rotate_down on h.1
    rw [ih]
    simpa [before'] using
      congrArg (fun middle => reading on before.reverse ++ (middle ++ reading on after)) hrotate
  | case6 before entries run after shared h hempty ih =>
    rw [ih, List.isEmpty_iff.mp hempty]
    simp
  | case7 => rfl

theorem reading_settle (on side : Side) (before pieces : List (Piece α)) :
    reading on (settle side before pieces) = reading on (before.reverse ++ pieces) := by
  fun_induction settle side before pieces with
  | case1 => simp
  | case2 before run rest ih => simp [ih]
  | case3 before entries rest up down ih =>
    have hup : reading on (up.pieces side) = _ := reading_shiftUp on side before entries rest
    have hdown : reading on (down.pieces side) = reading on (up.pieces side) :=
      reading_shiftDown on side up.before up.entries up.after
    rw [ih, List.reverse_cons, List.append_assoc]
    exact hdown.trans hup
  | case4 before s entries rest h ih => simp [ih]

/-- Compaction keeps both readings. -/
theorem reading_compact (on : Side) (script : List (Piece α)) :
    reading on (compact script) = reading on script := by
  simp [compact, reading_settle]

theorem compact_kept (entries : List α) : compact (kept entries) = kept entries := by
  unfold kept
  split <;> simp [compact, settle]

/-! ## Changes -/

omit [DecidableEq α]

/-- The entry that a change stands for on one side, if there is one. -/
def Change.on (side : Side) : Change α → Option α
  | .keep entry => some entry
  | .drop entry => side.pick (some entry) none
  | .add entry => side.pick none (some entry)

theorem filterMap_keep (side : Side) (entries : List α) :
    (entries.map Change.keep).filterMap (Change.on side) = entries := by
  rw [List.filterMap_map]
  exact List.filterMap_some

theorem filterMap_pending (side : Side) (dropped added : List α) :
    (dropped.map Change.drop ++ added.map Change.add).filterMap (Change.on side) =
      side.pick dropped added := by
  rw [List.filterMap_append, List.filterMap_map, List.filterMap_map]
  cases side with
  | old =>
    rw [show Change.on .old ∘ Change.drop = some from rfl,
      show Change.on .old ∘ Change.add = fun _ : α => none from rfl, List.filterMap_some,
      List.filterMap_eq_nil_iff.mpr fun _ _ => rfl, List.append_nil]
    rfl
  | new =>
    rw [show Change.on .new ∘ Change.drop = fun _ : α => none from rfl,
      show Change.on .new ∘ Change.add = some from rfl, List.filterMap_some,
      List.filterMap_eq_nil_iff.mpr fun _ _ => rfl]
    rfl

theorem filterMap_changesAfter (side : Side) (dropped added : List α) (script : List (Piece α)) :
    (changesAfter dropped added script).filterMap (Change.on side) =
      side.pick dropped added ++ reading side script := by
  fun_induction changesAfter dropped added script with
  | case1 dropped added => rw [filterMap_pending, reading_nil, List.append_nil]
  | case2 dropped added entries rest ih =>
    rw [ih]
    cases side <;> simp [Side.pick, Piece.on]
  | case3 dropped added entries rest ih =>
    rw [ih]
    cases side <;> simp [Side.pick, Piece.on]
  | case4 dropped added entries rest ih =>
    rw [List.filterMap_append, List.filterMap_append, filterMap_pending, filterMap_keep, ih]
    cases side <;> simp [Side.pick]

/-- The entries of a script on one side are those that the side reads. -/
theorem filterMap_changes (side : Side) (script : List (Piece α)) :
    (changes script).filterMap (Change.on side) = reading side script := by
  rw [changes, filterMap_changesAfter]
  cases side <;> rfl

/-- Whether a change keeps its entry. -/
def Change.isKeep : Change α → Bool
  | .keep _ => true
  | .drop _ => false
  | .add _ => false

/-- Both sides of kept entries are the same. -/
theorem Change.on_of_isKeep {change : Change α} (h : change.isKeep = true) (side other : Side) :
    change.on side = change.on other := by
  cases change with
  | keep entry => rfl
  | drop entry => cases h
  | add entry => cases h

theorem changes_kept (entries : List α) : changes (kept entries) = entries.map Change.keep := by
  unfold kept
  split
  · rename_i hempty
    rw [List.isEmpty_iff.mp hempty]
    rfl
  · simp [changes, changesAfter]

/-- **The changes from one list to another** are the entries of both, and nothing is dropped or
added exactly if they are the same list. -/
theorem changes_compact_script [DecidableEq α] (old new : List α) :
    let all := changes (compact (script old new))
    all.filterMap (Change.on .old) = old ∧ all.filterMap (Change.on .new) = new ∧
      ((∀ change ∈ all, change.isKeep = true) ↔ old = new) := by
  intro all
  have hread (side : Side) : all.filterMap (Change.on side) = side.pick old new := by
    rw [filterMap_changes, reading_compact, reading_script]
  refine ⟨hread .old, hread .new, fun hkeep => ?_, ?_⟩
  · calc
      old = all.filterMap (Change.on .old) := (hread .old).symm
      _ = all.filterMap (Change.on .new) :=
        List.filterMap_congr fun change hchange => Change.on_of_isKeep (hkeep change hchange) ..
      _ = new := hread .new
  · rintro rfl change hchange
    have hall : all = old.map Change.keep := by
      rw [← changes_kept, ← compact_kept, ← script_self]
    rw [hall] at hchange
    obtain ⟨entry, -, rfl⟩ := List.mem_map.mp hchange
    rfl

end Tangle.Edit
