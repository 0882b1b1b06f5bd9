import Tangle.Filter
import Tangle.Proofs.Extraction.Parts

/-!
# Excluded lines

A filter acts on the lines of bodies while a document is read. This comes to the same as deleting
the excluded lines beforehand and reading what is left without a filter: an excluded line adds no
text, has no part in the common indentation, and neither ends a body nor joins two. Lines that could
not belong to a body are never deleted, so that no prose and no declaration is lost.
-/

namespace Tangle

variable (excluded : Text → Bool)

/-- Whether a line is left when the excluded lines are deleted. Only lines that could belong to a
body can be excluded. -/
def isLeft (line : Text) : Bool := !(isBodyLine line && excluded line)

/-- A document with its excluded lines deleted. -/
def withoutExcluded (content : Text) : Text := (content.lines.filter (isLeft excluded)).flatten

/-- The number of a line once the excluded lines are deleted: how many of the lines up to it are
left. -/
def numberLeft (content : Text) (number : Nat) : Nat :=
  (content.lines.take number).countP (isLeft excluded)

/-- What is left of a document has the lines that are left. -/
theorem lines_withoutExcluded (content : Text) :
    (withoutExcluded excluded content).lines = content.lines.filter (isLeft excluded) :=
  ((Text.areLines_lines content).of_sublist List.filter_sublist).lines_flatten

/-- What is left of a body is its lines that are not excluded. -/
theorem takeWhile_filter_isLeft (rest : List Text) :
    (rest.filter (isLeft excluded)).takeWhile isBodyLine =
      (rest.takeWhile isBodyLine).filter fun l => !excluded l := by
  induction rest with
  | nil => rfl
  | cons line rest ih =>
    by_cases hbody : isBodyLine line = true
    · rw [List.takeWhile_cons_of_pos hbody]
      by_cases hline : excluded line = true
      · have hleft : ¬ isLeft excluded line = true := by simp [isLeft, hbody, hline]
        rw [List.filter_cons_of_neg hleft, List.filter_cons_of_neg (by simp [hline])]
        exact ih
      · have hleft : isLeft excluded line = true := by simp [isLeft, hline]
        rw [List.filter_cons_of_pos hleft, List.filter_cons_of_pos (by simp [hline]),
          List.takeWhile_cons_of_pos hbody, ih]
    · -- the line ends the body, and is left to do so
      have hleft : isLeft excluded line = true := by simp [isLeft, hbody]
      rw [List.filter_cons_of_pos hleft, List.takeWhile_cons_of_neg hbody,
        List.takeWhile_cons_of_neg hbody]
      rfl

/-- A body is read as what the filter keeps of it. -/
theorem readBody_filter (file : Text) (number : Nat) (name template version : Text)
    (body : List Text) :
    readBody LineFilter.none.excludes file number name template version
        (body.filter fun l => !excluded l) =
      readBody excluded file number name template version body := by
  have hkept (lines : List Text) : (lines.filter fun l => !LineFilter.none.excludes l) = lines :=
    List.filter_eq_self.mpr fun l _ => rfl
  rw [readBody_eq, readBody_eq]
  dsimp only
  rw [hkept]

/-- A line that is left yields without a filter what it yielded with it, under its new number. -/
theorem lineFindings_filter (file : Text) (number : Nat) (line : Text) (rest : List Text)
    (renumbered : Nat → Nat) :
    lineFindings LineFilter.none.excludes file (renumbered number) line
        (rest.filter (isLeft excluded)) =
      (lineFindings excluded file number line rest).map (Finding.renumber renumbered) := by
  apply lineFindings_map rfl
  · intro name template version
    rfl
  · intro name template version
    rw [takeWhile_filter_isLeft, readBody_filter, readBody_renumber]

/-- An excluded line yields nothing. -/
theorem lineFindings_of_not_isLeft (file : Text) (number : Nat) {line : Text} (rest : List Text)
    (h : ¬ isLeft excluded line = true) : lineFindings excluded file number line rest = [] := by
  have hbody : isBodyLine line = true := by
    simp only [isLeft, Bool.not_eq_true', Bool.and_eq_false_iff] at h
    simpa using fun hbody => h (Or.inl hbody)
  exact lineFindings_of_parse_none number rest (parse_of_isBodyLine hbody)

/-- Reading what is left without a filter yields what reading all lines with it does, if the lines
that are left are renumbered by their places. -/
theorem readLines_filter (file : Text) {lines : List Text} (number first : Nat)
    {renumbered : Nat → Nat}
    (places : ∀ i line, lines[i]? = some line → isLeft excluded line = true →
      renumbered (number + i) = first + (lines.take i).countP (isLeft excluded)) :
    readLines LineFilter.none.excludes file first (lines.filter (isLeft excluded)) =
      (readLines excluded file number lines).map (Finding.renumber renumbered) := by
  induction lines generalizing number first with
  | nil => simp only [List.filter_nil, readLines_nil, List.map_nil]
  | cons line rest ih =>
    rw [readLines_cons, List.map_append]
    by_cases hleft : isLeft excluded line = true
    · have hnumber : renumbered number = first := places 0 line rfl hleft
      have hrest := ih (number + 1) (first + 1) fun i l hl hlLeft => by
        have hplace := places (i + 1) l hl hlLeft
        rw [List.take_succ_cons, List.countP_cons_of_pos hleft] at hplace
        rw [Nat.add_right_comm, Nat.add_assoc number, hplace]
        omega
      rw [List.filter_cons_of_pos hleft, readLines_cons, hrest, ← hnumber, lineFindings_filter]
    · -- the place of all that follow is as if the line were not there
      have hrest := ih (number + 1) first fun i l hl hlLeft => by
        have hplace := places (i + 1) l hl hlLeft
        rw [List.take_succ_cons, List.countP_cons_of_neg hleft] at hplace
        rw [Nat.add_right_comm, Nat.add_assoc number, hplace]
      rw [List.filter_cons_of_neg hleft, lineFindings_of_not_isLeft excluded file number rest hleft,
        hrest]
      rfl

/-- **Filtering is deleting beforehand.** Reading a document with a filter yields the same fragments
and the same diagnostics, in the same order, as deleting its excluded lines and reading what is left
without a filter. Only the numbers of lines differ, and each is then the place of its line among
those that are left. -/
theorem extract_withoutExcluded (file content : Text) :
    extract LineFilter.none.excludes file (withoutExcluded excluded content) =
      (extract excluded file content).renumber (numberLeft excluded content) := by
  have hplaces : ∀ i line, content.lines[i]? = some line → isLeft excluded line = true →
      numberLeft excluded content (1 + i) =
        1 + (content.lines.take i).countP (isLeft excluded) := by
    intro i line hline hleft
    rw [numberLeft, Nat.add_comm, List.take_add_one, hline, List.countP_append]
    simp [hleft, Nat.add_comm]
  have hfindings : findings LineFilter.none.excludes file (withoutExcluded excluded content) =
      (findings excluded file content).map (Finding.renumber (numberLeft excluded content)) := by
    rw [findings, lines_withoutExcluded, readLines_filter excluded file 1 1 hplaces]
    rfl
  rw [extract_eq_ofFindings, hfindings, Finding.renumber, Extraction.ofFindings_map]
  rfl

end Tangle
