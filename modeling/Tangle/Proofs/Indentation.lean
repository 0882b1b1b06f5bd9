import Mathlib.Data.List.Forall2
import Tangle.Indentation
import Tangle.Proofs.Text

/-!
# Indented lines

The common indentation of lines is the least one among those that are not blank. It is taken off
every line, and off a blank line no more than stands before the end of the line. So lines that are
all indented by the same number of further blanks become the same lines, and lines whose common
indentation was removed stay as they are.
-/

namespace Tangle

/-- Blanks of which none can end a line. -/
def IsMargin (margin : Text) : Prop :=
  ∀ c ∈ margin, isSpace c = true ∧ Text.isTerminator c = false

/-- A line that begins with a character that is no blank. -/
def IsFlush (line : Text) : Prop := ∃ c more, line = c :: more ∧ isSpace c = false

theorem isTerminator_of_not_isSpace {c : Char} (h : isSpace c = false) :
    Text.isTerminator c = false := by
  refine Bool.eq_false_iff.mpr fun hterminator => ?_
  rw [Text.isTerminator, Bool.or_eq_true, decide_eq_true_eq, decide_eq_true_eq] at hterminator
  rcases hterminator with rfl | rfl
  · cases h
  · cases h

theorem indentWidth_cons {c : Char} (hspace : isSpace c = true)
    (hterminator : Text.isTerminator c = false) (line : Text) :
    indentWidth (c :: line) = indentWidth line + 1 := by
  rw [indentWidth, Text.withoutTerminator_cons hterminator, List.takeWhile_cons_of_pos hspace]
  rfl

/-- A margin adds its length to the indentation of a line. -/
theorem indentWidth_append {margin : Text} (h : IsMargin margin) (line : Text) :
    indentWidth (margin ++ line) = margin.length + indentWidth line := by
  induction margin with
  | nil => exact (Nat.zero_add _).symm
  | cons c margin ih =>
    obtain ⟨hspace, hterminator⟩ := h c List.mem_cons_self
    rw [List.cons_append, indentWidth_cons hspace hterminator,
      ih fun d hd => h d (List.mem_cons_of_mem _ hd), List.length_cons]
    omega

theorem IsFlush.indentWidth {line : Text} (h : IsFlush line) : indentWidth line = 0 := by
  obtain ⟨c, more, rfl, hc⟩ := h
  rw [Tangle.indentWidth, Text.withoutTerminator_cons (isTerminator_of_not_isSpace hc),
    List.takeWhile_cons_of_neg (by simp [hc])]
  rfl

/-- Blanks in front of a line do not make it blank, nor any other. -/
theorem isBlank_append {margin : Text} (h : ∀ c ∈ margin, isSpace c = true) (line : Text) :
    Text.isBlank (margin ++ line) = line.isBlank := by
  rw [Text.isBlank, List.all_append, List.all_eq_true.mpr h, Bool.true_and]
  rfl

theorem IsFlush.isBlank {line : Text} (h : IsFlush line) : line.isBlank = false := by
  obtain ⟨c, more, rfl, hc⟩ := h
  simp [Text.isBlank, hc]

/-- A line that is not blank has a character behind its indentation. -/
theorem exists_flush_of_not_isBlank {line : Text} (h : line.isBlank = false) :
    ∃ spaces left, line = spaces ++ left ∧ (∀ c ∈ spaces, isSpace c = true) ∧ IsFlush left := by
  have hspaces := List.all_eq_true.mp (List.all_takeWhile (p := isSpace) (l := line))
  have hhead := List.head?_dropWhile_not isSpace line
  have hline := List.takeWhile_append_dropWhile (p := isSpace) (l := line)
  refine ⟨_, _, hline.symm, hspaces, ?_⟩
  cases hleft : line.dropWhile isSpace with
  | nil =>
    -- a line of spaces alone would be blank
    rw [hleft, List.append_nil] at hline
    rw [← hline, Text.isBlank, List.all_eq_true.mpr hspaces] at h
    cases h
  | cons c more =>
    rw [hleft] at hhead
    exact ⟨c, more, rfl, by simpa using hhead⟩

/-- Blanks in front of a flush line are its indentation, and none of them can end the line. -/
theorem IsFlush.indentation {spaces left : Text} (h : ∀ c ∈ spaces, isSpace c = true)
    (hflush : IsFlush left) :
    (spaces ++ left).takeWhile isSpace = spaces ∧
      Tangle.indentWidth (spaces ++ left) = spaces.length := by
  obtain ⟨c, more, rfl, hc⟩ := hflush
  have htake (ending : Text) : (spaces ++ c :: ending).takeWhile isSpace = spaces := by
    rw [List.takeWhile_append_of_pos h, List.takeWhile_cons_of_neg (by simp [hc]), List.append_nil]
  refine ⟨htake more, ?_⟩
  rw [Tangle.indentWidth, Text.withoutTerminator,
    Text.dropEndWhile_append_cons spaces (isTerminator_of_not_isSpace hc), htake]

theorem indentWidth_of_not_isBlank {line : Text} (h : line.isBlank = false) :
    indentWidth line = (line.takeWhile isSpace).length := by
  obtain ⟨spaces, left, rfl, hspaces, hflush⟩ := exists_flush_of_not_isBlank h
  rw [(hflush.indentation hspaces).1, (hflush.indentation hspaces).2]

/-- A line that is not blank is flush without its indentation. -/
theorem isFlush_drop_indentWidth {line : Text} (h : line.isBlank = false) :
    IsFlush (line.drop (indentWidth line)) := by
  obtain ⟨spaces, left, rfl, hspaces, hflush⟩ := exists_flush_of_not_isBlank h
  rw [(hflush.indentation hspaces).2, List.drop_left]
  exact hflush

/-! ## The common indentation -/

/-- Some lines have an indentation in common: each of them that is not blank begins with as many
blanks, and one with no more. Blank lines alone have none. -/
structure HaveIndent (lines : List Text) (width : Nat) : Prop where
  le : ∀ line ∈ lines, line.isBlank = false → width ≤ (line.takeWhile isSpace).length
  attained : (∃ line ∈ lines, line.isBlank = false ∧ (line.takeWhile isSpace).length = width) ∨
    (∀ line ∈ lines, line.isBlank = true) ∧ width = 0

theorem haveIndent_commonIndent (lines : List Text) : HaveIndent lines (commonIndent lines) := by
  unfold commonIndent
  cases hleast : ((lines.filter fun line => !line.isBlank).map indentWidth).min? with
  | none =>
    rw [List.min?_eq_none_iff, List.map_eq_nil_iff, List.filter_eq_nil_iff] at hleast
    have hall : ∀ line ∈ lines, line.isBlank = true := by
      intro line hline
      simpa using hleast line hline
    refine ⟨?_, Or.inr ⟨hall, rfl⟩⟩
    intro line hline hblank
    rw [hall line hline] at hblank
    cases hblank
  | some width =>
    obtain ⟨hmem, hle⟩ := List.min?_eq_some_iff.mp hleast
    constructor
    · intro line hline hblank
      rw [← indentWidth_of_not_isBlank hblank]
      apply hle
      apply List.mem_map_of_mem
      simp [hline, hblank]
    · obtain ⟨line, hline, rfl⟩ := List.mem_map.mp hmem
      obtain ⟨hline, hblank⟩ := List.mem_filter.mp hline
      have hblank : line.isBlank = false := by simpa using hblank
      exact Or.inl ⟨line, hline, hblank, (indentWidth_of_not_isBlank hblank).symm⟩

/-- There is no other one. -/
theorem HaveIndent.eq_commonIndent {lines : List Text} {width : Nat} (h : HaveIndent lines width) :
    commonIndent lines = width := by
  have hcommon := haveIndent_commonIndent lines
  rcases h.attained with ⟨line, hline, hblank, hwidth⟩ | ⟨hall, rfl⟩
  · rcases hcommon.attained with ⟨other, hother, hblank', hwidth'⟩ | ⟨hall, -⟩
    · have hle := hcommon.le line hline hblank
      have hge := h.le other hother hblank'
      omega
    · rw [hall line hline] at hblank
      cases hblank
  · rcases hcommon.attained with ⟨other, hother, hblank, -⟩ | ⟨-, hwidth⟩
    · rw [hall other hother] at hblank
      cases hblank
    · exact hwidth

theorem commonIndent_le_indentWidth {lines : List Text} {line : Text} (hline : line ∈ lines)
    (h : line.isBlank = false) : commonIndent lines ≤ indentWidth line := by
  rw [indentWidth_of_not_isBlank h]
  exact (haveIndent_commonIndent lines).le line hline h

/-- Nothing is removed where there is no common indentation. -/
theorem dedent_of_commonIndent_eq_zero {lines : List Text} (h : commonIndent lines = 0) :
    dedent lines = lines := by
  simp [dedent, h]

/-- A flush line keeps all lines as they are. -/
theorem dedent_of_isFlush {lines : List Text} (h : ∃ line ∈ lines, IsFlush line) :
    dedent lines = lines := by
  obtain ⟨line, hline, hflush⟩ := h
  apply dedent_of_commonIndent_eq_zero
  have hle := commonIndent_le_indentWidth hline hflush.isBlank
  rw [hflush.indentWidth] at hle
  exact Nat.le_zero.mp hle

section Indented

variable {width : Nat} {body : List (Text × Text)}
  (margins : ∀ l ∈ body, IsMargin l.1 ∧ l.1.length = width)

include margins

/-- Margins of one width add this width to the common indentation, if a line is not blank. -/
theorem commonIndent_indented (h : ∃ l ∈ body, l.2.isBlank = false) :
    commonIndent (body.map fun l => l.1 ++ l.2) = width + commonIndent (body.map Prod.snd) := by
  have hcommon := haveIndent_commonIndent (body.map Prod.snd)
  have hspaces : ∀ l ∈ body, ∀ c ∈ l.1, isSpace c = true := fun l hl c hc =>
    ((margins l hl).1 c hc).1
  have hwidth : ∀ l ∈ body,
      ((l.1 ++ l.2).takeWhile isSpace).length = width + (l.2.takeWhile isSpace).length := by
    intro l hl
    rw [List.takeWhile_append_of_pos (hspaces l hl), List.length_append, (margins l hl).2]
  apply HaveIndent.eq_commonIndent
  constructor
  · intro line hline hblank
    obtain ⟨l, hl, rfl⟩ := List.mem_map.mp hline
    rw [isBlank_append (hspaces l hl)] at hblank
    rw [hwidth l hl]
    exact Nat.add_le_add_left (hcommon.le l.2 (List.mem_map_of_mem hl) hblank) width
  · -- the line that attains the indentation attains it behind its margin
    rcases hcommon.attained with ⟨line, hline, hblank, hattained⟩ | ⟨hall, -⟩
    · obtain ⟨l, hl, rfl⟩ := List.mem_map.mp hline
      refine Or.inl ⟨l.1 ++ l.2, List.mem_map_of_mem hl, ?_, ?_⟩
      · rw [isBlank_append (hspaces l hl), hblank]
      · rw [hwidth l hl, hattained]
    · obtain ⟨l, hl, hblank⟩ := h
      rw [hall l.2 (List.mem_map_of_mem hl)] at hblank
      cases hblank

/-- Margins of one width are removed with the common indentation. -/
theorem dedent_append_margins (h : ∃ l ∈ body, l.2.isBlank = false) :
    dedent (body.map fun l => l.1 ++ l.2) = dedent (body.map Prod.snd) := by
  rw [dedent, dedent, commonIndent_indented margins h, List.map_map, List.map_map]
  apply List.map_congr_left
  intro l hl
  obtain ⟨hmargin, hwidth⟩ := margins l hl
  simp only [Function.comp_apply]
  rw [indentWidth_append hmargin, hwidth, Nat.add_min_add_left, ← hwidth,
    List.drop_length_add_append]

/-- **Removing the common indentation undoes indenting.** Blank lines keep the blanks that they had
behind their margin. -/
theorem dedent_indented (flush : ∃ l ∈ body, IsFlush l.2) :
    dedent (body.map fun l => l.1 ++ l.2) = body.map Prod.snd := by
  obtain ⟨l, hl, hflush⟩ := flush
  rw [dedent_append_margins margins ⟨l, hl, hflush.isBlank⟩]
  exact dedent_of_isFlush ⟨l.2, List.mem_map_of_mem hl, hflush⟩

end Indented

/-! ## Lines without their common indentation -/

/-- **Some line becomes flush**, unless all of them are blank. -/
theorem exists_isFlush_dedent {lines : List Text} (h : ∃ line ∈ lines, line.isBlank = false) :
    ∃ line ∈ dedent lines, IsFlush line := by
  rcases (haveIndent_commonIndent lines).attained with ⟨line, hline, hblank, hwidth⟩ | ⟨hall, -⟩
  · -- the line with the least indentation loses all of it
    refine ⟨_, List.mem_map_of_mem hline, ?_⟩
    rw [← hwidth, ← indentWidth_of_not_isBlank hblank, Nat.min_self]
    exact isFlush_drop_indentWidth hblank
  · obtain ⟨line, hline, hblank⟩ := h
    rw [hall line hline] at hblank
    cases hblank

theorem isBlank_drop {line : Text} (h : line.isBlank = true) (n : Nat) :
    Text.isBlank (line.drop n) = true :=
  List.all_eq_true.mpr fun c hc => List.all_eq_true.mp h c (List.mem_of_mem_drop hc)

theorem exists_isFlush_mem_dedent {lines : List Text}
    (h : ∃ line ∈ dedent lines, line.isBlank = false) : ∃ line ∈ dedent lines, IsFlush line := by
  obtain ⟨_, hmem, hblank⟩ := h
  obtain ⟨line, hline, rfl⟩ := List.mem_map.mp hmem
  refine exists_isFlush_dedent ⟨line, hline, Bool.eq_false_iff.mpr fun hall => ?_⟩
  rw [isBlank_drop hall] at hblank
  cases hblank

/-- What is taken off a line within its indentation are blanks that do not end it. -/
theorem take_of_le_indentWidth {line : Text} {n : Nat} (h : n ≤ indentWidth line) :
    (∀ c ∈ line.take n, isSpace c = true) ∧ (line.take n).length = n ∧
      line.take n <+: line.withoutTerminator := by
  obtain ⟨ending, hending⟩ := Text.withoutTerminator_prefix line
  have hprefix := List.takeWhile_prefix (l := line.withoutTerminator) isSpace
  have hspaces :=
    List.all_eq_true.mp (List.all_takeWhile (p := isSpace) (l := line.withoutTerminator))
  unfold indentWidth at h
  have htake : line.take n = (line.withoutTerminator.takeWhile isSpace).take n := by
    obtain ⟨more, hmore⟩ := hprefix
    conv_lhs => rw [← hending, ← hmore, List.append_assoc]
    exact List.take_append_of_le_length h
  rw [htake]
  refine ⟨fun c hc => hspaces c (List.mem_of_mem_take hc), List.length_take_of_le h, ?_⟩
  exact (List.take_prefix _ _).trans hprefix

/-- How a line becomes another one when an indentation is removed: it loses blanks in front, as many
as the indentation has, and a blank line no more than stand before its end. -/
structure Cut (width : Nat) (line margin left : Text) : Prop where
  line_eq : line = margin ++ left
  blanks : ∀ c ∈ margin, isSpace c = true
  length : margin.length = if line.isBlank then min width (indentWidth line) else width
  before_end : margin <+: line.withoutTerminator

theorem cut_of_mem {lines : List Text} {line : Text} (hline : line ∈ lines) :
    ∃ margin, Cut (commonIndent lines) line margin
      (line.drop (min (indentWidth line) (commonIndent lines))) := by
  obtain ⟨hblanks, hlength, hbefore⟩ :=
    take_of_le_indentWidth (Nat.min_le_left (indentWidth line) (commonIndent lines))
  refine ⟨_, (List.take_append_drop _ line).symm, hblanks, ?_, hbefore⟩
  rw [hlength]
  split
  · exact Nat.min_comm ..
  · rename_i hblank
    -- a line that is not blank has all of the common indentation
    have hle := commonIndent_le_indentWidth hline (Bool.eq_false_iff.mpr hblank)
    exact Nat.min_eq_right hle

theorem dedent_dedent (lines : List Text) : dedent (dedent lines) = dedent lines := by
  by_cases h : ∃ line ∈ lines, line.isBlank = false
  · exact dedent_of_isFlush (exists_isFlush_dedent h)
  · -- blank lines alone have no common indentation
    have hzero : commonIndent lines = 0 := by
      rcases (haveIndent_commonIndent lines).attained with ⟨line, hline, hblank, -⟩ | ⟨-, hzero⟩
      · exact absurd ⟨line, hline, hblank⟩ h
      · exact hzero
    rw [dedent_of_commonIndent_eq_zero hzero, dedent_of_commonIndent_eq_zero hzero]

/-- **The common indentation is removed, and nothing else.** Each line loses the blanks that all
lines have in common, and a blank line those that it has of them. If a line is not blank, one is
flush then. Nothing is left to remove a second time, and margins of one width in front of the lines
make no difference. -/
theorem dedent_removes_common_indent (lines : List Text) :
    (∃ width, HaveIndent lines width ∧
      List.Forall₂ (fun line left => ∃ margin, Cut width line margin left) lines (dedent lines)) ∧
    ((∃ line ∈ lines, line.isBlank = false) → ∃ line ∈ dedent lines, IsFlush line) ∧
    dedent (dedent lines) = dedent lines ∧
    ((∃ line ∈ lines, line.isBlank = false) →
      ∀ (width : Nat) (margins : List Text), margins.length = lines.length →
        (∀ margin ∈ margins, IsMargin margin ∧ margin.length = width) →
        dedent (margins.zipWith (· ++ ·) lines) = dedent lines) := by
  refine ⟨⟨commonIndent lines, haveIndent_commonIndent lines, ?_⟩, exists_isFlush_dedent,
    dedent_dedent lines, ?_⟩
  · rw [dedent, List.forall₂_map_right_iff, List.forall₂_same]
    exact fun line hline => cut_of_mem hline
  · intro h width margins hlength hmargins
    obtain ⟨line, hline, hblank⟩ := h
    -- the lines with their margins, as pairs
    have hlines : (margins.zip lines).map Prod.snd = lines :=
      List.map_snd_zip (Nat.le_of_eq hlength.symm)
    have hpair : ∃ l ∈ margins.zip lines, l.2.isBlank = false := by
      rw [← hlines] at hline
      obtain ⟨l, hl, rfl⟩ := List.mem_map.mp hline
      exact ⟨l, hl, hblank⟩
    have hjoin : margins.zipWith (· ++ ·) lines = (margins.zip lines).map fun l => l.1 ++ l.2 := by
      rw [List.zip, List.map_zipWith]
    rw [hjoin, dedent_append_margins (fun l hl => hmargins l.1 (List.of_mem_zip hl).1) hpair, hlines]

/-- The line feed that ends a line is no part of its indentation. -/
theorem indentWidth_lt_length {line : Text} (h : Text.IsLine line) :
    indentWidth line < line.length := by
  obtain ⟨text, -, rfl⟩ := h
  obtain ⟨ending, hending⟩ := Text.withoutTerminator_prefix text
  have hwithout : Text.withoutTerminator (text ++ ['\n']) = text.withoutTerminator := by
    rw [Text.withoutTerminator, Text.dropEndWhile, List.reverse_append, List.reverse_singleton,
      List.singleton_append, List.dropWhile_cons_of_pos (by decide)]
    rfl
  have hle := (List.takeWhile_prefix (l := text.withoutTerminator) isSpace).length_le
  have hlength := congrArg List.length hending
  rw [List.length_append] at hlength
  rw [indentWidth, hwithout, List.length_append, List.length_singleton]
  omega

theorem mem_dropLast_of_drop {line : Text} {n : Nat} {c : Char}
    (h : c ∈ (line.drop n).dropLast) : c ∈ line.dropLast := by
  have hne : line.drop n ≠ [] := by
    intro hnil
    rw [hnil] at h
    cases h
  rw [← List.take_append_drop n line, List.dropLast_append_of_ne_nil hne]
  exact List.mem_append_right _ h

/-- **Indentation is removed line by line**: every line but the last one still ends in a line feed,
and no line has one before its end. -/
theorem breaks_dedent {lines : List Text} (h : Text.AreLines lines) :
    (∀ line ∈ dedent lines, '\n' ∉ line.dropLast) ∧
      ∀ line ∈ (dedent lines).dropLast, line.getLast? = some '\n' := by
  constructor
  · intro _ hmem
    obtain ⟨line, hline, rfl⟩ := List.mem_map.mp hmem
    exact fun hfeed =>
      Text.notMem_dropLast (h.isLine_or_notMem hline) (mem_dropLast_of_drop hfeed)
  · intro _ hmem
    rw [dedent, ← List.map_dropLast] at hmem
    obtain ⟨line, hline, rfl⟩ := List.mem_map.mp hmem
    have hended := h.isLine_of_mem_dropLast hline
    have hlt := indentWidth_lt_length hended
    obtain ⟨text, -, rfl⟩ := hended
    rw [List.getLast?_drop, if_neg (by omega), List.getLast?_concat]

end Tangle
