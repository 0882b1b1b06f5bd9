import Tangle.Proofs.Extraction.Parts
import Tangle.Proofs.Indentation

/-!
# Line ends

A document may end its lines with a carriage return and a line feed instead of a line feed alone. It
is read in the same way then: each test of a line looks past what ends it, and no more is cut off a
line in front than its indentation, so that the lines of the fragments keep the line ends of the
document.
-/

namespace Tangle

/-- The same fragment with carriage returns in front of all line feeds. -/
def Fragment.withReturns (f : Fragment) : Fragment :=
  { f with lines := f.lines.map Text.withReturns }

/-- A text without characters that can end a line. -/
def IsUnbroken (text : Text) : Prop := ∀ c ∈ text, Text.isTerminator c = false

theorem isUnbroken_iff {text : Text} : IsUnbroken text ↔ '\r' ∉ text ∧ '\n' ∉ text := by
  constructor
  · intro h
    constructor
    · intro hmem
      have hreturn := h '\r' hmem
      cases hreturn
    · intro hmem
      have hfeed := h '\n' hmem
      cases hfeed
  · rintro ⟨hr, hn⟩ c hc
    have hr' : c ≠ '\r' := ne_of_mem_of_not_mem hc hr
    have hn' : c ≠ '\n' := ne_of_mem_of_not_mem hc hn
    simp [Text.isTerminator, hr', hn']

/-- A line of a document without carriage returns: characters that end no line, and then a line feed
or nothing. -/
def IsPlainLine (line : Text) : Prop :=
  ∃ text, IsUnbroken text ∧ (line = text ∨ line = text ++ ['\n'])

theorem isPlainLine_of_mem_lines {content line : Text} (h : '\r' ∉ content)
    (hline : line ∈ content.lines) : IsPlainLine line := by
  -- the characters of a line are characters of the document
  have hreturn : '\r' ∉ line := by
    intro hmem
    apply h
    rw [← Text.flatten_lines content]
    exact List.mem_flatten.mpr ⟨line, hline, hmem⟩
  rcases (Text.areLines_lines content).isLine_or_notMem hline with ⟨text, htext, rfl⟩ | hnone
  · have hr : '\r' ∉ text := fun hmem => hreturn (List.mem_append_left _ hmem)
    exact ⟨text, isUnbroken_iff.mpr ⟨hr, htext⟩, Or.inr rfl⟩
  · exact ⟨line, isUnbroken_iff.mpr ⟨hreturn, hnone⟩, Or.inl rfl⟩

/-! ## One line -/

section Line

/-- A line without a line feed stays as it is, and one with a line feed gets a carriage return. -/
theorem IsUnbroken.withReturns {text : Text} (h : IsUnbroken text) :
    text.withReturns = text ∧ Text.withReturns (text ++ ['\n']) = text ++ ['\r', '\n'] := by
  have htext := Text.withReturns_of_notMem (isUnbroken_iff.mp h).2
  refine ⟨htext, ?_⟩
  rw [Text.withReturns_append, htext]
  rfl

theorem IsUnbroken.withoutTerminator {text : Text} (h : IsUnbroken text) :
    Text.withoutTerminator (text ++ ['\n']) = text ∧
      Text.withoutTerminator (text ++ ['\r', '\n']) = text := by
  constructor
  · apply Text.withoutTerminator_append_of_forall h
    exact List.forall_mem_singleton.mpr rfl
  · apply Text.withoutTerminator_append_of_forall h
    exact List.forall_mem_cons.mpr ⟨rfl, List.forall_mem_singleton.mpr rfl⟩

variable {line : Text} (h : IsPlainLine line)

include h

theorem withoutTerminator_withReturns :
    line.withReturns.withoutTerminator = line.withoutTerminator := by
  obtain ⟨text, htext, rfl | rfl⟩ := h
  · rw [htext.withReturns.1]
  · rw [htext.withReturns.2, htext.withoutTerminator.1, htext.withoutTerminator.2]

/-- A declaration is read up to what ends its line. -/
theorem parse_withReturns : Declaration.parse line.withReturns = Declaration.parse line := by
  unfold Declaration.parse Declaration.attributes? Declaration.inside?
  rw [withoutTerminator_withReturns h]

theorem indentWidth_withReturns : indentWidth line.withReturns = indentWidth line := by
  rw [indentWidth, indentWidth, withoutTerminator_withReturns h]

/-- A carriage return is blank, as a line feed is. -/
theorem isBlank_withReturns : line.withReturns.isBlank = line.isBlank := by
  obtain ⟨text, htext, rfl | rfl⟩ := h
  · rw [htext.withReturns.1]
  · rw [htext.withReturns.2]
    simp only [Text.isBlank, List.all_append]
    rfl

theorem isBodyLine_withReturns : isBodyLine line.withReturns = isBodyLine line := by
  obtain ⟨text, htext, rfl | rfl⟩ := h
  · rw [htext.withReturns.1]
  · rw [htext.withReturns.2]
    -- the line begins with a character of its text, or with what ends it
    cases text with
    | nil => rfl
    | cons c more => rfl

/-- What is cut off in front of a line does not reach what ends it. -/
theorem drop_withReturns {width : Nat} (hwidth : width ≤ indentWidth line) :
    line.withReturns.drop width = Text.withReturns (line.drop width) := by
  obtain ⟨text, htext, hline⟩ := h
  have hplain : IsUnbroken (text.drop width) := fun c hc => htext c (List.mem_of_mem_drop hc)
  rcases hline with rfl | rfl
  · rw [htext.withReturns.1, hplain.withReturns.1]
  · have hlength : width ≤ text.length := by
      rw [indentWidth, htext.withoutTerminator.1] at hwidth
      exact Nat.le_trans hwidth (List.takeWhile_prefix _).length_le
    rw [htext.withReturns.2, List.drop_append_of_le_length hlength,
      List.drop_append_of_le_length hlength, hplain.withReturns.2]

end Line

/-! ## Bodies -/

section Body

variable {body : List Text} (h : ∀ line ∈ body, IsPlainLine line)

include h

/-- A test that looks past line ends keeps the same lines. -/
theorem filter_withReturns {kept : Text → Bool}
    (alike : ∀ line, IsPlainLine line → kept line.withReturns = kept line) :
    (body.map Text.withReturns).filter kept = (body.filter kept).map Text.withReturns := by
  rw [List.filter_map]
  congr 1
  apply List.filter_congr
  intro line hline
  exact alike line (h line hline)

theorem commonIndent_withReturns :
    commonIndent (body.map Text.withReturns) = commonIndent body := by
  have hfilter : (body.map Text.withReturns).filter (fun line => !line.isBlank) =
      (body.filter fun line => !line.isBlank).map Text.withReturns := by
    apply filter_withReturns h
    intro line hline
    rw [isBlank_withReturns hline]
  have hwidths : ((body.filter fun line => !line.isBlank).map Text.withReturns).map indentWidth =
      (body.filter fun line => !line.isBlank).map indentWidth := by
    rw [List.map_map]
    apply List.map_congr_left
    intro line hline
    exact indentWidth_withReturns (h line (List.mem_filter.mp hline).1)
  rw [commonIndent, commonIndent, hfilter, hwidths]

/-- The common indentation is removed from the same lines with other line ends. -/
theorem dedent_withReturns :
    dedent (body.map Text.withReturns) = (dedent body).map Text.withReturns := by
  rw [dedent, dedent, commonIndent_withReturns h, List.map_map, List.map_map]
  apply List.map_congr_left
  intro line hline
  have hplain := h line hline
  rw [Function.comp_apply, Function.comp_apply, indentWidth_withReturns hplain]
  exact drop_withReturns hplain (Nat.min_le_left _ _)

theorem takeWhile_withReturns :
    (body.map Text.withReturns).takeWhile isBodyLine =
      (body.takeWhile isBodyLine).map Text.withReturns := by
  induction body with
  | nil => rfl
  | cons line more ih =>
    have hfirst := isBodyLine_withReturns (h line List.mem_cons_self)
    rw [List.map_cons, List.takeWhile_cons, List.takeWhile_cons, hfirst]
    split
    · rw [List.map_cons, ih fun l hl => h l (List.mem_cons_of_mem _ hl)]
    · rfl

end Body

/-! ## Documents -/

section Documents

variable {excluded : Text → Bool}
  (ends : ∀ text, '\r' ∉ text → '\n' ∉ text →
    excluded (text ++ ['\r', '\n']) = excluded (text ++ ['\n']))

include ends

theorem excluded_withReturns {line : Text} (h : IsPlainLine line) :
    excluded line.withReturns = excluded line := by
  obtain ⟨text, htext, rfl | rfl⟩ := h
  · rw [htext.withReturns.1]
  · rw [htext.withReturns.2]
    have hnone := isUnbroken_iff.mp htext
    exact ends text hnone.1 hnone.2

variable {lines : List Text} (h : ∀ line ∈ lines, IsPlainLine line)

include h

theorem readBody_withReturns (file : Text) (number : Nat) (name template version : Text) :
    readBody excluded file number name template version (lines.map Text.withReturns) =
      (readBody excluded file number name template version lines).map
        (Finding.map Fragment.withReturns id) := by
  -- the filter keeps the same lines
  have hkept : (lines.map Text.withReturns).filter (fun l => !excluded l) =
      (lines.filter fun l => !excluded l).map Text.withReturns := by
    apply filter_withReturns h
    intro line hline
    rw [excluded_withReturns ends hline]
  have hplain : ∀ line ∈ lines.filter fun l => !excluded l, IsPlainLine line :=
    fun line hline => h line (List.mem_filter.mp hline).1
  rw [readBody_eq, readBody_eq]
  dsimp only
  rw [hkept]
  by_cases hnone : (lines.filter fun l => !excluded l).isEmpty
  · rw [if_pos hnone, if_pos (by simpa using hnone)]
    rfl
  · rw [if_neg hnone, if_neg (by simpa using hnone), dedent_withReturns hplain]
    cases readVersion? version <;> rfl

theorem readLines_withReturns (file : Text) (number : Nat) :
    readLines excluded file number (lines.map Text.withReturns) =
      (readLines excluded file number lines).map (Finding.map Fragment.withReturns id) := by
  induction lines generalizing number with
  | nil => simp only [List.map_nil, readLines_nil]
  | cons line rest ih =>
    have hrest : ∀ l ∈ rest, IsPlainLine l := fun l hl => h l (List.mem_cons_of_mem _ hl)
    have hline : lineFindings excluded file number line.withReturns (rest.map Text.withReturns) =
        (lineFindings excluded file number line rest).map
          (Finding.map Fragment.withReturns id) := by
      apply lineFindings_map (parse_withReturns (h line List.mem_cons_self))
      · intro name template version
        rfl
      · intro name template version
        rw [takeWhile_withReturns hrest]
        apply readBody_withReturns ends
        exact fun l hl => hrest l ((List.takeWhile_sublist _).mem hl)
    rw [List.map_cons, readLines_cons, readLines_cons, hline, ih hrest, List.map_append]

end Documents

/-- **Extraction does not depend on line ends.** Let a document have no carriage returns, and let a
filter exclude a line that ends in a line feed exactly if it excludes the line with a carriage
return in front of the line feed. With a carriage return in front of all its line feeds, the
document yields the same fragments, on the same lines, with a carriage return in front of their line
feeds, and the same diagnostics. -/
theorem extract_withReturns {excluded : Text → Bool} (file : Text) {content : Text}
    (plain : '\r' ∉ content)
    (ends : ∀ text, '\r' ∉ text → '\n' ∉ text →
      excluded (text ++ ['\r', '\n']) = excluded (text ++ ['\n'])) :
    extract excluded file content.withReturns =
      { fragments := (extract excluded file content).fragments.map Fragment.withReturns
        diagnostics := (extract excluded file content).diagnostics } := by
  have hlines : ∀ line ∈ content.lines, IsPlainLine line :=
    fun line hline => isPlainLine_of_mem_lines plain hline
  have hfindings : findings excluded file content.withReturns =
      (findings excluded file content).map (Finding.map Fragment.withReturns id) := by
    rw [findings, Text.lines_withReturns, readLines_withReturns ends hlines]
    rfl
  rw [extract_eq_ofFindings, hfindings, Extraction.ofFindings_map, Extraction.map, List.map_id]
  rfl

/-- A fragment with an excluded line, and a blank line that is shorter than the indentation. -/
def indentedText : Text :=
  "\x7blang='x' name='a' template='t' ver='1'\x7d\n  a\n #\n\n   b".toList

/-- Nothing is cut off the blank line, whose two characters are both blank but end it. -/
theorem extract_withReturns_at_blank_line :
    '\r' ∉ indentedText ∧
      extract (fun line => line.contains '#') ['d'] indentedText.withReturns =
        ⟨[⟨[['a', '\r', '\n'], ['\r', '\n'], [' ', 'b']], ['a'], ['t'], 1, 1, ['d']⟩], []⟩ := by
  have hplain : '\r' ∉ indentedText := by decide
  have hends : ∀ text : Text, '\r' ∉ text → '\n' ∉ text →
      (text ++ ['\r', '\n']).contains '#' = (text ++ ['\n']).contains '#' := by
    intro text _ _
    simp
  have hextract : extract (fun line => line.contains '#') ['d'] indentedText =
      ⟨[⟨[['a', '\n'], ['\n'], [' ', 'b']], ['a'], ['t'], 1, 1, ['d']⟩], []⟩ := by decide +kernel
  refine ⟨hplain, ?_⟩
  rw [extract_withReturns ['d'] hplain hends, hextract]
  decide +kernel

end Tangle
