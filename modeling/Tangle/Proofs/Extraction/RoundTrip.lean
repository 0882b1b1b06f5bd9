import Mathlib.Data.List.TakeWhile
import Tangle.Filter
import Tangle.Proofs.Declaration.Grammar
import Tangle.Proofs.Extraction.Lines
import Tangle.Proofs.Indentation

/-!
# Written documents

A document as an author writes it: prose, and fragments whose bodies stand behind a margin. Reading
it without a filter gives back the fragments as they were before the margin was put in front of
them, each with the number of its line, and nothing to report.
-/

namespace Tangle

/-! ## Writing -/

/-- A fragment as it is written, with a margin in front of each line of its body. -/
structure WrittenFragment where
  name : Text
  template : Text
  version : Nat
  /-- The number of characters in each margin. -/
  width : Nat
  /-- The lines of the body, each behind its margin. -/
  body : List (Text × Text)
  name_nonempty : name ≠ [] := by decide
  name_plain : '\'' ∉ name ∧ '\n' ∉ name := by decide
  template_nonempty : template ≠ [] := by decide
  template_plain : '\'' ∉ template ∧ '\n' ∉ template := by decide
  version_lt : version < versionBound := by decide
  width_pos : 0 < width := by decide
  margins : ∀ l ∈ body, l.1.length = width ∧ l.1.all isSpaceOrTab = true := by decide
  bodyLines : ∀ l ∈ body, Text.IsLine l.2
  flush : ∃ l ∈ body, IsFlush l.2

namespace WrittenFragment

/-- A value between single quotes behind its key. -/
def assign (key value : Text) : Text := key ++ ['=', '\''] ++ value ++ ['\'']

/-- The line that declares a fragment:
`{lang='x' name='<name>' template='<template>' ver='<version>'}`. -/
def declaration (f : WrittenFragment) : Text :=
  '{' :: assign ['l', 'a', 'n', 'g'] ['x'] ++
    ' ' :: assign ['n', 'a', 'm', 'e'] f.name ++
    ' ' :: assign ['t', 'e', 'm', 'p', 'l', 'a', 't', 'e'] f.template ++
    ' ' :: assign ['v', 'e', 'r'] (Text.ofNat f.version) ++ ['}', '\n']

/-- The lines of the body as they stand in the document. -/
def indented (f : WrittenFragment) : List Text := f.body.map fun l => l.1 ++ l.2

/-- What is to be read from a fragment that is declared on the given line of a file. -/
def fragment (f : WrittenFragment) (file : Text) (number : Nat) : Fragment where
  lines := f.body.map Prod.snd
  name := f.name
  template := f.template
  version := f.version
  line := number
  file := file

end WrittenFragment

/-- Lines of which none declares a fragment. -/
def IsProse (lines : List Text) : Prop :=
  ∀ line ∈ lines, Text.IsLine line ∧ ∀ d, Declaration.parse line = some d → ¬ d.Traced

/-- A fragment and the prose below it, which begins with a line that cannot belong to the body. -/
structure Passage where
  written : WrittenFragment
  prose : List Text
  isProse : IsProse prose
  flush : ∀ line ∈ prose.head?, IsFlush line

namespace Passage

/-- The lines of a passage. -/
def lines (p : Passage) : List Text := p.written.declaration :: (p.written.indented ++ p.prose)

/-- The fragments of passages of which the first begins on the given line of a file. -/
def fragments (file : Text) : Nat → List Passage → List Fragment
  | _, [] => []
  | number, p :: more =>
    p.written.fragment file number :: fragments file (number + p.lines.length) more

end Passage

/-- Prose and the passages below it. -/
structure WrittenDocument where
  prose : List Text
  passages : List Passage
  isProse : IsProse prose

namespace WrittenDocument

/-- The lines of a document. -/
def lines (document : WrittenDocument) : List Text :=
  document.prose ++ document.passages.flatMap Passage.lines

/-- The text of a document. -/
def text (document : WrittenDocument) : Text := document.lines.flatten

/-- The fragments of a document. Its first line has the number one. -/
def fragments (document : WrittenDocument) (file : Text) : List Fragment :=
  Passage.fragments file (1 + document.prose.length) document.passages

end WrittenDocument

/-! ## The declaring line -/

namespace WrittenFragment

variable (f : WrittenFragment)

/-- The attributes of a declaring line. -/
def attributes : List Declaration.WrittenAttribute :=
  [{ key := ['l', 'a', 'n', 'g'], value := ['x'], style := .singleQuoted, gap := [' '] },
    { key := ['n', 'a', 'm', 'e'], value := f.name, style := .singleQuoted, gap := [' ']
      value_fits := Declaration.Style.fits_singleQuoted f.name_plain.1 },
    { key := ['t', 'e', 'm', 'p', 'l', 'a', 't', 'e'], value := f.template, style := .singleQuoted
      gap := [' ']
      value_fits := Declaration.Style.fits_singleQuoted f.template_plain.1 },
    { key := ['v', 'e', 'r'], value := Text.ofNat f.version, style := .singleQuoted, gap := []
      value_fits := Declaration.Style.fits_singleQuoted (Text.notMem_ofNat (by decide) f.version) }]

theorem declaration_eq_writeLine :
    f.declaration = Declaration.writeLine f.attributes [] ['\n'] := by
  simp [declaration, assign, attributes, Declaration.writeLine, Declaration.writeAll,
    Declaration.WrittenAttribute.writeBefore, Declaration.Style.write]

theorem parse_declaration :
    Declaration.parse f.declaration =
      some ⟨['x'], some f.name, some f.template, some (Text.ofNat f.version)⟩ := by
  have hseparated : Declaration.Separated f.attributes [] := by
    simp [attributes, Declaration.Separated]
  have hended : ∀ c ∈ ['\n'], Text.isTerminator c = true := List.forall_mem_singleton.mpr rfl
  rw [declaration_eq_writeLine, Declaration.parse_writeLine hseparated hended]
  simp [attributes, Declaration.ofAttributes?, Declaration.valueOf,
    Declaration.WrittenAttribute.pair, f.name_nonempty, f.template_nonempty, Text.ofNat_ne_nil]

theorem isLine_declaration : Text.IsLine f.declaration := by
  have hversion : '\n' ∉ Text.ofNat f.version := Text.notMem_ofNat (by decide) f.version
  refine Text.IsLine.append ?_ ⟨['}'], by decide, rfl⟩
  simp [assign, f.name_plain.2, f.template_plain.2, hversion]

/-! ## The body -/

theorem isMargin_of_mem {l : Text × Text} (hl : l ∈ f.body) : IsMargin l.1 := by
  intro c hc
  have hblank := List.all_eq_true.mp (f.margins l hl).2 c hc
  rw [isSpaceOrTab, Bool.or_eq_true, decide_eq_true_eq, decide_eq_true_eq] at hblank
  rcases hblank with rfl | rfl
  · exact ⟨rfl, by decide⟩
  · exact ⟨rfl, by decide⟩

theorem isLine_of_mem_indented {line : Text} (hline : line ∈ f.indented) : Text.IsLine line := by
  obtain ⟨l, hl, rfl⟩ := List.mem_map.mp hline
  refine (f.bodyLines l hl).append fun hmem => ?_
  have hterminator := (f.isMargin_of_mem hl _ hmem).2
  cases hterminator

/-- A margin makes a line part of a body. -/
theorem isBodyLine_of_mem_indented {line : Text} (hline : line ∈ f.indented) :
    isBodyLine line = true := by
  obtain ⟨l, hl, rfl⟩ := List.mem_map.mp hline
  -- the width is positive, so there is a first blank
  obtain ⟨c, margin, hmargin⟩ := List.exists_cons_of_length_pos
    (Nat.lt_of_lt_of_eq f.width_pos (f.margins l hl).1.symm)
  have hspace := (f.isMargin_of_mem hl c (by rw [hmargin]; exact List.mem_cons_self)).1
  rw [isBodyLine, hmargin]
  exact hspace

theorem readVersion?_ofNat : readVersion? (Text.ofNat f.version) = some f.version := by
  have htrim : (Text.ofNat f.version).trim = Text.ofNat f.version :=
    Text.trim_of_forall fun c hc => Text.isSpace_of_isDigit (Text.isDigit_of_mem_ofNat hc)
  rw [readVersion?, htrim, Text.toNat?_ofNat, Option.filter_some, if_pos (by simp [f.version_lt])]

/-- The body is read as it was before the margin was put in front of it. -/
theorem readBody_indented (file : Text) (number : Nat) :
    readBody LineFilter.none.excludes file number f.name f.template (Text.ofNat f.version)
      f.indented = [.fragment (f.fragment file number)] := by
  have hkept : (f.indented.filter fun l => !LineFilter.none.excludes l) = f.indented :=
    List.filter_eq_self.mpr fun l _ => rfl
  have hsome : f.indented.isEmpty = false := by
    obtain ⟨l, hl, -⟩ := f.flush
    exact List.isEmpty_eq_false_iff.mpr (List.ne_nil_of_mem (List.mem_map_of_mem hl))
  have hdedent : dedent f.indented = f.body.map Prod.snd :=
    dedent_indented (fun l hl => ⟨f.isMargin_of_mem hl, (f.margins l hl).1⟩) f.flush
  rw [readBody_eq, hkept, f.readVersion?_ofNat]
  dsimp only
  rw [hdedent, hsome]
  rfl

end WrittenFragment

/-! ## Reading -/

theorem IsFlush.not_isBodyLine {line : Text} (h : IsFlush line) : isBodyLine line = false := by
  obtain ⟨c, more, rfl, hc⟩ := h
  exact hc

theorem readLines_prose (excluded : Text → Bool) (file : Text) {prose : List Text}
    (h : IsProse prose) (number : Nat) (rest : List Text) :
    readLines excluded file number (prose ++ rest) =
      readLines excluded file (number + prose.length) rest := by
  induction prose generalizing number with
  | nil => rfl
  | cons line prose ih =>
    have hline : lineFindings excluded file number line (prose ++ rest) = [] := by
      cases hparse : Declaration.parse line with
      | none => exact lineFindings_of_parse_none _ _ hparse
      | some d =>
        exact lineFindings_of_not_traced _ _ hparse ((h line List.mem_cons_self).2 d hparse)
    rw [List.cons_append, readLines_cons, hline, List.nil_append,
      ih fun l hl => h l (List.mem_cons_of_mem _ hl), List.length_cons, Nat.add_assoc,
      Nat.add_comm 1]

namespace Passage

/-- A passage yields its fragment, if no line that could belong to its body follows. -/
theorem readLines_append (p : Passage) (file : Text) (number : Nat) {rest : List Text}
    (hrest : ∀ line ∈ rest.head?, isBodyLine line = false) :
    readLines LineFilter.none.excludes file number (p.lines ++ rest) =
      .fragment (p.written.fragment file number) ::
        readLines LineFilter.none.excludes file (number + p.lines.length) rest := by
  -- the body ends with the first line of the prose, or with the passage
  have hbelow : ∀ line ∈ (p.prose ++ rest).head?, isBodyLine line = false := by
    cases hprose : p.prose with
    | nil => exact hrest
    | cons first more =>
      rintro line ⟨⟩
      exact (p.flush first (by rw [hprose]; rfl)).not_isBodyLine
  have hbody : ∀ line ∈ p.written.indented, isBodyLine line = true :=
    fun line => p.written.isBodyLine_of_mem_indented
  rw [lines, List.cons_append, List.append_assoc, readLines_cons,
    lineFindings_of_complete number _ p.written.parse_declaration rfl rfl rfl,
    takeWhile_isBodyLine_append hbelow, List.takeWhile_eq_self_iff.mpr hbody,
    p.written.readBody_indented,
    readLines_body _ _ hbody, readLines_prose _ _ p.isProse, List.singleton_append,
    List.length_cons, List.length_append]
  congr 2
  omega

theorem readLines_flatMap (passages : List Passage) (file : Text) (number : Nat) :
    readLines LineFilter.none.excludes file number (passages.flatMap lines) =
      (fragments file number passages).map Finding.fragment := by
  induction passages generalizing number with
  | nil => exact readLines_nil _ _ _
  | cons p more ih =>
    -- what follows a passage is nothing or the declaring line of the next one
    have hnext : ∀ line ∈ (more.flatMap lines).head?, isBodyLine line = false := by
      cases more with
      | nil => simp
      | cons q more =>
        rintro line ⟨⟩
        rfl
    rw [List.flatMap_cons, p.readLines_append file number hnext, ih]
    rfl

theorem isLine_of_mem_lines (p : Passage) {line : Text} (hline : line ∈ p.lines) :
    Text.IsLine line := by
  rcases List.mem_cons.mp hline with rfl | hline
  · exact p.written.isLine_declaration
  · rcases List.mem_append.mp hline with hline | hline
    · exact p.written.isLine_of_mem_indented hline
    · exact (p.isProse line hline).1

end Passage

/-- **A written document is read exactly.** Without a filter, its fragments come back in order, with
the lines of their bodies as they were before they were indented, and there is nothing to report. -/
theorem extract_written (document : WrittenDocument) (file : Text) :
    extract LineFilter.none.excludes file document.text = ⟨document.fragments file, []⟩ := by
  -- every line ends in its only line feed
  have hlines : document.text.lines = document.lines := by
    refine Text.lines_flatten fun line hline => ?_
    rcases List.mem_append.mp hline with hline | hline
    · exact (document.isProse line hline).1
    · obtain ⟨p, -, hline⟩ := List.mem_flatMap.mp hline
      exact p.isLine_of_mem_lines hline
  have hfindings : findings LineFilter.none.excludes file document.text =
      (document.fragments file).map Finding.fragment := by
    rw [findings, hlines, WrittenDocument.lines, readLines_prose _ _ document.isProse,
      Passage.readLines_flatMap]
    rfl
  have hfragments : Finding.fragment? ∘ Finding.fragment = some := rfl
  have hdiagnostics : Finding.diagnostic? ∘ Finding.fragment = fun _ => none := rfl
  rw [extract, hfindings, List.filterMap_map, List.filterMap_map, hfragments, hdiagnostics,
    List.filterMap_some, List.filterMap_none]

/-- Two fragments with no line between them. The body of the first one has a blank line and a line
that would be a declaration if it were not indented. -/
def adjacentFragments : WrittenDocument where
  prose := [['p', '\n']]
  passages := [
    { written := {
        name := ['a'], template := ['t'], version := 0, width := 1
        body := [([' '], ['\r', '\n']), (['\t'], ['{', 'l', 'a', 'n', 'g', '=', 'x', '}', '\n'])]
        bodyLines := by
          rintro l (_ | ⟨_, _ | ⟨_, ⟨⟩⟩⟩)
          · exact ⟨['\r'], by decide, rfl⟩
          · exact ⟨['{', 'l', 'a', 'n', 'g', '=', 'x', '}'], by decide, rfl⟩
        flush := ⟨_, List.mem_cons_of_mem _ List.mem_cons_self, _, _, rfl, rfl⟩ }
      prose := []
      isProse := by simp [IsProse]
      flush := by simp },
    { written := {
        name := ['b'], template := ['t'], version := 7, width := 2
        body := [([' ', '\t'], ['z', '\n'])]
        bodyLines := by
          rintro l (_ | ⟨_, ⟨⟩⟩)
          exact ⟨['z'], by decide, rfl⟩
        flush := ⟨_, List.mem_cons_self, _, _, rfl, rfl⟩ }
      prose := []
      isProse := by simp [IsProse]
      flush := by simp }]
  isProse := by
    intro line hline
    obtain rfl := List.mem_singleton.mp hline
    exact ⟨⟨['p'], by decide, rfl⟩, fun d hd => absurd (head?_of_parse hd) (by decide)⟩

theorem extract_written_adjacent :
    extract LineFilter.none.excludes ['d'] adjacentFragments.text =
      ⟨[⟨[['\r', '\n'], ['{', 'l', 'a', 'n', 'g', '=', 'x', '}', '\n']], ['a'], ['t'], 0, 2, ['d']⟩,
        ⟨[['z', '\n']], ['b'], ['t'], 7, 5, ['d']⟩], []⟩ :=
  extract_written adjacentFragments ['d']

end Tangle
