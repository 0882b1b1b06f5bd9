import Mathlib.Data.List.Nodup
import Tangle.Proofs.Extraction.Lines

/-!
# Every declaration leaves one trace

The lines that declare a fragment, in whole or in part, are known without the filter. Each of them
leaves exactly one of three traces: a fragment, the report of an empty body, or the report of an
incomplete declaration. No other line leaves one, and the traces stand in the order of the lines.
-/

namespace Tangle

namespace Finding

/-- The line that a finding is about. -/
def line? : Finding → Option Nat
  | .fragment f => some f.line
  | .problem d => d.line

/-- The line of a fragment. -/
def fragmentLine? (g : Finding) : Option Nat := g.fragment?.map Fragment.line

end Finding

namespace Diagnostic

/-- The line of a declaration that the diagnostic says has an empty body. -/
def emptyLine? (d : Diagnostic) : Option Nat :=
  match d.problem with
  | .emptyBlock => d.line
  | _ => none

/-- The line of a declaration that the diagnostic says is incomplete. -/
def incompleteLine? (d : Diagnostic) : Option Nat :=
  match d.problem with
  | .incompleteDeclaration .. => d.line
  | _ => none

end Diagnostic

namespace Extraction

/-- The lines of the fragments. -/
def blockLines (e : Extraction) : List Nat := e.fragments.map Fragment.line

/-- The lines of the declarations that are said to have an empty body. -/
def emptyLines (e : Extraction) : List Nat := e.diagnostics.filterMap Diagnostic.emptyLine?

/-- The lines of the declarations that are said to be incomplete. -/
def incompleteLines (e : Extraction) : List Nat :=
  e.diagnostics.filterMap Diagnostic.incompleteLine?

end Extraction

/-! ## What one line yields -/

section Line

variable {excluded : Text → Bool} {file : Text} {number : Nat} {line : Text} {rest : List Text}

/-- A body is read as nothing but a report, as a fragment, or as a fragment with a report on its
version. -/
theorem readBody_cases (excluded : Text → Bool) (file : Text) (number : Nat)
    (name template version : Text) (body : List Text) :
    ((∀ l ∈ body, excluded l = true) ∧
      readBody excluded file number name template version body =
        [.problem { problem := .emptyBlock, file := some file, line := some number }]) ∨
    (∃ l ∈ body, excluded l = false) ∧ ∃ f : Fragment,
      f.name = name ∧ f.template = template ∧ f.line = number ∧
      (readBody excluded file number name template version body = [.fragment f] ∨
        readBody excluded file number name template version body =
          [.problem ⟨.nonNumericVersion version, some file, some number, none⟩, .fragment f]) := by
  rw [readBody_eq]
  dsimp only
  by_cases hkept : (body.filter fun l => !excluded l).isEmpty
  · refine Or.inl ⟨fun l hl => ?_, by rw [if_pos hkept]⟩
    rw [List.isEmpty_iff, List.filter_eq_nil_iff] at hkept
    simpa using hkept l hl
  · refine Or.inr ⟨?_, ?_⟩
    · obtain ⟨l, hl⟩ := List.exists_mem_of_ne_nil _ (mt List.isEmpty_iff.mpr hkept)
      rw [List.mem_filter] at hl
      exact ⟨l, hl.1, by simpa using hl.2⟩
    · rw [if_neg hkept]
      cases readVersion? version with
      | some n => exact ⟨_, rfl, rfl, rfl, Or.inl rfl⟩
      | none => exact ⟨_, rfl, rfl, rfl, Or.inr rfl⟩

/-- The ways in which a line can leave a trace, or leave none. -/
inductive LineTrace (excluded : Text → Bool) (file : Text) (number : Nat) (line : Text)
    (rest : List Text) : List Finding → Prop where
  | untraced (h : ∀ d, Declaration.parse line = some d → ¬ d.Traced) :
      LineTrace excluded file number line rest []
  | incomplete {d : Declaration} (h : Declaration.parse line = some d) (htraced : d.Traced)
      (hpartial : ¬ d.Complete) :
      LineTrace excluded file number line rest
        [.problem
          ⟨.incompleteDeclaration d.name d.template d.version, some file, some number, none⟩]
  | empty {d : Declaration} (h : Declaration.parse line = some d) (hcomplete : d.Complete)
      (hall : ∀ l ∈ rest.takeWhile isBodyLine, excluded l = true) :
      LineTrace excluded file number line rest
        [.problem ⟨.emptyBlock, some file, some number, none⟩]
  | fragment {d : Declaration} (h : Declaration.parse line = some d) (hcomplete : d.Complete)
      (hkept : ∃ l ∈ rest.takeWhile isBodyLine, excluded l = false) {f : Fragment}
      (hname : some f.name = d.name) (htemplate : some f.template = d.template)
      (hline : f.line = number) {reports : List Diagnostic}
      (hreports : reports = [] ∨ ∃ version,
        reports = [⟨.nonNumericVersion version, some file, some number, none⟩]) :
      LineTrace excluded file number line rest (reports.map Finding.problem ++ [.fragment f])

theorem Declaration.Complete.traced {d : Declaration} (h : d.Complete) : d.Traced := Or.inl h.1

theorem lineTrace (excluded : Text → Bool) (file : Text) (number : Nat) (line : Text)
    (rest : List Text) : LineTrace excluded file number line rest
      (lineFindings excluded file number line rest) := by
  cases hparse : Declaration.parse line with
  | none =>
    rw [lineFindings_of_parse_none number rest hparse]
    exact .untraced fun d hd => by rw [hparse] at hd; cases hd
  | some d =>
    by_cases htraced : d.Traced
    · by_cases hcomplete : d.Complete
      · obtain ⟨name, template, version, hname, htemplate, hversion⟩ := hcomplete.exists_fields
        rw [lineFindings_of_complete number rest hparse hname htemplate hversion]
        rcases readBody_cases excluded file number name template version
          (rest.takeWhile isBodyLine) with
          ⟨hall, h⟩ | ⟨hkept, f, rfl, rfl, hline, h | h⟩
        · exact h ▸ .empty hparse hcomplete hall
        · exact h ▸ .fragment hparse hcomplete hkept hname.symm htemplate.symm hline (Or.inl rfl)
        · exact h ▸ .fragment hparse hcomplete hkept hname.symm htemplate.symm hline
            (Or.inr ⟨version, rfl⟩)
      · rw [lineFindings_of_partial number rest hparse htraced hcomplete]
        exact .incomplete hparse htraced hcomplete
    · rw [lineFindings_of_not_traced number rest hparse htraced]
      exact .untraced fun d' hd' => by rw [hparse] at hd'; cases hd'; exact htraced

/-- What a line yields is about that line. -/
theorem LineTrace.line?_of_mem {found : List Finding}
    (h : LineTrace excluded file number line rest found) {g : Finding} (hg : g ∈ found) :
    g.line? = some number := by
  cases h with
  | untraced => cases hg
  | incomplete =>
    rw [List.mem_singleton.mp hg]
    rfl
  | empty =>
    rw [List.mem_singleton.mp hg]
    rfl
  | fragment _ _ _ _ _ hline hreports =>
    rcases List.mem_append.mp hg with hg | hg
    · rcases hreports with rfl | ⟨version, rfl⟩
      · cases hg
      · rw [List.mem_singleton.mp hg]
        rfl
    · rw [List.mem_singleton.mp hg]
      exact congrArg some hline

end Line

/-! ## The order of traces -/

/-- A way to pick a line number from findings that picks at most the number of the line at hand. -/
def PicksLine (excluded : Text → Bool) (file : Text) (pick : Finding → Option Nat) : Prop :=
  ∀ number line rest, (lineFindings excluded file number line rest).filterMap pick = [] ∨
    (lineFindings excluded file number line rest).filterMap pick = [number]

section Picks

variable {excluded : Text → Bool} {file : Text} {pick : Finding → Option Nat}

theorem PicksLine.ge (h : PicksLine excluded file pick) {number : Nat} {lines : List Text} :
    ∀ n ∈ (readLines excluded file number lines).filterMap pick, number ≤ n := by
  induction lines generalizing number with
  | nil => simp [readLines_nil]
  | cons line rest ih =>
    intro n hn
    rw [readLines_cons, List.filterMap_append, List.mem_append] at hn
    rcases hn with hn | hn
    · rcases h number line rest with hpick | hpick
      · rw [hpick] at hn
        cases hn
      · rw [hpick, List.mem_singleton] at hn
        exact Nat.le_of_eq hn.symm
    · exact Nat.le_of_succ_le (ih n hn)

/-- Picked numbers stand in the order of the lines. -/
theorem PicksLine.pairwise (h : PicksLine excluded file pick) (number : Nat) (lines : List Text) :
    ((readLines excluded file number lines).filterMap pick).Pairwise (· < ·) := by
  induction lines generalizing number with
  | nil => simp [readLines_nil]
  | cons line rest ih =>
    rw [readLines_cons, List.filterMap_append]
    rcases h number line rest with hpick | hpick
    · rw [hpick]
      exact ih (number + 1)
    · rw [hpick]
      exact List.pairwise_cons.mpr ⟨fun n hn => h.ge n hn, ih (number + 1)⟩

end Picks

namespace Finding

/-- The line of a finding that accounts for a declaration: a fragment, or the report of an empty or
incomplete one. -/
def traceLine? : Finding → Option Nat
  | .fragment f => some f.line
  | .problem d => d.emptyLine?.or d.incompleteLine?

end Finding

section Lines

variable (excluded : Text → Bool) (file : Text)

theorem PicksLine.of_trace {excluded : Text → Bool} {file : Text} {pick : Finding → Option Nat}
    (h : ∀ number line rest found, LineTrace excluded file number line rest found →
      found.filterMap pick = [] ∨ found.filterMap pick = [number]) :
    PicksLine excluded file pick :=
  fun number line rest => h number line rest _ (lineTrace excluded file number line rest)

theorem picksLine_fragmentLine : PicksLine excluded file Finding.fragmentLine? := by
  refine .of_trace fun number line rest found hfound => ?_
  cases hfound with
  | untraced => exact Or.inl rfl
  | incomplete => exact Or.inl rfl
  | empty => exact Or.inl rfl
  | fragment _ _ _ _ _ hline hreports =>
    subst hline
    rcases hreports with rfl | ⟨version, rfl⟩ <;> exact Or.inr rfl

/-- A line yields at most one diagnostic, and that has the number of the line. -/
theorem picksLine_diagnostic {pick : Diagnostic → Option Nat}
    (hpick : ∀ d, pick d = none ∨ pick d = d.line) :
    PicksLine excluded file fun g => g.diagnostic?.bind pick := by
  -- what is picked from a report alone
  have hreport (problem : Problem) (number : Nat) :
      [Finding.problem ⟨problem, some file, some number, none⟩].filterMap
          (fun g => g.diagnostic?.bind pick) = [] ∨
        [Finding.problem ⟨problem, some file, some number, none⟩].filterMap
          (fun g => g.diagnostic?.bind pick) = [number] := by
    rcases hpick ⟨problem, some file, some number, none⟩ with h | h
    · exact Or.inl (by simp [Finding.diagnostic?, h])
    · exact Or.inr (by simp [Finding.diagnostic?, h])
  -- a fragment never comes with more than one report
  refine .of_trace fun number line rest found hfound => ?_
  cases hfound with
  | untraced => exact Or.inl rfl
  | incomplete => exact hreport _ number
  | empty => exact hreport _ number
  | fragment _ _ _ _ _ _ hreports =>
    rcases hreports with rfl | ⟨version, rfl⟩
    · exact Or.inl rfl
    · have hfragment (f : Fragment) :
          [Finding.fragment f].filterMap (fun g => g.diagnostic?.bind pick) = [] := rfl
      rw [List.filterMap_append, hfragment, List.append_nil]
      exact hreport _ number

theorem emptyLine?_cases (d : Diagnostic) : d.emptyLine? = none ∨ d.emptyLine? = d.line := by
  unfold Diagnostic.emptyLine?
  split
  · exact Or.inr rfl
  · exact Or.inl rfl

theorem incompleteLine?_cases (d : Diagnostic) :
    d.incompleteLine? = none ∨ d.incompleteLine? = d.line := by
  unfold Diagnostic.incompleteLine?
  split
  · exact Or.inr rfl
  · exact Or.inl rfl

theorem picksLine_traceLine : PicksLine excluded file Finding.traceLine? := by
  refine .of_trace fun number line rest found hfound => ?_
  cases hfound with
  | untraced => exact Or.inl rfl
  | incomplete => exact Or.inr rfl
  | empty => exact Or.inr rfl
  | fragment _ _ _ _ _ hline hreports =>
    subst hline
    rcases hreports with rfl | ⟨version, rfl⟩ <;> exact Or.inr rfl

end Lines

/-- Fragments, reports of empty bodies and reports of incomplete declarations are the traces, in
another order. -/
theorem traceLines_perm (found : List Finding) :
    (found.filterMap Finding.fragmentLine? ++
        (found.filterMap Finding.diagnostic?).filterMap Diagnostic.emptyLine? ++
        (found.filterMap Finding.diagnostic?).filterMap Diagnostic.incompleteLine?).Perm
      (found.filterMap Finding.traceLine?) := by
  induction found with
  | nil => exact .refl _
  | cons g more ih =>
    cases g with
    | fragment f => exact ih.cons f.line
    | problem d =>
      obtain ⟨problem, file, line, version⟩ := d
      -- a diagnostic without a line leaves no trace, whatever it is about
      cases line with
      | none => cases problem <;> exact ih
      | some line =>
        cases problem with
        | emptyBlock =>
          refine .trans ?_ (ih.cons line)
          rw [← List.cons_append]
          exact List.perm_middle.append_right _
        | incompleteDeclaration => exact List.perm_middle.trans (ih.cons line)
        | nonNumericVersion => exact ih
        | duplicateBlock => exact ih
        | noBlocks => exact ih
        | ambiguousTemplate => exact ih
        | missingTemplate => exact ih

/-! ## The account of a document -/

/-- The line with a number declares a fragment, in whole or in part. -/
def DeclaredAt (content : Text) (number : Nat) (d : Declaration) : Prop :=
  ∃ i line, number = i + 1 ∧ content.lines[i]? = some line ∧ Declaration.parse line = some d ∧
    d.Traced

/-- The lines directly below the line with a number that are its body if it declares a fragment. -/
def bodyBelow (content : Text) (number : Nat) : List Text :=
  (content.lines.drop number).takeWhile isBodyLine

section Account

variable {excluded : Text → Bool} {file content : Text} {n : Nat} {d : Declaration}

/-- What is found about a line is what that line yields. -/
theorem exists_trace_of_mem {g : Finding} (hg : g ∈ findings excluded file content)
    (hn : g.line? = some n) :
    ∃ i line found, n = i + 1 ∧ content.lines[i]? = some line ∧ g ∈ found ∧
      LineTrace excluded file n line (content.lines.drop n) found := by
  obtain ⟨i, line, hline, hg⟩ := (mem_findings_iff excluded file).mp hg
  have hnumber := (lineTrace excluded file (i + 1) line _).line?_of_mem hg
  obtain rfl : i + 1 = n := Option.some.inj (hnumber.symm.trans hn)
  exact ⟨i, line, _, rfl, hline, hg, lineTrace ..⟩

/-- What is found about the line of a declaration is one trace. -/
theorem DeclaredAt.exists_trace (h : DeclaredAt content n d) (excluded : Text → Bool)
    (file : Text) :
    ∃ line found, Declaration.parse line = some d ∧ d.Traced ∧
      LineTrace excluded file n line (content.lines.drop n) found ∧
      ∀ g, g.line? = some n → (g ∈ findings excluded file content ↔ g ∈ found) := by
  obtain ⟨i, line, rfl, hline, hparse, htraced⟩ := h
  refine ⟨line, _, hparse, htraced, lineTrace .., fun g hg => ?_⟩
  rw [mem_findings_iff]
  constructor
  · rintro ⟨j, other, hother, hmem⟩
    have hnumber := (lineTrace excluded file (j + 1) other _).line?_of_mem hmem
    obtain rfl : j = i := Nat.succ.inj (Option.some.inj (hnumber.symm.trans hg))
    obtain rfl : other = line := Option.some.inj (hother.symm.trans hline)
    exact hmem
  · exact fun hmem => ⟨i, line, hline, hmem⟩

theorem line?_of_fragmentLine? {g : Finding} (h : g.fragmentLine? = some n) : g.line? = some n := by
  cases g with
  | fragment f => exact h
  | problem p => cases h

theorem line?_of_diagnostic {pick : Diagnostic → Option Nat}
    (hpick : ∀ p, pick p = none ∨ pick p = p.line) {g : Finding}
    (h : g.diagnostic?.bind pick = some n) : g.line? = some n := by
  cases g with
  | fragment f => cases h
  | problem p =>
    rcases hpick p with hnone | hline
    · cases hnone.symm.trans h
    · exact hline.symm.trans h

theorem line?_of_traceLine? {g : Finding} (h : g.traceLine? = some n) : g.line? = some n := by
  cases g with
  | fragment f => exact h
  | problem p =>
    rcases Option.or_eq_some_iff.mp h with h | ⟨-, h⟩
    · exact line?_of_diagnostic (g := .problem p) emptyLine?_cases h
    · exact line?_of_diagnostic (g := .problem p) incompleteLine?_cases h

/-- The trace of a line is found exactly where a fragment is declared. -/
theorem mem_traceLine_iff :
    n ∈ (findings excluded file content).filterMap Finding.traceLine? ↔
      ∃ d, DeclaredAt content n d := by
  constructor
  · intro hn
    -- a line that declares nothing yields nothing, so the line of a trace declares a fragment
    obtain ⟨g, hg, htrace⟩ := List.mem_filterMap.mp hn
    obtain ⟨i, line, found, hi, hline, hmem, hfound⟩ :=
      exists_trace_of_mem hg (line?_of_traceLine? htrace)
    cases hfound with
    | untraced => cases hmem
    | incomplete h htraced => exact ⟨_, i, line, hi, hline, h, htraced⟩
    | empty h hcomplete => exact ⟨_, i, line, hi, hline, h, hcomplete.traced⟩
    | fragment h hcomplete => exact ⟨_, i, line, hi, hline, h, hcomplete.traced⟩
  · rintro ⟨d, hd⟩
    obtain ⟨line, found, hparse, htraced, hfound, hiff⟩ :=
      hd.exists_trace excluded file
    have htrace : ∃ g ∈ found, g.traceLine? = some n := by
      cases hfound with
      | untraced h => exact absurd htraced (h d hparse)
      | incomplete => exact ⟨_, List.mem_singleton_self _, rfl⟩
      | empty => exact ⟨_, List.mem_singleton_self _, rfl⟩
      | @fragment _ _ _ _ f _ _ hline =>
        exact ⟨.fragment f, List.mem_append_right _ (List.mem_singleton_self _),
          congrArg some hline⟩
    obtain ⟨g, hg, htrace⟩ := htrace
    exact List.mem_filterMap.mpr ⟨g, (hiff g (line?_of_traceLine? htrace)).mpr hg, htrace⟩

/-- Numbers of a line are picked from a document as from its trace. -/
theorem mem_filterMap_iff_of_trace {all found : List Finding}
    (h : ∀ g, g.line? = some n → (g ∈ all ↔ g ∈ found)) {pick : Finding → Option Nat}
    (hpick : ∀ g, pick g = some n → g.line? = some n) :
    n ∈ all.filterMap pick ↔ n ∈ found.filterMap pick := by
  rw [List.mem_filterMap, List.mem_filterMap]
  constructor
  · rintro ⟨g, hg, hn⟩
    exact ⟨g, (h g (hpick g hn)).mp hg, hn⟩
  · rintro ⟨g, hg, hn⟩
    exact ⟨g, (h g (hpick g hn)).mpr hg, hn⟩

theorem blockLines_extract :
    (extract excluded file content).blockLines =
      (findings excluded file content).filterMap Finding.fragmentLine? :=
  List.map_filterMap

theorem filterMap_diagnostics_extract (pick : Diagnostic → Option Nat) :
    (extract excluded file content).diagnostics.filterMap pick =
      (findings excluded file content).filterMap fun g => g.diagnostic?.bind pick :=
  List.filterMap_filterMap

theorem mem_diagnostics_extract {p : Diagnostic} :
    p ∈ (extract excluded file content).diagnostics ↔
      Finding.problem p ∈ findings excluded file content := by
  refine List.mem_filterMap.trans ⟨?_, fun h => ⟨_, h, rfl⟩⟩
  rintro ⟨g, hg, hp⟩
  cases g with
  | fragment f => cases hp
  | problem q =>
    cases hp
    exact hg

/-- A complete declaration gives a fragment or the report of an empty body. -/
theorem DeclaredAt.complete_cases (h : DeclaredAt content n d) (excluded : Text → Bool)
    (file : Text) (hd : d.Complete) :
    let extraction := extract excluded file content
    (n ∈ extraction.blockLines ∧ n ∉ extraction.emptyLines ∧ n ∉ extraction.incompleteLines ∧
      ∃ l ∈ bodyBelow content n, excluded l = false) ∨
    (n ∉ extraction.blockLines ∧ n ∈ extraction.emptyLines ∧ n ∉ extraction.incompleteLines ∧
      ∀ l ∈ bodyBelow content n, excluded l = true) := by
  intro extraction
  obtain ⟨line, found, hparse, htraced, hfound, hiff⟩ :=
    h.exists_trace excluded file
  -- whether the line is in one of the lists is decided by its own trace
  rw [blockLines_extract, Extraction.emptyLines, Extraction.incompleteLines,
    filterMap_diagnostics_extract, filterMap_diagnostics_extract,
    mem_filterMap_iff_of_trace hiff fun g => line?_of_fragmentLine?,
    mem_filterMap_iff_of_trace hiff fun g => line?_of_diagnostic emptyLine?_cases,
    mem_filterMap_iff_of_trace hiff fun g => line?_of_diagnostic incompleteLine?_cases]
  cases hfound with
  | untraced h => exact absurd htraced (h d hparse)
  | incomplete h _ hpartial =>
    rw [hparse] at h
    cases h
    exact absurd hd hpartial
  | empty _ _ hall =>
    exact Or.inr ⟨List.not_mem_nil, List.mem_singleton_self n, List.not_mem_nil, hall⟩
  | fragment _ _ hkept _ _ hline hreports =>
    subst hline
    rcases hreports with rfl | ⟨version, rfl⟩
    · exact Or.inl ⟨List.mem_singleton_self _, List.not_mem_nil, List.not_mem_nil, hkept⟩
    · exact Or.inl ⟨List.mem_singleton_self _, List.not_mem_nil, List.not_mem_nil, hkept⟩

/-- An incomplete declaration gives one diagnostic, with all that it says. -/
theorem DeclaredAt.mem_diagnostics_iff (h : DeclaredAt content n d) (excluded : Text → Bool)
    (file : Text) (hd : ¬ d.Complete) (p : Diagnostic) :
    p ∈ (extract excluded file content).diagnostics ∧ p.line = some n ↔
      p = ⟨.incompleteDeclaration d.name d.template d.version, some file, some n, none⟩ := by
  obtain ⟨line, found, hparse, htraced, hfound, hiff⟩ :=
    h.exists_trace excluded file
  -- the trace of an incomplete declaration is this diagnostic alone
  have hfound : found =
      [.problem ⟨.incompleteDeclaration d.name d.template d.version, some file, some n, none⟩] := by
    cases hfound with
    | untraced h => exact absurd htraced (h d hparse)
    | incomplete h =>
      cases hparse.symm.trans h
      rfl
    | empty h hcomplete =>
      cases hparse.symm.trans h
      exact absurd hcomplete hd
    | fragment h hcomplete =>
      cases hparse.symm.trans h
      exact absurd hcomplete hd
  rw [mem_diagnostics_extract]
  constructor
  · rintro ⟨hp, hline⟩
    rw [hiff (.problem p) hline, hfound, List.mem_singleton] at hp
    exact Finding.problem.inj hp
  · rintro rfl
    refine ⟨(hiff _ rfl).mpr ?_, rfl⟩
    rw [hfound]
    exact List.mem_singleton_self _

theorem DeclaredAt.mem_incompleteLines_iff (h : DeclaredAt content n d) :
    n ∈ (extract excluded file content).incompleteLines ↔ ¬ d.Complete := by
  constructor
  · intro hn hd
    rcases h.complete_cases excluded file hd with
      ⟨-, -, hno, -⟩ | ⟨-, -, hno, -⟩
    · exact hno hn
    · exact hno hn
  · intro hd
    obtain ⟨hp, -⟩ := (h.mem_diagnostics_iff excluded file hd _).mpr rfl
    exact List.mem_filterMap.mpr ⟨_, hp, rfl⟩

theorem line_isSome_of_mem_diagnostics {p : Diagnostic}
    (hp : p ∈ (extract excluded file content).diagnostics) : p.line.isSome := by
  obtain ⟨i, line, -, hp⟩ := (mem_findings_iff excluded file).mp (mem_diagnostics_extract.mp hp)
  have hline : p.line = some (i + 1) := (lineTrace ..).line?_of_mem hp
  rw [hline]
  rfl

end Account

/-- **Every declaration is accounted for once.** The lines of the fragments, of the reports of empty
bodies and of the reports of incomplete declarations are distinct, and together they are the lines
that declare a fragment. Which of them are complete does not depend on the filter. A complete
declaration gives a fragment exactly when the filter keeps a line of the body below it, and a report
otherwise; an incomplete one gives exactly the diagnostic with all that it says. Fragments and
diagnostics stand in the order of their lines. -/
theorem declarations_accounted (excluded : Text → Bool) (file content : Text) :
    let extraction := extract excluded file content
    let accounted := extraction.blockLines ++ extraction.emptyLines ++ extraction.incompleteLines
    accounted.Nodup ∧
    (∀ n, n ∈ accounted ↔ ∃ d, DeclaredAt content n d) ∧
    (∀ n d, DeclaredAt content n d →
      (n ∈ extraction.incompleteLines ↔ ¬ d.Complete) ∧
      (d.Complete →
        (n ∈ extraction.blockLines ↔ ∃ l ∈ bodyBelow content n, excluded l = false) ∧
        (n ∈ extraction.emptyLines ↔ ∀ l ∈ bodyBelow content n, excluded l = true)) ∧
      (¬ d.Complete → ∀ p, p ∈ extraction.diagnostics ∧ p.line = some n ↔
        p = ⟨.incompleteDeclaration d.name d.template d.version, some file, some n, none⟩)) ∧
    extraction.blockLines.Pairwise (· < ·) ∧
    (∀ p ∈ extraction.diagnostics, p.line.isSome) ∧
    (extraction.diagnostics.filterMap Diagnostic.line).Pairwise (· < ·) := by
  intro extraction accounted
  -- the three kinds of numbers are the traces, sorted by kind
  have htraces :
      accounted.Perm ((findings excluded file content).filterMap Finding.traceLine?) := by
    have hperm := traceLines_perm (findings excluded file content)
    rwa [← blockLines_extract] at hperm
  have hdistinct : ((findings excluded file content).filterMap Finding.traceLine?).Nodup :=
    ((picksLine_traceLine excluded file).pairwise 1 content.lines).imp Nat.ne_of_lt
  refine ⟨htraces.nodup_iff.mpr hdistinct, fun n => htraces.mem_iff.trans mem_traceLine_iff,
    fun n d h => ⟨h.mem_incompleteLines_iff, fun hd => ?_,
      fun hd => h.mem_diagnostics_iff excluded file hd⟩,
    ?_, fun p => line_isSome_of_mem_diagnostics, ?_⟩
  · rcases h.complete_cases excluded file hd with
      ⟨hblock, hempty, -, l, hl, hkept⟩ | ⟨hblock, hempty, -, hall⟩
    · refine ⟨iff_of_true hblock ⟨l, hl, hkept⟩, iff_of_false hempty fun hall => ?_⟩
      rw [hall l hl] at hkept
      cases hkept
    · refine ⟨iff_of_false hblock fun ⟨l, hl, hkept⟩ => ?_, iff_of_true hempty hall⟩
      rw [hall l hl] at hkept
      cases hkept
  · rw [blockLines_extract]
    exact (picksLine_fragmentLine excluded file).pairwise 1 content.lines
  · rw [filterMap_diagnostics_extract]
    exact (picksLine_diagnostic excluded file fun p => Or.inr rfl).pairwise 1 content.lines

end Tangle
