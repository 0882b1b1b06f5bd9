import Mathlib.Data.List.Induction
import Mathlib.Data.Nat.Digits.Defs
import Tangle.Proofs.Extraction.Fragments

/-!
# Versions as they are declared

A version is written in decimal digits, with blanks around them and a plus sign before them if one
likes. A fragment whose version is written so has that version, and nothing is reported on its line.
A fragment whose version is not written so has the version zero, and its line has one report, which
gives the version as it was declared. No other line has such a report.
-/

namespace Tangle

/-! ## Numbers as versions write them -/

/-- Digits that write a number in decimal, the one that counts least at the end. -/
def IsDecimal (digits : Text) (n : Nat) : Prop :=
  digits ≠ [] ∧ (∀ c ∈ digits, isDigit c = true) ∧
    Nat.ofDigits 10 (digits.reverse.map fun c => c.toNat - '0'.toNat) = n

/-- A value writes a version: digits between blanks, behind a plus sign or not. -/
def WritesVersion (value : Text) (n : Nat) : Prop :=
  ∃ before sign digits after : Text, value = before ++ (sign ++ digits ++ after) ∧
    (∀ c ∈ before, isSpace c = true) ∧ (∀ c ∈ after, isSpace c = true) ∧
    (sign = [] ∨ sign = ['+']) ∧ IsDecimal digits n ∧ n < 2 ^ 32

theorem digitsValue_eq_ofDigits (digits : Text) :
    Text.digitsValue digits =
      Nat.ofDigits 10 (digits.reverse.map fun c => c.toNat - '0'.toNat) := by
  induction digits using List.reverseRecOn with
  | nil => rfl
  | append_singleton digits c ih =>
    rw [Text.digitsValue, List.foldl_append, ← Text.digitsValue, ih, List.reverse_append,
      List.reverse_singleton, List.singleton_append, List.map_cons, Nat.ofDigits_cons,
      List.foldl_cons, List.foldl_nil]
    ring

/-- A version is read from a value exactly if the value writes it. -/
theorem readVersion?_eq_some_iff {value : Text} {n : Nat} :
    readVersion? value = some n ↔ WritesVersion value n := by
  rw [readVersion?, Option.filter_eq_some_iff, Text.toNat?_eq_some_iff, decide_eq_true_eq]
  constructor
  · rintro ⟨⟨sign, digits, hsign, htrim, hne, hdigits, hvalue⟩, hlt⟩
    -- what is trimmed off is the blanks around the number
    obtain ⟨before, after, heq, hbefore, hafter⟩ := Text.exists_trim value
    rw [digitsValue_eq_ofDigits] at hvalue
    exact ⟨before, sign, digits, after, by rw [← htrim]; exact heq, hbefore, hafter, hsign,
      ⟨hne, hdigits, hvalue⟩, hlt⟩
  · rintro ⟨before, sign, digits, after, rfl, hbefore, hafter, hsign, ⟨hne, hdigits, hvalue⟩, hlt⟩
    rw [← digitsValue_eq_ofDigits] at hvalue
    refine ⟨⟨sign, digits, hsign, ?_, hne, hdigits, hvalue⟩, hlt⟩
    -- neither the sign nor a digit is a blank, so that both are left between the blanks
    apply Text.trim_append_of_forall hbefore _ hafter
    intro c hc
    rcases List.mem_append.mp hc with hc | hc
    · rcases hsign with rfl | rfl
      · cases hc
      · rw [List.mem_singleton.mp hc]
        decide
    · exact Text.isSpace_of_isDigit (hdigits c hc)

example : readVersion? " +0004294967295".toList = some 4294967295 ∧
    readVersion? "4294967296".toList = none := by
  decide +kernel

theorem readVersion?_eq_none_iff {value : Text} :
    readVersion? value = none ↔ ∀ n, ¬ WritesVersion value n := by
  simp only [Option.eq_none_iff_forall_ne_some, ne_eq, readVersion?_eq_some_iff]

/-! ## Reports on one line -/

namespace Extraction

/-- The diagnostics that carry a line. -/
def reportsAt (e : Extraction) (n : Nat) : List Diagnostic :=
  e.diagnostics.filter fun d => d.line = some n

end Extraction

section Document

variable {excluded : Text → Bool} {file content : Text}

/-- What lines yield about one of them is what that line yields. -/
theorem filter_line?_readLines {lines : List Text} {i : Nat} {line : Text}
    (h : lines[i]? = some line) (number : Nat) :
    (readLines excluded file number lines).filter (fun g => g.line? = some (number + i)) =
      lineFindings excluded file (number + i) line (lines.drop (i + 1)) := by
  have hline (number : Nat) (line : Text) (rest : List Text) :
      ∀ g ∈ lineFindings excluded file number line rest, g.line? = some number := fun g hg =>
    (lineTrace excluded file number line rest).line?_of_mem hg
  -- the lines below have higher numbers, and so the number is generalized
  induction lines generalizing number i with
  | nil => cases h
  | cons first rest ih =>
    rw [readLines_cons, List.filter_append]
    cases i with
    | zero =>
      obtain rfl : first = line := Option.some.inj h
      -- what is found below is about later lines
      have hbelow : (readLines excluded file (number + 1) rest).filter
          (fun g => g.line? = some (number + 0)) = [] := by
        apply List.filter_eq_nil_iff.mpr
        intro g hg
        obtain ⟨j, other, -, hmem⟩ := (mem_readLines_iff excluded file).mp hg
        rw [hline _ _ _ g hmem]
        simp
        omega
      rw [hbelow, List.append_nil]
      apply List.filter_eq_self.mpr
      intro g hg
      simpa using hline number first rest g hg
    | succ i =>
      have hfirst : (lineFindings excluded file number first rest).filter
          (fun g => g.line? = some (number + (i + 1))) = [] := by
        apply List.filter_eq_nil_iff.mpr
        intro g hg
        rw [hline _ _ _ g hg]
        simp
      have hnumber : number + (i + 1) = number + 1 + i := by omega
      rw [hfirst, List.nil_append, hnumber]
      exact ih h (number + 1)

/-- The diagnostics that carry a line are those that it yields. -/
theorem reportsAt_extract {i : Nat} {line : Text} (h : content.lines[i]? = some line) :
    (extract excluded file content).reportsAt (i + 1) =
      (lineFindings excluded file (i + 1) line (content.lines.drop (i + 1))).filterMap
        Finding.diagnostic? := by
  have hfound : (readLines excluded file 1 content.lines).filter
      (fun g => g.line? = some (1 + i)) = _ := filter_line?_readLines h 1
  rw [Nat.add_comm 1 i] at hfound
  rw [← hfound, Extraction.reportsAt, extract, List.filter_filterMap, List.filterMap_filter,
    findings]
  apply List.filterMap_congr
  intro g _
  cases g with
  | fragment f => simp [Finding.diagnostic?]
  | problem d =>
    by_cases hd : d.line = some (i + 1)
    · simp [Finding.diagnostic?, Finding.line?, hd]
    · simp [Finding.diagnostic?, Finding.line?, hd]

/-- A body of which a line is kept gives at most one report, which is about the version. -/
theorem diagnostics_readBody {number : Nat} {name template version : Text} {body : List Text}
    (h : (body.filter fun l => !excluded l) ≠ []) :
    (readBody excluded file number name template version body).filterMap Finding.diagnostic? =
      match readVersion? version with
      | some _ => []
      | none => [⟨.nonNumericVersion version, some file, some number, none⟩] := by
  rw [readBody_eq]
  dsimp only
  rw [if_neg (by simpa using h)]
  cases readVersion? version with
  | some n => rfl
  | none => rfl

/-- A fragment has the version that its declaration gives, and its line has the report that this
version deserves. -/
theorem exists_version_of_mem {f : Fragment} (h : f ∈ (extract excluded file content).fragments) :
    ∃ d value, DeclaredAt content f.line d ∧ d.version = some value ∧
      f.version = (readVersion? value).getD 0 ∧
      (extract excluded file content).reportsAt f.line =
        match readVersion? value with
        | some _ => []
        | none => [⟨.nonNumericVersion value, some file, some f.line, none⟩] := by
  obtain ⟨hdeclared, hkept, -⟩ := mem_fragments_extract_iff.mp h
  obtain ⟨d, value, hat, hname, htemplate, hversion, hnumeric⟩ := hdeclared.declared
  refine ⟨d, value, hat, hversion, hnumeric, ?_⟩
  obtain ⟨i, line, hnumber, hline, hparse, -⟩ := hat
  rw [hnumber] at hkept ⊢
  rw [reportsAt_extract hline,
    lineFindings_of_complete (i + 1) _ hparse hname htemplate hversion]
  exact diagnostics_readBody hkept

/-- A diagnostic is part of the trace of a line, whose other parts are the fragments and the
diagnostics that carry this line. -/
theorem exists_trace_of_mem_diagnostics {p : Diagnostic}
    (h : p ∈ (extract excluded file content).diagnostics) :
    ∃ n line rest found, p.line = some n ∧ LineTrace excluded file n line rest found ∧
      Finding.problem p ∈ found ∧
      (∀ f, Finding.fragment f ∈ found → f ∈ (extract excluded file content).fragments) ∧
      (extract excluded file content).reportsAt n = found.filterMap Finding.diagnostic? := by
  obtain ⟨i, line, hline, hmem⟩ :=
    (mem_findings_iff excluded file).mp (mem_diagnostics_extract.mp h)
  have htrace := lineTrace excluded file (i + 1) line (content.lines.drop (i + 1))
  refine ⟨i + 1, line, _, _, htrace.line?_of_mem hmem, htrace, hmem, fun f hf => ?_,
    reportsAt_extract hline⟩
  exact mem_fragments_extract.mpr ((mem_findings_iff excluded file).mpr ⟨i, line, hline, hf⟩)

/-- A version is reported only on the line of a fragment. -/
theorem exists_fragment_of_nonNumericVersion {p : Diagnostic} {value : Text}
    (h : p ∈ (extract excluded file content).diagnostics)
    (hvalue : p.problem = .nonNumericVersion value) :
    ∃ f ∈ (extract excluded file content).fragments, p.line = some f.line := by
  obtain ⟨n, line, rest, found, hn, htrace, hmem, hfragments, -⟩ :=
    exists_trace_of_mem_diagnostics h
  -- the reports of incomplete declarations and of empty bodies are about other problems
  cases htrace with
  | untraced => cases hmem
  | incomplete =>
    cases List.mem_singleton.mp hmem
    cases hvalue
  | empty =>
    cases List.mem_singleton.mp hmem
    cases hvalue
  | @fragment _ _ _ _ f _ _ hnumber =>
    refine ⟨f, hfragments f (List.mem_append_right _ (List.mem_singleton_self _)), ?_⟩
    rw [hn, hnumber]

/-- The report of an empty body is all that its line has. -/
theorem reportsAt_of_mem_emptyLines {n : Nat}
    (h : n ∈ (extract excluded file content).emptyLines) :
    (extract excluded file content).reportsAt n = [⟨.emptyBlock, some file, some n, none⟩] := by
  obtain ⟨p, hp, hempty⟩ := List.mem_filterMap.mp h
  obtain ⟨number, line, rest, found, hn, htrace, hmem, -, hreports⟩ :=
    exists_trace_of_mem_diagnostics hp
  have hline : p.emptyLine? = p.line := by
    rcases emptyLine?_cases p with hnone | hline
    · cases hnone.symm.trans hempty
    · exact hline
  obtain rfl : number = n := Option.some.inj ((hn.symm.trans hline.symm).trans hempty)
  cases htrace with
  | untraced => cases hmem
  | incomplete =>
    cases List.mem_singleton.mp hmem
    cases hempty
  | empty => exact hreports
  | fragment _ _ _ _ _ _ hfound =>
    -- beside a fragment only its version can be reported
    rcases hfound with rfl | ⟨version, rfl⟩
    · simp at hmem
    · obtain rfl : p = _ := by simpa using hmem
      cases hempty

/-- **Versions are read or reported.** The version of a fragment is the number that its declaration
writes, and then its line has no report. If the declaration writes no number, the version is zero
and the only report on the line gives the version as it was declared. Such a report is found on no
line but that of a fragment, and so not on that of a declaration with an empty body, which has no
report but that one. -/
theorem versions_read (excluded : Text → Bool) (file content : Text) :
    let extraction := extract excluded file content
    (∀ f ∈ extraction.fragments, ∃ d value,
      DeclaredAt content f.line d ∧ d.version = some value ∧
      ((∃ n, WritesVersion value n ∧ f.version = n ∧ extraction.reportsAt f.line = []) ∨
        ((∀ n, ¬ WritesVersion value n) ∧ f.version = 0 ∧
          extraction.reportsAt f.line =
            [⟨.nonNumericVersion value, some file, some f.line, none⟩]))) ∧
    (∀ p ∈ extraction.diagnostics, ∀ value, p.problem = .nonNumericVersion value →
      ∃ f ∈ extraction.fragments, p.line = some f.line) ∧
    ∀ n ∈ extraction.emptyLines,
      extraction.reportsAt n = [⟨.emptyBlock, some file, some n, none⟩] := by
  intro extraction
  refine ⟨fun f hf => ?_, fun p hp value => exists_fragment_of_nonNumericVersion hp,
    fun n => reportsAt_of_mem_emptyLines⟩
  obtain ⟨d, value, hdeclared, hvalue, hversion, hreports⟩ := exists_version_of_mem hf
  refine ⟨d, value, hdeclared, hvalue, ?_⟩
  cases hread : readVersion? value with
  | some n =>
    rw [hread] at hversion hreports
    exact Or.inl ⟨n, readVersion?_eq_some_iff.mp hread, hversion, hreports⟩
  | none =>
    rw [hread] at hversion hreports
    exact Or.inr ⟨readVersion?_eq_none_iff.mp hread, hversion, hreports⟩

end Document

/-- Two declarations with a line each, of which the first one writes a version and the second one a
number that is too large. -/
def largeVersionText : Text :=
  ["\x7blang='x' name='n' template='p' ver=' +7'\x7d\n", "  x\n",
    "\x7blang='x' name='m' template='p' ver='4294967296'\x7d\n", "  y\n"].flatMap String.toList

-- the first version is read, and the second one is reported
example :
    let extraction := extract (fun _ => false) ['b'] largeVersionText
    extraction.fragments.map (fun f => (f.line, f.version)) = [(1, 7), (3, 0)] ∧
      extraction.reportsAt 1 = [] ∧
      extraction.reportsAt 3 =
        [⟨.nonNumericVersion "4294967296".toList, some ['b'], some 3, none⟩] := by
  decide +kernel

end Tangle
