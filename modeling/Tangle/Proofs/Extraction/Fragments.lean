import Tangle.Proofs.Declaration.Fields
import Tangle.Proofs.Duplicates
import Tangle.Proofs.Extraction.Accounting
import Tangle.Proofs.History
import Tangle.Proofs.Indentation

/-!
# The fragments of a document

A fragment of a document has the name, the template, the version and the place that its declaration
gives, whatever the filter: this decides on its lines, and on whether there is a fragment at all.
Among fragments with the same key the first one is accepted.
-/

namespace Tangle

/-! ## Which fragments a document has -/

/-- The lines below a declaration that a filter leaves to its fragment. -/
def keptBelow (excluded : Text → Bool) (content : Text) (number : Nat) : List Text :=
  (bodyBelow content number).filter fun line => !excluded line

/-- All of a fragment but its lines is as the declaration at its place in a document says. -/
structure Fragment.DeclaredIn (f : Fragment) (file content : Text) : Prop where
  file : f.file = file
  declared : ∃ d version, DeclaredAt content f.line d ∧ d.name = some f.name ∧
    d.template = some f.template ∧ d.version = some version ∧
    f.version = (readVersion? version).getD 0

section Document

variable {excluded : Text → Bool} {file content : Text} {f : Fragment}

/-- A body gives a fragment when a line of it is kept. -/
theorem mem_readBody_iff {number : Nat} {name template version : Text} {body : List Text} :
    Finding.fragment f ∈ readBody excluded file number name template version body ↔
      (body.filter fun l => !excluded l) ≠ [] ∧
        f = { lines := dedent (body.filter fun l => !excluded l), name, template,
              version := (readVersion? version).getD 0, line := number, file } := by
  rw [readBody_eq]
  dsimp only
  by_cases hkept : (body.filter fun l => !excluded l) = []
  · simp [hkept]
  · cases hversion : readVersion? version with
    | some n => simp [hkept]
    | none => simp [hkept]

/-- A line gives a fragment when it is a complete declaration. -/
theorem mem_lineFindings_iff {number : Nat} {line : Text} {rest : List Text} :
    Finding.fragment f ∈ lineFindings excluded file number line rest ↔
      ∃ d version, Declaration.parse line = some d ∧ d.name = some f.name ∧
        d.template = some f.template ∧ d.version = some version ∧
        Finding.fragment f ∈ readBody excluded file number f.name f.template version
          (rest.takeWhile isBodyLine) := by
  constructor
  · intro hmem
    -- of the four kinds of lines only a complete declaration yields a fragment
    cases hparse : Declaration.parse line with
    | none =>
      rw [lineFindings_of_parse_none number rest hparse] at hmem
      cases hmem
    | some d =>
      by_cases htraced : d.Traced
      · by_cases hcomplete : d.Complete
        · obtain ⟨name, template, version, hname, htemplate, hversion⟩ := hcomplete.exists_fields
          rw [lineFindings_of_complete number rest hparse hname htemplate hversion] at hmem
          obtain ⟨-, hf⟩ := mem_readBody_iff.mp hmem
          obtain rfl : f.name = name := congrArg Fragment.name hf
          obtain rfl : f.template = template := congrArg Fragment.template hf
          exact ⟨d, version, rfl, hname, htemplate, hversion, hmem⟩
        · rw [lineFindings_of_partial number rest hparse htraced hcomplete] at hmem
          simp at hmem
      · rw [lineFindings_of_not_traced number rest hparse htraced] at hmem
        cases hmem
  · rintro ⟨d, version, hparse, hname, htemplate, hversion, hmem⟩
    rwa [lineFindings_of_complete number rest hparse hname htemplate hversion]

theorem mem_fragments_extract :
    f ∈ (extract excluded file content).fragments ↔
      Finding.fragment f ∈ findings excluded file content := by
  unfold extract
  rw [List.mem_filterMap]
  constructor
  · rintro ⟨g, hg, hf⟩
    cases g with
    | fragment _ =>
      cases hf
      exact hg
    | problem _ => cases hf
  · intro hf
    exact ⟨_, hf, rfl⟩

/-- **The fragments of a document** are those that it declares and of which a line is kept. -/
theorem mem_fragments_extract_iff :
    f ∈ (extract excluded file content).fragments ↔
      f.DeclaredIn file content ∧ keptBelow excluded content f.line ≠ [] ∧
        f.lines = dedent (keptBelow excluded content f.line) := by
  rw [mem_fragments_extract, mem_findings_iff]
  constructor
  · rintro ⟨i, line, hline, hmem⟩
    obtain ⟨d, version, hparse, hname, htemplate, hversion, hmem⟩ := mem_lineFindings_iff.mp hmem
    obtain ⟨hkept, hf⟩ := mem_readBody_iff.mp hmem
    -- each field of the fragment is the one that reading the body has given it
    have hnumber : f.line = i + 1 := congrArg Fragment.line hf
    have htraced : d.Traced := Or.inl (by simp [hname])
    refine ⟨⟨congrArg Fragment.file hf, d, version,
      ⟨i, line, hnumber, hline, hparse, htraced⟩, hname, htemplate, hversion,
      congrArg Fragment.version hf⟩, ?_, ?_⟩
    · rw [hnumber]
      exact hkept
    · rw [hnumber]
      exact congrArg Fragment.lines hf
  · rintro ⟨⟨rfl, d, version, ⟨i, line, hnumber, hline, hparse, -⟩, hname, htemplate, hversion,
      hnumeric⟩, hkept, hlines⟩
    rw [hnumber] at hkept hlines
    -- a fragment with these fields can only be the one that the line yields
    refine ⟨i, line, hline, mem_lineFindings_iff.mpr
      ⟨d, version, hparse, hname, htemplate, hversion, mem_readBody_iff.mpr ⟨hkept, ?_⟩⟩⟩
    obtain ⟨lines, name, template, number, place, file⟩ := f
    subst hlines hnumber hnumeric
    rfl

/-- Fragments stand in the order of their declarations. -/
theorem pairwise_line_fragments :
    (extract excluded file content).fragments.Pairwise fun f g => f.line < g.line := by
  have hlines := (picksLine_fragmentLine excluded file).pairwise 1 content.lines
  rw [← findings, ← blockLines_extract, Extraction.blockLines, List.pairwise_map] at hlines
  exact hlines

/-- What is reported about a line is a problem of that line, and is not about a version. -/
theorem LineTrace.of_problem_mem {number : Nat} {line : Text} {rest : List Text}
    {found : List Finding} (h : LineTrace excluded file number line rest found) {d : Diagnostic}
    (hd : Finding.problem d ∈ found) : d.problem ≠ .noBlocks ∧ d.version = none := by
  cases h with
  | untraced => cases hd
  | incomplete =>
    cases List.mem_singleton.mp hd
    simp
  | empty =>
    cases List.mem_singleton.mp hd
    simp
  | fragment _ _ _ _ _ _ hreports =>
    -- a report comes with a fragment only when the version is no number
    rcases hreports with rfl | ⟨version, rfl⟩
    · simp at hd
    · obtain rfl : d = _ := by simpa using hd
      simp

theorem of_mem_diagnostics_extract {d : Diagnostic}
    (h : d ∈ (extract excluded file content).diagnostics) :
    d.problem ≠ .noBlocks ∧ d.version = none := by
  obtain ⟨i, line, -, hmem⟩ := (mem_findings_iff excluded file).mp (mem_diagnostics_extract.mp h)
  exact (lineTrace excluded file (i + 1) line _).of_problem_mem hmem

end Document

/-! ## What a fragment is -/

/-- What holds of every fragment by itself. -/
structure Fragment.WellFormed (f : Fragment) : Prop where
  name : f.name ≠ []
  template : f.template ≠ []
  lines : f.lines ≠ []
  /-- No line goes on behind a line feed. -/
  unbroken : ∀ line ∈ f.lines, '\n' ∉ line.dropLast
  /-- Only the last line can do without a line feed. -/
  ended : ∀ line ∈ f.lines.dropLast, line.getLast? = some '\n'
  /-- No indentation is left that the lines share. -/
  flush : (∃ line ∈ f.lines, line.isBlank = false) → ∃ line ∈ f.lines, IsFlush line

section WellFormed

variable {excluded : Text → Bool} {file content : Text} {f : Fragment}

/-- An empty value counts as none, and so no field of a declaration is empty. -/
theorem Fragment.DeclaredIn.ne_nil (h : f.DeclaredIn file content) :
    f.name ≠ [] ∧ f.template ≠ [] := by
  obtain ⟨d, version, ⟨i, line, -, -, hparse, -⟩, hname, htemplate, -⟩ := h.declared
  rw [Declaration.parse_eq] at hparse
  obtain ⟨attributes, -, hattributes⟩ := Option.bind_eq_some_iff.mp hparse
  obtain ⟨lang, -, rfl⟩ := Option.map_eq_some_iff.mp hattributes
  constructor
  · exact ((Declaration.valueOf_eq_some_iff _ _ _).mp hname).1
  · exact ((Declaration.valueOf_eq_some_iff _ _ _).mp htemplate).1

/-- The lines that a body keeps are lines of the document. -/
theorem areLines_keptBelow (excluded : Text → Bool) (content : Text) (number : Nat) :
    Text.AreLines (keptBelow excluded content number) := by
  apply (Text.areLines_lines content).of_sublist
  apply List.filter_sublist.trans
  apply (List.takeWhile_sublist _).trans
  exact List.drop_sublist number content.lines

theorem wellFormed_of_mem_fragments (h : f ∈ (extract excluded file content).fragments) :
    f.WellFormed := by
  obtain ⟨hdeclared, hkept, hlines⟩ := mem_fragments_extract_iff.mp h
  obtain ⟨hname, htemplate⟩ := hdeclared.ne_nil
  obtain ⟨hunbroken, hended⟩ := breaks_dedent (areLines_keptBelow excluded content f.line)
  have hflush (h : ∃ line ∈ dedent (keptBelow excluded content f.line), line.isBlank = false) :=
    exists_isFlush_mem_dedent h
  have hne : dedent (keptBelow excluded content f.line) ≠ [] := by
    simpa [dedent] using hkept
  rw [← hlines] at hunbroken hended hne hflush
  exact ⟨hname, htemplate, hne, hunbroken, hended, hflush⟩

end WellFormed

/-! ## Accepted fragments -/

/-- Of the fragments whose key is not taken, the first one with each key is accepted. -/
theorem fragments_pruneAfter (accepted fragments : List Fragment) :
    (pruneAfter accepted fragments).fragments = accepted ++
      History.firstBy Fragment.key
        (fragments.filter fun f => f.key ∉ accepted.map Fragment.key) := by
  induction fragments generalizing accepted with
  | nil => simp [pruneAfter_nil, History.firstBy]
  | cons f rest ih =>
    cases hfind : accepted.find? fun g => g.key = f.key with
    | some existing =>
      -- the key is taken, and the fragment is left out
      obtain ⟨hmem, hkey⟩ := mem_of_taken hfind
      have htaken : f.key ∈ accepted.map Fragment.key := List.mem_map.mpr ⟨existing, hmem, hkey⟩
      rw [pruneAfter_of_taken hfind, List.filter_cons_of_neg (by simpa using htaken)]
      exact ih accepted
    | none =>
      have hfree := notMem_keys_of_free hfind
      rw [pruneAfter_of_free hfind, List.filter_cons_of_pos (by simpa using hfree),
        History.firstBy_cons, ih, List.append_assoc, List.singleton_append, List.filter_filter]
      -- what is left has neither a key that was taken nor that of the fragment
      congr 3
      apply List.filter_congr
      intro g _
      simp [and_comm]

/-- Pruning keeps the first fragment of each key. -/
theorem fragments_prune (fragments : List Fragment) :
    (prune fragments).fragments = History.firstBy Fragment.key fragments := by
  rw [prune, fragments_pruneAfter]
  simp

end Tangle
