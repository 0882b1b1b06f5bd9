import Tangle.Proofs.Extraction.Lines

/-!
# Documents in parts

What a line yields depends on its number in one way only: the number is written into the fragment or
the report. So the lines of a document can be numbered anew, and a document that is put together
from two parts yields what the first part yields and then, under higher numbers, what the second
one yields. The second part must not begin with a line that would belong to a body above it.
-/

namespace Tangle

/-! ## Findings changed one by one -/

namespace Finding

/-- A finding with its fragment or its diagnostic changed. -/
def map (onFragment : Fragment → Fragment) (onDiagnostic : Diagnostic → Diagnostic) :
    Finding → Finding
  | .fragment f => .fragment (onFragment f)
  | .problem d => .problem (onDiagnostic d)

end Finding

namespace Extraction

/-- The fragments and the diagnostics among findings. -/
def ofFindings (found : List Finding) : Extraction where
  fragments := found.filterMap Finding.fragment?
  diagnostics := found.filterMap Finding.diagnostic?

/-- One extraction after another. -/
def append (first second : Extraction) : Extraction where
  fragments := first.fragments ++ second.fragments
  diagnostics := first.diagnostics ++ second.diagnostics

theorem ofFindings_append (first second : List Finding) :
    ofFindings (first ++ second) = (ofFindings first).append (ofFindings second) := by
  simp only [ofFindings, append, List.filterMap_append]

/-- An extraction with all its fragments and diagnostics changed. -/
def map (onFragment : Fragment → Fragment) (onDiagnostic : Diagnostic → Diagnostic)
    (e : Extraction) : Extraction where
  fragments := e.fragments.map onFragment
  diagnostics := e.diagnostics.map onDiagnostic

theorem ofFindings_map (onFragment : Fragment → Fragment)
    (onDiagnostic : Diagnostic → Diagnostic) (found : List Finding) :
    ofFindings (found.map (Finding.map onFragment onDiagnostic)) =
      (ofFindings found).map onFragment onDiagnostic := by
  induction found with
  | nil => rfl
  | cons g more ih =>
    -- a finding is a fragment or a diagnostic, and the other list does not see it
    have hfragments := congrArg Extraction.fragments ih
    have hdiagnostics := congrArg Extraction.diagnostics ih
    simp only [ofFindings, map] at hfragments hdiagnostics
    cases g with
    | fragment f =>
      simp only [ofFindings, map, List.map_cons, Finding.map, List.filterMap_cons,
        Finding.fragment?, Finding.diagnostic?, hfragments, hdiagnostics]
    | problem d =>
      simp only [ofFindings, map, List.map_cons, Finding.map, List.filterMap_cons,
        Finding.fragment?, Finding.diagnostic?, hfragments, hdiagnostics]

end Extraction

theorem extract_eq_ofFindings (excluded : Text → Bool) (file content : Text) :
    extract excluded file content = .ofFindings (findings excluded file content) := rfl

/-- Two lines that declare the same, in front of bodies that are read alike, yield the same up to a
change of each finding. -/
theorem lineFindings_map {excluded excluded' : Text → Bool} {file : Text} {number number' : Nat}
    {line line' : Text} {rest rest' : List Text} {change : Finding → Finding}
    (declares : Declaration.parse line' = Declaration.parse line)
    (incomplete : ∀ name template version,
      change (.problem
          ⟨.incompleteDeclaration name template version, some file, some number, none⟩) =
        .problem ⟨.incompleteDeclaration name template version, some file, some number', none⟩)
    (body : ∀ name template version,
      readBody excluded' file number' name template version (rest'.takeWhile isBodyLine) =
        (readBody excluded file number name template version (rest.takeWhile isBodyLine)).map
          change) :
    lineFindings excluded' file number' line' rest' =
      (lineFindings excluded file number line rest).map change := by
  cases hparse : Declaration.parse line with
  | none =>
    have hparse' := declares.trans hparse
    rw [lineFindings_of_parse_none _ _ hparse, lineFindings_of_parse_none _ _ hparse']
    rfl
  | some d =>
    have hparse' := declares.trans hparse
    by_cases htraced : d.Traced
    · by_cases hcomplete : d.Complete
      · obtain ⟨name, template, version, hname, htemplate, hversion⟩ := hcomplete.exists_fields
        rw [lineFindings_of_complete _ _ hparse hname htemplate hversion,
          lineFindings_of_complete _ _ hparse' hname htemplate hversion]
        exact body name template version
      · rw [lineFindings_of_partial _ _ hparse htraced hcomplete,
          lineFindings_of_partial _ _ hparse' htraced hcomplete, List.map_singleton, incomplete]
    · rw [lineFindings_of_not_traced _ _ hparse htraced,
        lineFindings_of_not_traced _ _ hparse' htraced]
      rfl

/-! ## Other numbers -/

section Renumber

variable (renumbered : Nat → Nat)

/-- The same fragment on another line. -/
def Fragment.renumber (f : Fragment) : Fragment := { f with line := renumbered f.line }

/-- The same diagnostic about another line. -/
def Diagnostic.renumber (d : Diagnostic) : Diagnostic := { d with line := d.line.map renumbered }

/-- The same finding on another line. -/
def Finding.renumber : Finding → Finding :=
  Finding.map (Fragment.renumber renumbered) (Diagnostic.renumber renumbered)

/-- The same extraction with other line numbers. -/
def Extraction.renumber : Extraction → Extraction :=
  Extraction.map (Fragment.renumber renumbered) (Diagnostic.renumber renumbered)

theorem readBody_renumber (excluded : Text → Bool) (file : Text) (number : Nat)
    (name template version : Text) (body : List Text) :
    readBody excluded file (renumbered number) name template version body =
      (readBody excluded file number name template version body).map
        (Finding.renumber renumbered) := by
  rw [readBody_eq, readBody_eq]
  dsimp only
  by_cases hkept : (body.filter fun l => !excluded l).isEmpty
  · rw [if_pos hkept, if_pos hkept]
    rfl
  · rw [if_neg hkept, if_neg hkept]
    cases readVersion? version <;> rfl

theorem lineFindings_renumber (excluded : Text → Bool) (file : Text) (number : Nat) (line : Text)
    (rest : List Text) :
    lineFindings excluded file (renumbered number) line rest =
      (lineFindings excluded file number line rest).map (Finding.renumber renumbered) := by
  apply lineFindings_map rfl
  · intro name template version
    rfl
  · intro name template version
    exact readBody_renumber renumbered excluded file number name template version _

end Renumber

/-- Reading from a higher number on gives all findings on lines that are as much higher. -/
theorem readLines_add (excluded : Text → Bool) (file : Text) (number offset : Nat)
    (lines : List Text) :
    readLines excluded file (number + offset) lines =
      (readLines excluded file number lines).map (Finding.renumber (· + offset)) := by
  induction lines generalizing number with
  | nil => simp only [readLines_nil, List.map_nil]
  | cons line rest ih =>
    have hline := lineFindings_renumber (· + offset) excluded file number line rest
    have hrest := ih (number + 1)
    rw [Nat.add_right_comm] at hrest
    rw [readLines_cons, readLines_cons, hrest, List.map_append]
    exact congrArg (· ++ _) hline

/-! ## Two parts -/

section Parts

variable {second : List Text} (flush : ∀ line ∈ second.head?, isBodyLine line = false)

include flush

/-- Lines in two parts yield what the first part yields alone, and then what the second one does. -/
theorem readLines_append (excluded : Text → Bool) (file : Text) (number : Nat)
    (first : List Text) :
    readLines excluded file number (first ++ second) =
      readLines excluded file number first ++
        readLines excluded file (number + first.length) second := by
  induction first generalizing number with
  | nil =>
    rw [readLines_nil]
    rfl
  | cons line rest ih =>
    -- the line sees no more of the lines below it than it would without the second part
    have hline : lineFindings excluded file number line (rest ++ second) =
        lineFindings excluded file number line rest := by
      unfold lineFindings
      rw [takeWhile_isBodyLine_append flush]
    rw [List.cons_append, readLines_cons, readLines_cons, hline, ih, List.append_assoc,
      List.length_cons, Nat.add_assoc, Nat.add_comm 1]

end Parts

/-- **Extraction is compositional.** Let a text be empty or end in a line feed, and let another one
be empty or begin with a character that is no blank. Then both together yield what the first one
yields, followed by what the second one yields on lines that are higher by the number of lines of
the first. No body of the first part is changed by what follows it, and none of the second by what
precedes it. -/
theorem extract_append (excluded : Text → Bool) (file : Text) {first second : Text}
    (ended : first = [] ∨ first.getLast? = some '\n')
    (flush : ∀ c ∈ second.head?, isSpace c = false) :
    extract excluded file (first ++ second) =
      (extract excluded file first).append
        ((extract excluded file second).renumber (· + first.lines.length)) := by
  -- the first line of the second part begins as that part does
  have hflush : ∀ line ∈ second.lines.head?, isBodyLine line = false := by
    intro line hline
    obtain ⟨c, hc, hhead⟩ := Text.head?_of_mem_head?_lines hline
    rw [isBodyLine, hhead]
    exact flush c hc
  have hfindings : findings excluded file (first ++ second) =
      findings excluded file first ++
        (findings excluded file second).map (Finding.renumber (· + first.lines.length)) := by
    rw [findings, Text.lines_append ended, readLines_append hflush, readLines_add]
    rfl
  rw [extract_eq_ofFindings, hfindings, Extraction.ofFindings_append, Finding.renumber,
    Extraction.ofFindings_map]
  rfl

/-- A declaration whose body has one line. -/
def upperPart : Text := "\x7blang='x' name='a' template='t' ver='1'\x7d\n #\n".toList

/-- Another declaration. -/
def lowerPart : Text := "\x7blang='x' name='b' template='t' ver='2'\x7d\n y\n".toList

/-- With the line of its body excluded, the first declaration is reported as empty, and the body of
the second one is not taken for its own. -/
theorem extract_append_below_empty :
    (upperPart = [] ∨ upperPart.getLast? = some '\n') ∧
      (∀ c ∈ lowerPart.head?, isSpace c = false) ∧
      extract (fun line => line.contains '#') ['d'] (upperPart ++ lowerPart) =
        ⟨[⟨[['y', '\n']], ['b'], ['t'], 2, 3, ['d']⟩],
          [⟨.emptyBlock, some ['d'], some 1, none⟩]⟩ := by
  have hended : upperPart = [] ∨ upperPart.getLast? = some '\n' := Or.inr (by decide)
  have hflush : ∀ c ∈ lowerPart.head?, isSpace c = false := by
    rintro _ ⟨⟩
    rfl
  have hupper : extract (fun line => line.contains '#') ['d'] upperPart =
      ⟨[], [⟨.emptyBlock, some ['d'], some 1, none⟩]⟩ := by decide +kernel
  have hlower : extract (fun line => line.contains '#') ['d'] lowerPart =
      ⟨[⟨[['y', '\n']], ['b'], ['t'], 2, 1, ['d']⟩], []⟩ := by decide +kernel
  refine ⟨hended, hflush, ?_⟩
  rw [extract_append _ _ hended hflush, hupper, hlower]
  decide +kernel

end Tangle
