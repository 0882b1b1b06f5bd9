import Tangle.Proofs.Documents
import Tangle.Proofs.Extraction.Fragments

/-!
# Accepted fragments

Documents are read in order, and a document may be given more than once. Of all fragments with one
key the one that stands first is accepted: in the earliest document, and there at the topmost line.
So what is accepted is ordered by document and line, and each accepted fragment is what its
declaration and the lines below it make it.
-/

namespace Tangle.Documents

variable {filter : LineFilter} {tree : FileTree} {here : Location} {path : Text}
  {paths : List Text} {f g : Fragment}

/-! ## The fragments at a path -/

theorem mem_fragmentsAt_iff :
    f ∈ fragmentsAt filter tree here path ↔
      ∃ content, tree.readText here path = .ok content ∧ f.DeclaredIn path content ∧
        keptBelow filter.excludes content f.line ≠ [] ∧
        f.lines = dedent (keptBelow filter.excludes content f.line) := by
  unfold fragmentsAt
  cases tree.readText here path with
  | error cause => simp
  | ok content => simp [mem_fragments_extract_iff]

theorem file_of_mem_fragmentsAt (h : f ∈ fragmentsAt filter tree here path) : f.file = path := by
  obtain ⟨content, -, hdeclared, -⟩ := mem_fragmentsAt_iff.mp h
  exact hdeclared.file

theorem pairwise_line_fragmentsAt :
    (fragmentsAt filter tree here path).Pairwise fun f g => f.line < g.line := by
  unfold fragmentsAt
  cases tree.readText here path with
  | error cause => exact .nil
  | ok content => exact pairwise_line_fragments

/-- Each fragment is one of the document that it names. -/
theorem mem_allFragments_iff :
    f ∈ allFragments filter tree here paths ↔
      f.file ∈ paths ∧ f ∈ fragmentsAt filter tree here f.file := by
  unfold allFragments
  rw [List.mem_flatMap]
  constructor
  · rintro ⟨path, hpath, hf⟩
    obtain rfl := file_of_mem_fragmentsAt hf
    exact ⟨hpath, hf⟩
  · rintro ⟨hpath, hf⟩
    exact ⟨f.file, hpath, hf⟩

/-- No two fragments have the same place. -/
theorem eq_of_same_place (hf : f ∈ allFragments filter tree here paths)
    (hg : g ∈ allFragments filter tree here paths) (hfile : f.file = g.file)
    (hline : f.line = g.line) : f = g := by
  obtain ⟨-, hf⟩ := mem_allFragments_iff.mp hf
  obtain ⟨-, hg⟩ := mem_allFragments_iff.mp hg
  rw [← hfile] at hg
  have hlines : ((fragmentsAt filter tree here f.file).map Fragment.line).Nodup := by
    apply List.Pairwise.map Fragment.line (R := fun f g => f.line < g.line)
    · intro f g hlt
      exact Nat.ne_of_lt hlt
    · exact pairwise_line_fragmentsAt
  exact List.inj_on_of_nodup_map hlines hf hg hline

/-! ## The order of fragments -/

/-- A fragment stands before another one: in a document that is given earlier, or above it in the
same one. -/
def StandsBefore (paths : List Text) (f g : Fragment) : Prop :=
  paths.idxOf f.file < paths.idxOf g.file ∨ f.file = g.file ∧ f.line < g.line

theorem StandsBefore.asymm (h : StandsBefore paths f g) : ¬ StandsBefore paths g f := by
  rintro (hother | ⟨hfile, hother⟩)
  · rcases h with h | ⟨hfile, -⟩
    · exact Nat.lt_asymm h hother
    · rw [hfile] at hother
      exact Nat.lt_irrefl _ hother
  · rcases h with h | ⟨-, h⟩
    · rw [hfile] at h
      exact Nat.lt_irrefl _ h
    · exact Nat.lt_asymm h hother

/-- Fragments of given documents stand in order, unless they have the same place. -/
theorem standsBefore_or (hf : f.file ∈ paths) :
    StandsBefore paths f g ∨ StandsBefore paths g f ∨ f.file = g.file ∧ f.line = g.line := by
  rcases Nat.lt_trichotomy (paths.idxOf f.file) (paths.idxOf g.file) with h | h | h
  · exact Or.inl (Or.inl h)
  · have hfile : f.file = g.file := (List.idxOf_inj hf).mp h
    rcases Nat.lt_trichotomy f.line g.line with h | h | h
    · exact Or.inl (Or.inr ⟨hfile, h⟩)
    · exact Or.inr (Or.inr ⟨hfile, h⟩)
    · exact Or.inr (Or.inl (Or.inr ⟨hfile.symm, h⟩))
  · exact Or.inr (Or.inl (Or.inl h))

/-- In a list that is in order, what comes earlier is smaller. -/
theorem line_lt_of_idxOf_lt {fragments : List Fragment}
    (h : fragments.Pairwise fun f g => f.line < g.line) (hg : g ∈ fragments)
    (hlt : fragments.idxOf f < fragments.idxOf g) : f.line < g.line := by
  have hbound := List.idxOf_lt_length_of_mem hg
  have hrel := List.pairwise_iff_getElem.mp h _ _ (Nat.lt_trans hlt hbound) hbound hlt
  rwa [List.getElem_idxOf, List.getElem_idxOf] at hrel

/-- Reading goes through fragments in the order in which they stand. A document that is given again
has only fragments that have been read. -/
theorem standsBefore_of_idxOf_lt (hf : f ∈ allFragments filter tree here paths)
    (hg : g ∈ allFragments filter tree here paths)
    (hlt : (allFragments filter tree here paths).idxOf f <
      (allFragments filter tree here paths).idxOf g) : StandsBefore paths f g := by
  have hown {f : Fragment} (h : f ∈ allFragments filter tree here paths) :
      f ∈ fragmentsAt filter tree here f.file :=
    (mem_allFragments_iff.mp h).2
  have hfown := hown hf
  have hgown := hown hg
  -- the induction is on the documents, and needs of both fragments only that they are their own
  clear hf hg hown
  unfold allFragments at hlt
  induction paths with
  | nil => cases hlt
  | cons path rest ih =>
    rw [List.flatMap_cons] at hlt
    -- whether a fragment is one of the first document is seen from the file that it names
    have hfirst {f : Fragment} (h : f ∈ fragmentsAt filter tree here f.file) :
        f ∈ fragmentsAt filter tree here path ↔ f.file = path :=
      ⟨file_of_mem_fragmentsAt, fun hfile => hfile ▸ h⟩
    by_cases hfpath : f.file = path
    · by_cases hgpath : g.file = path
      · have hgmem := (hfirst hgown).mpr hgpath
        rw [List.idxOf_append_of_mem ((hfirst hfown).mpr hfpath),
          List.idxOf_append_of_mem hgmem] at hlt
        exact Or.inr ⟨hfpath.trans hgpath.symm,
          line_lt_of_idxOf_lt pairwise_line_fragmentsAt hgmem hlt⟩
      · -- only the first one is in the first document
        left
        rw [hfpath, List.idxOf_cons_self, List.idxOf_cons_ne _ (Ne.symm hgpath)]
        exact Nat.succ_pos _
    · have hfmem := mt (hfirst hfown).mp hfpath
      rw [List.idxOf_append_of_notMem hfmem] at hlt
      by_cases hgpath : g.file = path
      · -- a fragment of the first document would come earlier
        have hgmem := (hfirst hgown).mpr hgpath
        rw [List.idxOf_append_of_mem hgmem] at hlt
        have hbound := List.idxOf_lt_length_of_mem hgmem
        omega
      · -- neither is, and the first document is passed over
        rw [List.idxOf_append_of_notMem (mt (hfirst hgown).mp hgpath)] at hlt
        rcases ih (by omega) with h | h
        · left
          rw [List.idxOf_cons_ne _ (Ne.symm hfpath), List.idxOf_cons_ne _ (Ne.symm hgpath)]
          exact Nat.succ_lt_succ h
        · exact Or.inr h

/-! ## Which fragments are accepted -/

theorem fragments_gather : (gather filter tree here paths).fragments =
    History.firstBy Fragment.key (allFragments filter tree here paths) :=
  fragments_prune _

theorem mem_allFragments_of_mem (h : f ∈ (gather filter tree here paths).fragments) :
    f ∈ allFragments filter tree here paths := by
  rw [fragments_gather] at h
  exact History.mem_of_mem_firstBy h

/-- Of each key one fragment is accepted. -/
theorem exists_accepted (h : f ∈ allFragments filter tree here paths) :
    ∃ g ∈ (gather filter tree here paths).fragments, g.key = f.key := by
  rw [fragments_gather]
  exact History.exists_mem_firstBy h

/-- Accepted fragments are in order. -/
theorem pairwise_standsBefore :
    (gather filter tree here paths).fragments.Pairwise (StandsBefore paths) := by
  have hall {f : Fragment} (h : f ∈ (gather filter tree here paths).fragments) :=
    mem_allFragments_of_mem h
  rw [fragments_gather] at hall ⊢
  apply History.pairwise_firstBy.imp_of_mem
  intro f g hf hg hlt
  exact standsBefore_of_idxOf_lt (hall hf) (hall hg) hlt

theorem not_standsBefore_of_mem (hf : f ∈ (gather filter tree here paths).fragments)
    (hg : g ∈ allFragments filter tree here paths) (hkey : g.key = f.key) :
    ¬ StandsBefore paths g f := by
  have hfall := mem_allFragments_of_mem hf
  rw [fragments_gather] at hf
  intro hbefore
  rcases Nat.lt_or_eq_of_le (History.idxOf_le_of_mem_firstBy hf hkey) with hlt | heq
  · exact hbefore.asymm (standsBefore_of_idxOf_lt hfall hg hlt)
  · obtain rfl : f = g := (List.idxOf_inj hfall).mp heq
    exact hbefore.asymm hbefore

/-- **The first fragment of each key is accepted**, and no other one. -/
theorem mem_fragments_gather_iff :
    f ∈ (gather filter tree here paths).fragments ↔
      f ∈ allFragments filter tree here paths ∧
        ∀ g ∈ allFragments filter tree here paths, g.key = f.key → ¬ StandsBefore paths g f := by
  constructor
  · intro hf
    refine ⟨mem_allFragments_of_mem hf, ?_⟩
    intro g hg hkey
    exact not_standsBefore_of_mem hf hg hkey
  · rintro ⟨hf, hfirst⟩
    -- the accepted fragment with the same key can only be this one
    obtain ⟨a, ha, hkey⟩ := exists_accepted hf
    have haall := mem_allFragments_of_mem ha
    rcases standsBefore_or (g := f) (mem_allFragments_iff.mp haall).1 with h | h | ⟨hfile, hline⟩
    · exact absurd h (hfirst a haall hkey)
    · exact absurd h (not_standsBefore_of_mem ha hf hkey.symm)
    · obtain rfl := eq_of_same_place haall hf hfile hline
      exact ha

/-! ## The diagnostics of a run -/

/-- What is reported is a problem of one document, a duplicate, or that there is no fragment. -/
theorem cases_of_mem_diagnostics_gather {d : Diagnostic}
    (h : d ∈ (gather filter tree here paths).diagnostics) :
    (d.problem ≠ .noBlocks ∧ d.version = none) ∨
      d = { problem := .noBlocks } ∧ (gather filter tree here paths).fragments = [] := by
  rcases List.mem_append.mp h with h | h
  · left
    rcases List.mem_append.mp h with h | h
    · obtain ⟨path, -, hd⟩ := List.mem_flatMap.mp h
      unfold diagnosticsAt at hd
      cases htext : tree.readText here path with
      | error cause =>
        rw [htext] at hd
        cases hd
      | ok content =>
        rw [htext] at hd
        exact of_mem_diagnostics_extract hd
    · obtain ⟨existing, skipped, rfl⟩ := exists_duplication_of_mem h
      simp [duplication]
  · right
    unfold emptiness at h
    split at h
    · rename_i hempty
      exact ⟨List.mem_singleton.mp h, List.isEmpty_iff.mp hempty⟩
    · cases h

theorem version_of_mem_diagnostics_gather {d : Diagnostic}
    (h : d ∈ (gather filter tree here paths).diagnostics) : d.version = none := by
  rcases cases_of_mem_diagnostics_gather h with ⟨-, hversion⟩ | ⟨rfl, -⟩
  · exact hversion
  · rfl

/-- The absence of fragments is reported when there are none, and only then. -/
theorem exists_noBlocks_iff :
    (∃ d ∈ (gather filter tree here paths).diagnostics, d.problem = .noBlocks) ↔
      (gather filter tree here paths).fragments = [] := by
  constructor
  · rintro ⟨d, hd, hproblem⟩
    rcases cases_of_mem_diagnostics_gather hd with ⟨hother, -⟩ | ⟨-, hempty⟩
    · exact absurd hproblem hother
    · exact hempty
  · intro hempty
    refine ⟨{ problem := .noBlocks }, List.mem_append_right _ ?_, rfl⟩
    have hnone : (prune (allFragments filter tree here paths)).fragments = [] := hempty
    simp [emptiness, hnone]

/-! ## The invariant of a run -/

/-- What holds of the result of reading the documents at some paths. -/
structure Invariant (paths : List Text) (e : Extraction) : Prop where
  keys : (e.fragments.map Fragment.key).Nodup
  ordered : e.fragments.Pairwise (StandsBefore paths)
  files : ∀ f ∈ e.fragments, f.file ∈ paths
  wellFormed : ∀ f ∈ e.fragments, f.WellFormed
  absence : (∃ d ∈ e.diagnostics, d.problem = .noBlocks) ↔ e.fragments = []

theorem wellFormed_of_mem_fragmentsAt (h : f ∈ fragmentsAt filter tree here path) :
    f.WellFormed := by
  obtain ⟨content, -, hmem⟩ := mem_fragmentsAt_iff.mp h
  exact wellFormed_of_mem_fragments (mem_fragments_extract_iff.mpr hmem)

theorem invariant_gather : Invariant paths (gather filter tree here paths) where
  keys := by
    rw [fragments_gather]
    exact History.nodup_map_firstBy
  ordered := pairwise_standsBefore
  files := by
    intro f hf
    exact (mem_allFragments_iff.mp (mem_allFragments_of_mem hf)).1
  wellFormed := by
    intro f hf
    exact wellFormed_of_mem_fragmentsAt (mem_allFragments_iff.mp (mem_allFragments_of_mem hf)).2
  absence := exists_noBlocks_iff

/-- **What reading documents yields is well formed.** The accepted fragments have different keys and
stand in the order of the documents and of the lines in them, each of them has a name, a template
and lines without a common indentation, and an absence is reported exactly when there are none. -/
theorem invariant_of_extract {documents : List Text} {world after : World}
    {extraction : Extraction} (h : extract filter documents world = (.ok extraction, after)) :
    ∃ paths, documents.map (foundAt? world.files world.here) = paths.map some ∧
      Invariant paths extraction := by
  obtain ⟨paths, hfound, -, rfl, -⟩ := of_extract_eq_ok h
  exact ⟨paths, hfound, invariant_gather⟩

/-- A document with two fragments. The first one has a blank line above its others, and the last
line of the second one is not ended. -/
def spacedText : Text :=
  ("\x7blang='x' name='n' template='p' ver='1'\x7d\n\n    x\n  y\n" ++
    "\x7blang='x' name='m' template='p' ver='2'\x7d\n  z").toList

/-- The document under the name `b.md`. -/
def spacedWorld : World where
  files := ⟨[([['b', '.', 'm', 'd']], .file (.text spacedText))]⟩
  here := []

/-- What is read when the document is given twice: each of its fragments once, and a report on the
second reading of each. -/
def spacedExtraction : Extraction :=
  let fragments : List Fragment :=
    [⟨[['\n'], [' ', ' ', 'x', '\n'], ['y', '\n']], ['n'], ['p'], 1, 1, ['b', '.', 'm', 'd']⟩,
      ⟨[['z']], ['m'], ['p'], 2, 5, ['b', '.', 'm', 'd']⟩]
  { fragments
    diagnostics := fragments.map fun f =>
      ⟨.duplicateBlock f f, some f.file, some f.line, none⟩ }

theorem invariant_of_document_given_twice :
    (∃ after, extract .none [['b'], ['b', '.', 'm', 'd']] spacedWorld =
      (.ok spacedExtraction, after)) ∧
    ∃ paths, [['b'], ['b', '.', 'm', 'd']].map (foundAt? spacedWorld.files spacedWorld.here) =
        paths.map some ∧ Invariant paths spacedExtraction := by
  have hresult : (extract .none [['b'], ['b', '.', 'm', 'd']] spacedWorld).1 =
      .ok spacedExtraction := by
    decide +kernel
  have hextract : extract .none [['b'], ['b', '.', 'm', 'd']] spacedWorld =
      (.ok spacedExtraction, (extract .none [['b'], ['b', '.', 'm', 'd']] spacedWorld).2) :=
    Prod.ext hresult rfl
  exact ⟨⟨_, hextract⟩, invariant_of_extract hextract⟩

end Tangle.Documents
