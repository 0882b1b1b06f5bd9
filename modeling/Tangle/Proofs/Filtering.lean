import Tangle.Proofs.Acceptance

/-!
# Filtering and acceptance

A filter acts on bodies before duplicates are looked for, so it can change which one of several
declarations of a key is accepted. It cannot bring in a key, though, and a declaration that is
accepted without the filter keeps its place as long as a line of its body is left. Where none is
left, only a later declaration can take its place.
-/

namespace Tangle

theorem keptBelow_none (content : Text) (number : Nat) :
    keptBelow LineFilter.none.excludes content number = bodyBelow content number :=
  List.filter_eq_self.mpr fun _ _ => rfl

theorem keptBelow_ne_nil_iff {excluded : Text → Bool} {content : Text} {number : Nat} :
    keptBelow excluded content number ≠ [] ↔
      ∃ line ∈ bodyBelow content number, excluded line = false := by
  simp [keptBelow]

/-- The place and the key of a fragment do not depend on its lines. -/
theorem Fragment.DeclaredIn.withLines {f : Fragment} {file content : Text}
    (h : f.DeclaredIn file content) (lines : List Text) :
    Fragment.DeclaredIn { f with lines } file content :=
  ⟨h.file, h.declared⟩

namespace Documents

variable {filter : LineFilter} {tree : FileTree} {here : Location} {paths : List Text}
  {f g : Fragment} {content : Text}

/-- What is accepted without a filter is a whole body without its common indentation. -/
theorem exists_body (hg : g ∈ allFragments .none tree here paths) :
    ∃ content, tree.readText here g.file = .ok content ∧ g.DeclaredIn g.file content ∧
      g.lines = dedent (bodyBelow content g.line) := by
  obtain ⟨-, hg⟩ := mem_allFragments_iff.mp hg
  obtain ⟨content, hcontent, hdeclared, -, hlines⟩ := mem_fragmentsAt_iff.mp hg
  rw [keptBelow_none] at hlines
  exact ⟨content, hcontent, hdeclared, hlines⟩

/-- A fragment that a filter leaves is also there without the filter, with the same key and at the
same place. -/
theorem exists_unfiltered (hf : f ∈ allFragments filter tree here paths) :
    ∃ lines, { f with lines } ∈ allFragments .none tree here paths := by
  obtain ⟨hfile, hf⟩ := mem_allFragments_iff.mp hf
  obtain ⟨content, hcontent, hdeclared, hkept, -⟩ := mem_fragmentsAt_iff.mp hf
  obtain ⟨line, hline, -⟩ := keptBelow_ne_nil_iff.mp hkept
  -- without the filter the whole body is kept, and it has at least the line that was left
  refine ⟨dedent (bodyBelow content f.line), mem_allFragments_iff.mpr ⟨hfile, ?_⟩⟩
  refine mem_fragmentsAt_iff.mpr ⟨content, hcontent, hdeclared.withLines _, ?_, ?_⟩
  · rw [keptBelow_none]
    exact List.ne_nil_of_mem hline
  · rw [keptBelow_none]

/-- A fragment stays there under a filter if a line of its body is kept. -/
theorem mem_allFragments_of_kept (hg : g ∈ allFragments .none tree here paths)
    (hcontent : tree.readText here g.file = .ok content)
    (hkept : keptBelow filter.excludes content g.line ≠ []) :
    { g with lines := dedent (keptBelow filter.excludes content g.line) } ∈
      allFragments filter tree here paths := by
  obtain ⟨other, hother, hdeclared, -⟩ := exists_body hg
  obtain rfl : other = content := Except.ok.inj (hother.symm.trans hcontent)
  apply mem_allFragments_iff.mpr
  refine ⟨(mem_allFragments_iff.mp hg).1, mem_fragmentsAt_iff.mpr ?_⟩
  exact ⟨other, hcontent, hdeclared.withLines _, hkept, rfl⟩

/-- A fragment is accepted under a filter only if a line of its body is kept. -/
theorem keptBelow_ne_nil_of_mem (hf : f ∈ allFragments filter tree here paths)
    (hcontent : tree.readText here f.file = .ok content) :
    keptBelow filter.excludes content f.line ≠ [] := by
  obtain ⟨-, hf⟩ := mem_allFragments_iff.mp hf
  obtain ⟨other, hother, -, hkept, -⟩ := mem_fragmentsAt_iff.mp hf
  obtain rfl : other = content := Except.ok.inj (hother.symm.trans hcontent)
  exact hkept

/-! ## The accepted fragments of both runs -/

/-- No fragment that a filter leaves stands before the one that is accepted without the filter. -/
theorem not_standsBefore_unfiltered (hg : g ∈ (gather .none tree here paths).fragments)
    (hf : f ∈ allFragments filter tree here paths) (hkey : f.key = g.key) :
    ¬ StandsBefore paths f g := by
  obtain ⟨lines, hlines⟩ := exists_unfiltered hf
  exact not_standsBefore_of_mem (g := { f with lines }) hg hlines hkey

/-- How what is accepted with a filter compares to what is accepted without one. -/
structure Comparison (filter : LineFilter) (tree : FileTree) (here : Location)
    (paths : List Text) (filtered plain : Extraction) : Prop where
  /-- The filter brings in no key. -/
  keys : ∀ f ∈ filtered.fragments, ∃ g ∈ plain.fragments, g.key = f.key
  /-- What is accepted without the filter is a whole body. It is accepted with the filter, in the
  same place and with the lines that are kept, if there are any, and otherwise a later declaration
  of its key or none. -/
  places : ∀ g ∈ plain.fragments, ∃ content, tree.readText here g.file = .ok content ∧
    g.lines = dedent (bodyBelow content g.line) ∧
    ((∃ line ∈ bodyBelow content g.line, filter.excludes line = false) →
      { g with lines := dedent ((bodyBelow content g.line).filter fun l => !filter.excludes l) } ∈
        filtered.fragments) ∧
    ((∀ line ∈ bodyBelow content g.line, filter.excludes line = true) →
      ∀ f ∈ filtered.fragments, f.key = g.key → StandsBefore paths g f)

theorem comparison_gather : Comparison filter tree here paths
    (gather filter tree here paths) (gather .none tree here paths) where
  keys := by
    intro f hf
    obtain ⟨lines, hlines⟩ := exists_unfiltered (mem_allFragments_of_mem hf)
    exact exists_accepted (f := { f with lines }) hlines
  places := by
    intro g hg
    have hgall := mem_allFragments_of_mem hg
    obtain ⟨content, hcontent, -, hlines⟩ := exists_body hgall
    refine ⟨content, hcontent, hlines, ?_, ?_⟩
    · intro hkept
      have hmem := mem_allFragments_of_kept hgall hcontent (keptBelow_ne_nil_iff.mpr hkept)
      refine mem_fragments_gather_iff.mpr ⟨hmem, ?_⟩
      -- what would stand before it would stand before the accepted one without the filter
      intro f hf hkey
      exact not_standsBefore_unfiltered (g := g) hg hf hkey
    · intro hall f hf hkey
      have hfall := mem_allFragments_of_mem hf
      rcases standsBefore_or (g := f) (mem_allFragments_iff.mp hgall).1 with h | h | ⟨hfile, hline⟩
      · exact h
      · exact absurd h (not_standsBefore_unfiltered hg hfall hkey)
      · -- the place itself has no fragment under the filter
        rw [hfile] at hcontent
        obtain ⟨line, hmem, hleft⟩ :=
          keptBelow_ne_nil_iff.mp (keptBelow_ne_nil_of_mem hfall hcontent)
        rw [← hline] at hmem
        rw [hall line hmem] at hleft
        cases hleft

/-! ## Both runs -/

/-- **A filter takes away from what is accepted, and moves it down.** Readable documents are read
with a filter as without one. Every key that is accepted with the filter is accepted without it, and
what is accepted without it is accepted with it at the same place, as long as a line of it is
kept. -/
theorem filtered_against_plain {documents : List Text} {world : World}
    (readable : ∀ document ∈ documents, Readable world.files world.here document)
    (filter : LineFilter) :
    ∃ paths filtered plain afterFiltered afterPlain,
      documents.map (foundAt? world.files world.here) = paths.map some ∧
      extract filter documents world = (.ok filtered, afterFiltered) ∧
      extract .none documents world = (.ok plain, afterPlain) ∧
      Comparison filter world.files world.here paths filtered plain := by
  obtain ⟨paths, hfound, htexts⟩ := exists_paths_of_readable readable
  exact ⟨paths, _, _, _, _, hfound, extract_eq_ok hfound htexts, extract_eq_ok hfound htexts,
    comparison_gather⟩

/-- A document with two declarations of one key, of which the first has a marked line alone, and
with a fragment that has a marked line among its others. -/
def markedText : Text :=
  ("\x7blang='x' name='n' template='p' ver='1'\x7d\n  %a\n" ++
    "\x7blang='x' name='n' template='p' ver='1'\x7d\n  b\n" ++
    "\x7blang='x' name='m' template='p' ver='1'\x7d\n    c\n  %d\n").toList

/-- The document under the name `b.md`. -/
def markedWorld : World where
  files := ⟨[([['b', '.', 'm', 'd']], .file (.text markedText))]⟩
  here := []

/-- The filter that excludes the marked lines. -/
def markFilter : LineFilter := ⟨[.char (.single '%')]⟩

/-- The first key moves to its second declaration, and the other one stays where it is. -/
theorem filtered_against_plain_at_marked_lines :
    (∀ document ∈ [['b']], Readable markedWorld.files markedWorld.here document) ∧
    ∃ paths filtered plain afterFiltered afterPlain,
      [['b']].map (foundAt? markedWorld.files markedWorld.here) = paths.map some ∧
      extract markFilter [['b']] markedWorld = (.ok filtered, afterFiltered) ∧
      extract .none [['b']] markedWorld = (.ok plain, afterPlain) ∧
      Comparison markFilter markedWorld.files markedWorld.here paths filtered plain ∧
      filtered.fragments.map (fun f => (f.line, f.lines)) =
        [(3, [['b', '\n']]), (5, [['c', '\n']])] ∧
      plain.fragments.map (fun f => (f.line, f.lines)) =
        [(1, [['%', 'a', '\n']]), (5, [[' ', ' ', 'c', '\n'], ['%', 'd', '\n']])] := by
  have hreadable : ∀ document ∈ [['b']],
      Readable markedWorld.files markedWorld.here document := by
    intro document hdocument
    obtain rfl := List.mem_singleton.mp hdocument
    exact ⟨['b', '.', 'm', 'd'], by decide +kernel, markedText, by decide +kernel⟩
  obtain ⟨paths, filtered, plain, afterFiltered, afterPlain, hfound, hfiltered, hplain, hboth⟩ :=
    filtered_against_plain hreadable markFilter
  -- both results are evaluated
  have hfilteredLines : (extract markFilter [['b']] markedWorld).1.map
      (fun e => e.fragments.map fun f => (f.line, f.lines)) =
        .ok [(3, [['b', '\n']]), (5, [['c', '\n']])] := by
    decide +kernel
  have hplainLines : (extract .none [['b']] markedWorld).1.map
      (fun e => e.fragments.map fun f => (f.line, f.lines)) =
        .ok [(1, [['%', 'a', '\n']]), (5, [[' ', ' ', 'c', '\n'], ['%', 'd', '\n']])] := by
    decide +kernel
  rw [hfiltered] at hfilteredLines
  rw [hplain] at hplainLines
  exact ⟨hreadable, paths, filtered, plain, afterFiltered, afterPlain, hfound, hfiltered, hplain,
    hboth, Except.ok.inj hfilteredLines, Except.ok.inj hplainLines⟩

end Documents

end Tangle
