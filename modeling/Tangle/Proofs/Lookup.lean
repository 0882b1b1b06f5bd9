import Mathlib
import Tangle.Proofs.Listing
import Tangle.Proofs.Template

/-!
# Answers of lookups

What looking up an identifier answers, without globs, lists of entries and sorting. An identifier
that ends in the suffix names a file below the directory. Any other one has candidates: the files in
the directory that are named by the identifier, something in between, and the suffix, each of them
character for character. The first candidate is the answer, and the order in which the directory has
its entries plays no part.
-/

namespace Tangle.TemplateDirectory

variable {directory : TemplateDirectory} {identifier : Text}

/-! ## Candidates -/

/-- A name made of an identifier, something without a slash, and the suffix. -/
def IsNamed (directory : TemplateDirectory) (identifier name : Text) : Prop :=
  ∃ between, '/' ∉ between ∧ name = identifier ++ '.' :: between ++ '.' :: directory.suffix

/-- A file right below a location, with such a name. -/
def IsCandidate (directory : TemplateDirectory) (identifier : Text) (tree : FileTree)
    (base : Location) (name : Text) : Prop :=
  (∃ contents, tree.node? (base ++ [name]) = some (.file contents)) ∧
    directory.IsNamed identifier name

/-- What looking up an identifier answers. -/
inductive Answer (directory : TemplateDirectory) (identifier : Text) (tree : FileTree)
    (here base : Location) : Lookup → Prop where
  /-- The identifier names a file. -/
  | exactFound (hexact : ('.' :: directory.suffix) <:+ identifier)
      (hfile : tree.isFile here (Path.join directory.root identifier) = true) :
      Answer directory identifier tree here base
        { path := some (Path.join directory.root identifier), diagnostics := [] }
  /-- The identifier is a name, but not that of a file. -/
  | exactMissing (hexact : ('.' :: directory.suffix) <:+ identifier)
      (hfile : tree.isFile here (Path.join directory.root identifier) = false) :
      Answer directory identifier tree here base
        { path := none
          diagnostics :=
            [{ problem := .missingTemplate identifier (Path.join directory.root identifier) }] }
  | noCandidate (hplain : ¬ ('.' :: directory.suffix) <:+ identifier)
      (hnone : ∀ name, ¬ directory.IsCandidate identifier tree base name) :
      Answer directory identifier tree here base
        { path := none
          diagnostics := [{ problem := .missingTemplate identifier directory.root }] }
  | oneCandidate {name : Text} (hplain : ¬ ('.' :: directory.suffix) <:+ identifier)
      (hone : ∀ other, directory.IsCandidate identifier tree base other ↔ other = name) :
      Answer directory identifier tree here base
        { path := some (Path.join directory.root name), diagnostics := [] }
  /-- Of several candidates, all of which are reported, the first in the order of names. -/
  | severalCandidates {first next : Text} {more : List Text}
      (hplain : ¬ ('.' :: directory.suffix) <:+ identifier)
      (hascending : (first :: next :: more).Pairwise (· < ·))
      (hall : ∀ name, directory.IsCandidate identifier tree base name ↔
        name ∈ first :: next :: more) :
      Answer directory identifier tree here base
        { path := some (Path.join directory.root first)
          diagnostics := [{ problem := .ambiguousTemplate identifier (first :: next :: more) }] }

/-! ## Names to choose from -/

/-- The glob for an identifier matches the names that are made of it. -/
theorem exists_glob (hidentifier : '\\' ∉ identifier) (hsuffix : '\\' ∉ directory.suffix) :
    ∃ glob, Glob.read? (directory.searchPattern identifier) = some glob ∧
      ∀ name, Glob.matchesText glob name = true ↔ directory.IsNamed identifier name := by
  have hstart : '\\' ∉ identifier ++ ['.'] := by simp [hidentifier]
  have hending : '\\' ∉ '.' :: directory.suffix := by simp [hsuffix]
  rw [searchPattern_eq]
  have hread := Glob.read?_escape hstart hending
  refine ⟨_, hread, ?_⟩
  intro name
  rw [Glob.matchesText_escape_iff hstart hending hread]
  -- the dot behind the identifier stands before the star
  simp [IsNamed]

section Names

variable {tree : FileTree} {here base : Location}

theorem namesIn_of_exact (hexact : ('.' :: directory.suffix) <:+ identifier) :
    directory.namesIn identifier tree here = .ok [identifier] :=
  if_pos (Text.endsWith_iff.mpr hexact)

/-- The names to choose from are the candidates in ascending order. -/
theorem exists_candidates (hproper : tree.Proper)
    (hroot : tree.locate here directory.root = .ok base)
    (hbase : tree.node? base = some .directory) (hidentifier : '\\' ∉ identifier)
    (hsuffix : '\\' ∉ directory.suffix) (hplain : ¬ ('.' :: directory.suffix) <:+ identifier) :
    ∃ names, directory.namesIn identifier tree here = .ok names ∧ names.Pairwise (· < ·) ∧
      ∀ name, directory.IsCandidate identifier tree base name ↔ name ∈ names := by
  obtain ⟨glob, hglob, hmatches⟩ := exists_glob hidentifier hsuffix
  have hnames : directory.namesIn identifier tree here =
      .ok (((tree.childNames base).filter (Glob.matchesText glob)).mergeSort Text.precedes) := by
    rw [namesIn, if_neg (Text.endsWith_iff.not.mpr hplain), hglob,
      FileTree.fileNames_of_directory hroot hbase]
  refine ⟨_, hnames, ?_, ?_⟩
  · apply Text.ascending_mergeSort
    exact hproper.nodup_childNames.filter _
  · intro name
    rw [List.mem_mergeSort, List.mem_filter, hproper.mem_childNames_iff, hmatches]
    exact Iff.rfl

/-- A candidate is found under its name. -/
theorem IsCandidate.isFile {name : Text} (h : directory.IsCandidate identifier tree base name)
    (hproper : tree.Proper) (hroot : tree.locate here directory.root = .ok base)
    (hbase : tree.node? base = some .directory) :
    tree.isFile here (Path.join directory.root name) = true := by
  obtain ⟨⟨contents, hnode⟩, -⟩ := h
  -- the directory has an entry for it, so that its name is one that paths can lead to
  have hmem := (hproper.node?_eq_some_iff (List.concat_ne_nil name base)).mp hnode
  have hstorable := hproper.storable _ hmem name (by simp)
  have hlocate := FileTree.locate_join hroot hbase hstorable.isName hstorable.zero
  rw [if_neg (Nat.not_lt.mpr hstorable.size)] at hlocate
  apply FileTree.isFile_eq_true_iff.mpr
  exact ⟨contents, FileTree.find_eq_ok_iff.mpr ⟨_, hlocate, hnode⟩⟩

end Names

/-! ## Answers -/

section Answers

variable {tree : FileTree} {here base : Location}

/-- The first of some names is chosen if it is that of a file. -/
theorem choose_cons_of_isFile {isFile : Text → Bool} {first : Text} {more : List Text}
    (hfile : isFile (Path.join directory.root first) = true) :
    directory.choose identifier (first :: more) isFile =
      { path := some (Path.join directory.root first)
        diagnostics := ambiguity identifier (first :: more) } :=
  if_pos hfile

theorem answer_of_exact (hexact : ('.' :: directory.suffix) <:+ identifier) :
    directory.Answer identifier tree here base
      (directory.choose identifier [identifier] (tree.isFile here)) := by
  cases hfile : tree.isFile here (Path.join directory.root identifier) with
  | true =>
    rw [choose_cons_of_isFile hfile]
    exact .exactFound hexact hfile
  | false =>
    have hmissing : directory.choose identifier [identifier] (tree.isFile here) =
        { path := none
          diagnostics := [{ problem :=
            .missingTemplate identifier (Path.join directory.root identifier) }] } :=
      if_neg (by simpa [firstPath?] using hfile)
    rw [hmissing]
    exact .exactMissing hexact hfile

theorem answer_of_candidates {names : List Text}
    (hplain : ¬ ('.' :: directory.suffix) <:+ identifier) (hascending : names.Pairwise (· < ·))
    (hall : ∀ name, directory.IsCandidate identifier tree base name ↔ name ∈ names)
    (hfile : ∀ name ∈ names, tree.isFile here (Path.join directory.root name) = true) :
    directory.Answer identifier tree here base
      (directory.choose identifier names (tree.isFile here)) := by
  -- the number of candidates decides what is answered
  match names with
  | [] =>
    apply Answer.noCandidate hplain
    intro name hname
    exact List.not_mem_nil ((hall name).mp hname)
  | [name] =>
    rw [choose_cons_of_isFile (hfile name List.mem_cons_self)]
    apply Answer.oneCandidate hplain
    intro other
    rw [hall, List.mem_singleton]
  | first :: next :: more =>
    rw [choose_cons_of_isFile (hfile first List.mem_cons_self)]
    exact .severalCandidates hplain hascending hall

end Answers

/-- **Looking up an identifier answers by the names of the files alone**, in a directory that is
there, if no backslash takes the meaning of a glob away. It answers, and adds what it reports to the
log; and it does so in whatever order the files are kept. -/
theorem resolve_answers {world : World} {base : Location} (hproper : world.files.Proper)
    (hroot : world.files.locate world.here directory.root = .ok base)
    (hbase : world.files.node? base = some .directory) (hidentifier : '\\' ∉ identifier)
    (hsuffix : '\\' ∉ directory.suffix) :
    ∃ lookup, directory.Answer identifier world.files world.here base lookup ∧
      ∀ other : FileTree, other.nodes.Perm world.files.nodes →
        directory.resolve identifier { world with files := other } =
          (.ok lookup, { world with
            files := other, log := world.log ++ lookup.diagnostics.map .raised }) := by
  have hisFile {other : FileTree} (perm : other.nodes.Perm world.files.nodes) :
      other.isFile world.here = world.files.isFile world.here := by
    funext path
    exact hproper.isFile_of_perm perm world.here path
  by_cases hexact : ('.' :: directory.suffix) <:+ identifier
  · refine ⟨_, answer_of_exact hexact, ?_⟩
    intro other perm
    rw [resolve_apply, namesIn_of_exact hexact, hisFile perm]
  · obtain ⟨names, -, hascending, hall⟩ :=
      exists_candidates hproper hroot hbase hidentifier hsuffix hexact
    have hfile : ∀ name ∈ names,
        world.files.isFile world.here (Path.join directory.root name) = true := by
      intro name hname
      exact ((hall name).mpr hname).isFile hproper hroot hbase
    refine ⟨_, answer_of_candidates hexact hascending hall hfile, ?_⟩
    intro other perm
    -- the other tree has the same candidates, and there is one ascending list of them
    obtain ⟨names', hnames', hascending', hall'⟩ :=
      exists_candidates (hproper.of_perm perm)
        ((hproper.locate_of_perm perm world.here directory.root).trans hroot)
        ((hproper.node?_of_perm perm _).trans hbase) hidentifier hsuffix hexact
    have heq : names' = names := by
      apply hascending'.eq_of_mem_iff hascending
      intro name
      rw [← hall, ← hall', IsCandidate, IsCandidate, hproper.node?_of_perm perm]
    rw [resolve_apply, hnames', heq, hisFile perm]

/-- A directory in which a star is part of two names. -/
def starredDirectory : TemplateDirectory := ⟨['d'], ['j']⟩

/-- Its files, the one with the first name listed last. -/
def starredWorld : World where
  here := []
  files :=
    ⟨[([['d']], .directory), ([['d'], ['a', 'b', '.', 'c', '.', 'j']], .file (.text [])),
      ([['d'], ['a', '*', '.', 'r', 'b', '.', 'j']], .file (.text [])),
      ([['d'], ['a', '*', '.', 'c', '.', 'j']], .file (.text []))]⟩
  log := []

/-- The star stands for itself, and the first name is chosen. -/
def starredLookup : Lookup where
  path := some ['d', '/', 'a', '*', '.', 'c', '.', 'j']
  diagnostics :=
    [{ problem := .ambiguousTemplate ['a', '*']
        [['a', '*', '.', 'c', '.', 'j'], ['a', '*', '.', 'r', 'b', '.', 'j']] }]

theorem resolve_answers_to_star :
    starredWorld.files.Proper ∧
    starredWorld.files.locate [] starredDirectory.root = .ok [['d']] ∧
    starredWorld.files.node? [['d']] = some .directory ∧
    '\\' ∉ ['a', '*'] ∧ '\\' ∉ starredDirectory.suffix ∧
    starredDirectory.Answer ['a', '*'] starredWorld.files [] [['d']] starredLookup ∧
    (starredDirectory.resolve ['a', '*'] starredWorld).1 = .ok starredLookup ∧
    (starredDirectory.resolve ['a', '*']
      { starredWorld with files := ⟨starredWorld.files.nodes.reverse⟩ }).1 =
        .ok starredLookup := by
  have hproper : starredWorld.files.Proper := ⟨by decide, by decide⟩
  have hroot : starredWorld.files.locate [] starredDirectory.root = .ok [['d']] := by decide
  have hbase : starredWorld.files.node? [['d']] = some .directory := by decide
  have hidentifier : '\\' ∉ ['a', '*'] := by decide
  have hsuffix : '\\' ∉ starredDirectory.suffix := by decide
  obtain ⟨lookup, hanswer, hresolve⟩ :=
    resolve_answers hproper hroot hbase hidentifier hsuffix
  have hrun : (starredDirectory.resolve ['a', '*'] starredWorld).1 = .ok starredLookup := by cbv
  have hsame : lookup = starredLookup := by
    rw [hresolve starredWorld.files List.Perm.rfl] at hrun
    exact Except.ok.inj hrun
  rw [hsame] at hanswer hresolve
  refine ⟨hproper, hroot, hbase, hidentifier, hsuffix, hanswer, hrun, ?_⟩
  rw [hresolve ⟨starredWorld.files.nodes.reverse⟩ (List.reverse_perm _)]

end Tangle.TemplateDirectory
