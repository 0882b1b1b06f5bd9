import Tangle.Proofs.Rendering.Deeds
import Tangle.Proofs.Rendering.Schedule
import Tangle.Proofs.Rendering.Versions

/-!
# Rendering later versions

Documents grow: behind the versions that were rendered once come new ones. The tour of a run goes
through the versions in order, and what it does at one of them depends on no later one. So the run
on the fragments up to some version is the first part of the run on all of them, step by step. What
is written afterwards bears a later version in its name and leaves the earlier outputs as they are.
-/

namespace Tangle

namespace Rendering

variable {fragments : List Fragment}

/-! ## The tour up to a version -/

/-- The visits of later versions come behind those of earlier ones. -/
theorem exists_tourFrom_add (fragments : List Fragment) (count more version : Nat)
    (scopes : Scopes) :
    ∃ reached, tourFrom fragments (count + more) version scopes =
      tourFrom fragments count version scopes ++
        tourFrom fragments more (version + count) reached := by
  induction count generalizing version scopes with
  | zero =>
    refine ⟨scopes, ?_⟩
    rw [Nat.zero_add]
    rfl
  | succ count ih =>
    obtain ⟨reached, hrest⟩ := ih (version + 1) (advance scopes
      (fragments.filter fun f => f.version = version) version)
    refine ⟨reached, ?_⟩
    rw [Nat.succ_add, tourFrom, tourFrom, hrest, List.append_assoc, Nat.add_assoc, Nat.add_comm 1]

/-- Visits only depend on the fragments of the versions that they are made at. -/
theorem tourFrom_congr {other : List Fragment} {count version : Nat}
    (h : ∀ v, version ≤ v → v < version + count →
      (other.filter fun f => f.version = v) = fragments.filter fun f => f.version = v)
    (scopes : Scopes) :
    tourFrom other count version scopes = tourFrom fragments count version scopes := by
  induction count generalizing version scopes with
  | zero => rfl
  | succ count ih =>
    rw [tourFrom, tourFrom, h version (Nat.le_refl _) (by omega),
      ih fun v hle hlt => h v (by omega) (by omega)]

theorem version_of_mem_tourFrom {count version : Nat} {scopes : Scopes} {visit : Visit}
    (h : visit ∈ tourFrom fragments count version scopes) :
    version ≤ visit.version ∧ visit.version < version + count := by
  induction count generalizing version scopes with
  | zero => cases h
  | succ count ih =>
    rcases List.mem_append.mp h with h | h
    · obtain ⟨entry, -, rfl⟩ := List.mem_map.mp h
      exact ⟨Nat.le_refl version, Nat.lt_add_of_pos_right (Nat.succ_pos count)⟩
    · obtain ⟨hle, hlt⟩ := ih h
      exact ⟨by omega, by omega⟩

/-- The fragments up to a version. -/
def upTo (version : Nat) (fragments : List Fragment) : List Fragment :=
  fragments.filter fun f => f.version ≤ version

theorem filter_version_upTo {version v : Nat} (h : v ≤ version) :
    ((upTo version fragments).filter fun f => f.version = v) =
      fragments.filter fun f => f.version = v := by
  rw [upTo, List.filter_filter]
  refine List.filter_congr fun f _ => ?_
  by_cases hv : f.version = v <;> simp [hv, h]

/-- The range of the fragments up to a version that one of them has. -/
theorem versionRange_upTo {version least greatest : Nat}
    (present : ∃ f ∈ fragments, f.version = version)
    (h : versionRange fragments = some (least, greatest)) :
    versionRange (upTo version fragments) = some (least, version) ∧
      least ≤ version ∧ version ≤ greatest := by
  obtain ⟨f, hf, rfl⟩ := present
  obtain ⟨⟨g, hg, rfl⟩, -, hbetween⟩ := of_versionRange_eq_some h
  have hmem {e : Fragment} : e ∈ upTo f.version fragments ↔
      e ∈ fragments ∧ e.version ≤ f.version := by
    rw [upTo, List.mem_filter, decide_eq_true_eq]
  have hown : f ∈ upTo f.version fragments := hmem.mpr ⟨hf, Nat.le_refl _⟩
  have hleast : g ∈ upTo f.version fragments := hmem.mpr ⟨hg, (hbetween f hf).1⟩
  obtain ⟨low, high, hrange⟩ := exists_versionRange (List.ne_nil_of_mem hown)
  obtain ⟨⟨a, ha, rfl⟩, ⟨b, hb, rfl⟩, hwithin⟩ := of_versionRange_eq_some hrange
  -- the lowest version is that of `g`, and the highest one that of `f`
  have hlow := Nat.le_antisymm (hwithin g hleast).1 (hbetween a (hmem.mp ha).1).1
  have hhigh := Nat.le_antisymm (hmem.mp hb).2 (hwithin f hown).2
  rw [hrange, hlow, hhigh]
  exact ⟨rfl, hbetween f hf⟩

/-- **The tour up to a version is the beginning of the whole tour.** -/
theorem tour_upTo {version : Nat} (present : ∃ f ∈ fragments, f.version = version) :
    tour (upTo version fragments) =
        (tour fragments).filter (fun visit => visit.version ≤ version) ∧
      tour fragments = tour (upTo version fragments) ++
        (tour fragments).filter fun visit => version < visit.version := by
  have ⟨f, hf, _⟩ := present
  obtain ⟨least, greatest, hrange⟩ := exists_versionRange (List.ne_nil_of_mem hf)
  obtain ⟨hearly, hle, hge⟩ := versionRange_upTo present hrange
  have htour : tour (upTo version fragments) =
      tourFrom fragments (version - least + 1) least [] := by
    rw [tour, hearly]
    exact tourFrom_congr (fun v _ hlt => filter_version_upTo (by omega)) []
  obtain ⟨reached, hsplit⟩ :=
    exists_tourFrom_add fragments (version - least + 1) (greatest - version) least []
  rw [show version - least + 1 + (greatest - version) = greatest - least + 1 by omega] at hsplit
  have hwhole : tour fragments = tour (upTo version fragments) ++
      tourFrom fragments (greatest - version) (least + (version - least + 1)) reached := by
    rw [htour, ← hsplit, tour, hrange]
  have hfirst : ∀ visit ∈ tour (upTo version fragments), visit.version ≤ version := by
    intro visit hvisit
    rw [htour] at hvisit
    have := (version_of_mem_tourFrom hvisit).2
    omega
  have hlast : ∀ visit ∈ tourFrom fragments (greatest - version) (least + (version - least + 1))
      reached, version < visit.version := by
    intro visit hvisit
    have := (version_of_mem_tourFrom hvisit).1
    omega
  -- each filter keeps one of the two parts
  rw [hwhole, List.filter_append, List.filter_append]
  rw [List.filter_eq_self.mpr fun visit hvisit => decide_eq_true (hfirst visit hvisit),
    List.filter_eq_self.mpr fun visit hvisit => decide_eq_true (hlast visit hvisit),
    List.filter_eq_nil_iff.mpr fun visit hvisit => by simpa using hlast visit hvisit,
    List.filter_eq_nil_iff.mpr fun visit hvisit => by simpa using hfirst visit hvisit]
  simp

/-! ## Outputs of other versions -/

section Outputs

variable {directory : TemplateDirectory} {renderer : Renderer} {tree : FileTree} {here : Location}

/-- Visits of different versions write files with different names. -/
theorem Visit.Writes.outputName_ne {visit other : Visit} {tree' : FileTree} {path path' : Text}
    {file file' : TemplateFile} {folder folder' : Location} {text text' : Text}
    (h : visit.Writes directory renderer tree here path file folder text)
    (h' : other.Writes directory renderer tree' here path' file' folder' text')
    (hne : visit.version ≠ other.version) :
    file.outputName visit.version ≠ file'.outputName other.version := by
  intro heq
  obtain ⟨-, -, hdot⟩ := TemplateFile.of_ofPath_eq_ok h.named
  obtain ⟨-, -, hdot'⟩ := TemplateFile.of_ofPath_eq_ok h'.named
  exact hne (TemplateFile.outputName_inj hdot hdot' heq).2.2

/-- What a tour tells of was written by one of its visits. -/
theorem exists_writes_of_mem_written {visits : List Visit} {entry : Rendered}
    (h : entry ∈ (deeds directory renderer visits tree here).flatMap Deed.written) :
    ∃ visit ∈ visits, ∃ between path file folder text,
      FileTree.SameDirectories tree between ∧
      visit.Writes directory renderer between here path file folder text ∧
      entry = ⟨visit.identifier, visit.version, file.outputPath visit.version⟩ := by
  obtain ⟨deed, hdeed, hentry⟩ := List.mem_flatMap.mp h
  obtain ⟨visit, hvisit, between, hdirs, rfl⟩ :=
    exists_visit_of_mem_deeds directory renderer hdeed
  obtain ⟨path, file, folder, text, hwrites, rfl⟩ := Visit.exists_writes_of_mem_written hentry
  exact ⟨visit, hvisit, between, path, file, folder, text, hdirs, hwrites, rfl⟩

theorem exists_writes_of_mem_edits {visits : List Visit} {edit : Location × Text}
    (h : edit ∈ (deeds directory renderer visits tree here).flatMap (·.edits)) :
    ∃ visit ∈ visits, ∃ between path file folder,
      FileTree.SameDirectories tree between ∧
      visit.Writes directory renderer between here path file folder edit.2 ∧
      edit.1 = folder ++ [file.outputName visit.version] := by
  obtain ⟨deed, hdeed, hedit⟩ := List.mem_flatMap.mp h
  obtain ⟨visit, hvisit, between, hdirs, rfl⟩ :=
    exists_visit_of_mem_deeds directory renderer hdeed
  obtain ⟨path, file, folder, hwrites, hplace⟩ := Visit.exists_writes_of_mem_edits hedit
  exact ⟨visit, hvisit, between, path, file, folder, hdirs, hwrites, hplace⟩

/-- What a longer tour does behind the deeds of its first part are the deeds of some of its further
visits, and of none if the first part has ended with a fault. -/
theorem exists_deeds_append (directory : TemplateDirectory) (renderer : Renderer)
    (visits more : List Visit) (tree : FileTree) (here : Location) :
    ∃ rest between,
      deeds directory renderer (visits ++ more) tree here =
        deeds directory renderer visits tree here ++ deeds directory renderer rest between here ∧
      (∀ visit ∈ rest, visit ∈ more) ∧
      ∀ fault, endingOf (deeds directory renderer visits tree here) = .error fault → rest = [] := by
  have happend := deeds_append directory renderer visits more tree here
  dsimp only at happend
  cases hending : endingOf (deeds directory renderer visits tree here) with
  | ok result =>
    rw [hending] at happend
    exact ⟨more, _, happend, fun _ h => h, fun _ h => nomatch h⟩
  | error fault =>
    rw [hending] at happend
    exact ⟨[], tree, happend, fun _ h => absurd h List.not_mem_nil, fun _ _ => rfl⟩

variable {visits more : List Visit} {later : FileTree}

/-- Tours of different versions tell of files with different names, whatever the trees that they
begin on. -/
theorem fileName?_ne_of_mem_written
    (hversions : ∀ visit ∈ visits, ∀ other ∈ more, visit.version ≠ other.version)
    {a b : Rendered} (ha : a ∈ (deeds directory renderer visits tree here).flatMap Deed.written)
    (hb : b ∈ (deeds directory renderer more later here).flatMap Deed.written) :
    Path.fileName? a.path ≠ Path.fileName? b.path := by
  obtain ⟨visit, hvisit, _, _, _, _, _, -, hwrites, rfl⟩ := exists_writes_of_mem_written ha
  obtain ⟨other, hother, _, _, _, _, _, -, hwrites', rfl⟩ := exists_writes_of_mem_written hb
  rw [TemplateFile.fileName?_outputPath hwrites.lies.isName.slash,
    TemplateFile.fileName?_outputPath hwrites'.lies.isName.slash]
  exact fun heq => hwrites.outputName_ne hwrites' (hversions visit hvisit other hother)
    (Option.some.inj heq)

/-- Tours of different versions make their edits at different locations. -/
theorem location_ne_of_mem_edits
    (hversions : ∀ visit ∈ visits, ∀ other ∈ more, visit.version ≠ other.version)
    {a b : Location × Text} (ha : a ∈ (deeds directory renderer visits tree here).flatMap (·.edits))
    (hb : b ∈ (deeds directory renderer more later here).flatMap (·.edits)) : a.1 ≠ b.1 := by
  obtain ⟨visit, hvisit, _, _, _, _, -, hwrites, hplace⟩ := exists_writes_of_mem_edits ha
  obtain ⟨other, hother, _, _, _, _, -, hwrites', hplace'⟩ := exists_writes_of_mem_edits hb
  rw [hplace, hplace']
  exact fun heq => hwrites.outputName_ne hwrites' (hversions visit hvisit other hother)
    (List.singleton_inj.mp (List.append_inj' heq rfl).2)

/-- What a tour tells of is read as before after further edits that are made elsewhere. -/
theorem readText_putAll_of_mem_written {edits : List (Location × Text)}
    (hfits : ∀ edit ∈ edits, ∃ folder name, edit.1 = folder ++ [name] ∧ tree.Fits folder name)
    (hother : ∀ own ∈ (deeds directory renderer visits tree here).flatMap (·.edits),
      ∀ edit ∈ edits, own.1 ≠ edit.1)
    {entry : Rendered}
    (hentry : entry ∈ (deeds directory renderer visits tree here).flatMap Deed.written) :
    let reached := tree.putAll ((deeds directory renderer visits tree here).flatMap (·.edits))
    (reached.putAll edits).readText here entry.path = reached.readText here entry.path := by
  intro reached
  obtain ⟨own, hown, hlocate⟩ := (edits_written directory renderer visits tree here).2 entry hentry
  have hreached : tree.SameDirectories reached :=
    .putAll fun _ => fits_of_mem_edits directory renderer
  have hlast : reached.SameDirectories (reached.putAll edits) := by
    refine .putAll fun edit hedit => ?_
    obtain ⟨folder, name, heq, hfit⟩ := hfits edit hedit
    exact ⟨folder, name, heq, hreached.fits hfit⟩
  -- the path leads to one location in all of these trees, where no further edit is made
  refine FileTree.readText_eq_of_node?_eq hlast (hreached.locate_eq_ok hlocate)
    (FileTree.node?_putAll_of_notMem (fun edit hedit => ?_)
      fun edit hedit => (hother own hown edit hedit).symm)
  obtain ⟨folder, name, heq, -⟩ := hfits edit hedit
  simp [heq]

end Outputs

/-! ## The two runs -/

/-- **Later versions leave earlier ones alone.** Let some fragment have a version. The run on the
fragments up to it makes the visits of the whole run at versions up to it, and the whole run is that
run followed by the visits of later versions: it does the same deeds, in the same order, ends with
the same fault if there is one, and only adds to what was done. No file that it writes afterwards
has the name of an earlier one, so that an earlier path is read as before, however the whole run
ends. -/
theorem undisturbed_by_later_versions {version : Nat}
    (present : ∃ f ∈ fragments, f.version = version) (directory : TemplateDirectory)
    (renderer : Renderer) (world : World) :
    let early := upTo version fragments
    let done := deeds directory renderer (tour early) world.files world.here
    let first := renderFragments early directory renderer world
    let whole := renderFragments fragments directory renderer world
    tour early = (tour fragments).filter (fun visit => visit.version ≤ version) ∧
    renderFragments fragments directory renderer = (do
      let first ← renderFragments early directory renderer
      let rest ← follow directory renderer
        ((tour fragments).filter fun visit => version < visit.version)
      pure { first.append rest with versions := versionRange fragments }) ∧
    first = ((endingOf done).map fun result => { result with versions := versionRange early },
      edited world (done.flatMap (·.edits)) (done.flatMap (·.events))) ∧
    ∃ late,
      deeds directory renderer (tour fragments) world.files world.here = done ++ late ∧
      whole.2 = edited first.2 (late.flatMap (·.edits)) (late.flatMap (·.events)) ∧
      (∀ fault, first.1 = .error fault → late = [] ∧ whole.1 = .error fault) ∧
      (∀ a ∈ done.flatMap Deed.written, ∀ b ∈ late.flatMap Deed.written,
        Path.fileName? a.path ≠ Path.fileName? b.path) ∧
      (∀ a ∈ done.flatMap (·.edits), ∀ b ∈ late.flatMap (·.edits), a.1 ≠ b.1) ∧
      ∀ entry ∈ done.flatMap Deed.written,
        whole.2.files.readText world.here entry.path =
          first.2.files.readText world.here entry.path := by
  intro early done first whole
  obtain ⟨htour, hsplit⟩ := tour_upTo present
  generalize hlater : (tour fragments).filter (fun visit => version < visit.version) = later
    at hsplit ⊢
  have hversions : ∀ visit ∈ tour early, ∀ other ∈ later, visit.version ≠ other.version := by
    intro visit hvisit other hother
    rw [show tour early = _ from htour, List.mem_filter, decide_eq_true_eq] at hvisit
    rw [← hlater, List.mem_filter, decide_eq_true_eq] at hother
    exact Nat.ne_of_lt (Nat.lt_of_le_of_lt hvisit.2 hother.2)
  have hprogram : renderFragments fragments directory renderer = (do
      let first ← renderFragments early directory renderer
      let rest ← follow directory renderer later
      pure { first.append rest with versions := versionRange fragments }) := by
    rw [renderFragments_eq_follow, renderFragments_eq_follow, hsplit, follow_append]
    simp only [bind_assoc, pure_bind]
    rfl
  have hfirst := renderFragments_apply directory renderer early world
  have hwhole := renderFragments_apply directory renderer fragments world
  obtain ⟨rest, between, hdeeds, hrest, hfault⟩ :=
    exists_deeds_append directory renderer (tour early) later world.files world.here
  rw [← hsplit] at hdeeds
  generalize hlate : deeds directory renderer rest between world.here = late at hdeeds
  -- what is done later is done on the tree that the first run leaves
  have hafter : whole.2 = edited first.2 (late.flatMap (·.edits)) (late.flatMap (·.events)) := by
    rw [show whole = _ from hwhole, show first = _ from hfirst, hdeeds, edited_edited,
      List.flatMap_append, List.flatMap_append]
  have hnames : ∀ visit ∈ tour early, ∀ other ∈ rest, visit.version ≠ other.version :=
    fun visit hvisit other hother => hversions visit hvisit other (hrest other hother)
  have hplaces : ∀ a ∈ done.flatMap (·.edits), ∀ b ∈ late.flatMap (·.edits), a.1 ≠ b.1 :=
    fun a ha b hb => location_ne_of_mem_edits hnames ha (hlate ▸ hb)
  refine ⟨htour, hprogram, hfirst, late, hdeeds, hafter, fun fault h => ?_,
    fun a ha b hb => fileName?_ne_of_mem_written hnames ha (hlate ▸ hb), hplaces,
    fun entry hentry => ?_⟩
  · -- the fault is that of the deeds, and nothing comes behind them
    have hending : endingOf done = .error fault :=
      (renderFragments_eq_error_iff directory renderer).mp h
    have hnone : late = [] := by
      rw [← hlate, hfault fault hending]
      rfl
    refine ⟨hnone, (renderFragments_eq_error_iff directory renderer).mpr ?_⟩
    rw [hdeeds, hnone, List.append_nil, hending]
  · have hfits : ∀ edit ∈ late.flatMap (·.edits),
        ∃ folder name, edit.1 = folder ++ [name] ∧ world.files.Fits folder name := by
      intro edit hedit
      have hmem := List.mem_append_right (done.flatMap (·.edits)) hedit
      rw [← List.flatMap_append, ← hdeeds] at hmem
      exact fits_of_mem_edits directory renderer hmem
    rw [hafter, files_edited, show first = _ from hfirst]
    exact readText_putAll_of_mem_written hfits hplaces hentry

/-- A template at version 1, and at version 2 one without an extension of its own. -/
def tornFragments : List Fragment :=
  [⟨[['x', '\n']], ['a'], ['p', '.', 'c', '.', 'j'], 1, 1, ['f']⟩,
    ⟨[['y', '\n']], ['a'], ['q', '.', 'j'], 2, 3, ['f']⟩]

/-- A directory with both templates. -/
def tornWorld : World where
  files := ⟨[([['d']], .directory), ([['d'], ['p', '.', 'c', '.', 'j']], .file (.text ['s'])),
    ([['d'], ['q', '.', 'j']], .file (.text ['t']))]⟩
  here := []

/-- Version 2 fails, and what was written at version 1 is read as after the run on version 1. -/
theorem undisturbed_by_failing_version :
    (∃ f ∈ tornFragments, f.version = 1) ∧
    (renderFragments (upTo 1 tornFragments) ⟨['d'], ['j']⟩ showScope tornWorld).1 =
      .ok {
        written := [⟨['p', '.', 'c', '.', 'j'], 1, ['d', '/', 'p', '-', '1', '.', 'c']⟩]
        versions := some (1, 1) } ∧
    (renderFragments tornFragments ⟨['d'], ['j']⟩ showScope tornWorld).1 =
      .error (.invalidTemplateExtension ['d', '/', 'q', '.', 'j'] ['j']) ∧
    (renderFragments tornFragments ⟨['d'], ['j']⟩ showScope tornWorld).2.files.readText []
      ['d', '/', 'p', '-', '1', '.', 'c'] = .ok ['s', 'x', '\n'] := by
  have present : ∃ f ∈ tornFragments, f.version = 1 := by decide
  obtain ⟨-, -, -, late, -, -, -, -, -, hkept⟩ :=
    undisturbed_by_later_versions present ⟨['d'], ['j']⟩ showScope tornWorld
  have hwritten : ⟨['p', '.', 'c', '.', 'j'], 1, ['d', '/', 'p', '-', '1', '.', 'c']⟩ ∈
      (deeds ⟨['d'], ['j']⟩ showScope (tour (upTo 1 tornFragments)) tornWorld.files []).flatMap
        Deed.written := by
    decide +kernel
  refine ⟨present, by decide +kernel, by decide +kernel, ?_⟩
  refine (hkept _ hwritten).trans ?_
  decide +kernel

end Rendering

end Tangle
