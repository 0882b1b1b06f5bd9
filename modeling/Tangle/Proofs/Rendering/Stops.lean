import Tangle.Proofs.Rendering.Visit
import Tangle.Proofs.Template

/-!
# The legs and stops of a rendering run

A leg is a visit as it was made, with the worlds before and after it and how it ended. The legs of a
tour are all that there is to know about a run, and what each visit keeps holds at every leg, by
`of_mem_legs`. Two other lists are read off them:

- the stops, which are the legs that ended well. A run that ends well makes a stop for every visit
  of its tour and yields what its stops yield, one after another. `Outcome` says what a single stop
  comes to: one file, or one error about a template that is missing;
- the journal, which has the files that the stops wrote.
-/

namespace Tangle

namespace TemplateDirectory

variable {directory : TemplateDirectory} {identifier : Text}

/-- A lookup that ends well chooses among the names that the file tree has. -/
theorem of_resolve_eq_ok {world after : World} {lookup : Lookup}
    (h : directory.resolve identifier world = (.ok lookup, after)) :
    ∃ names, directory.namesIn identifier world.files world.here = .ok names ∧
      lookup = directory.choose identifier names (world.files.isFile world.here) := by
  rw [resolve_apply] at h
  cases hnames : directory.namesIn identifier world.files world.here with
  | error fault =>
    rw [hnames] at h
    cases h
  | ok names =>
    rw [hnames] at h
    cases h
    exact ⟨names, rfl, rfl⟩

theorem diagnostics_of_choose_none {names : List Text} {isFile : Text → Bool}
    (h : (directory.choose identifier names isFile).path = none) :
    (directory.choose identifier names isFile).diagnostics =
      ambiguity identifier names ++ [directory.absence identifier names] := by
  unfold choose at h ⊢
  split at h
  · rename_i hany
    change directory.firstPath? names = none at h
    rw [h] at hany
    cases hany
  · rename_i hany
    rw [if_neg hany]

theorem of_choose_some {names : List Text} {isFile : Text → Bool} {path : Text}
    (h : (directory.choose identifier names isFile).path = some path) :
    directory.firstPath? names = some path ∧ isFile path = true ∧
      (directory.choose identifier names isFile).diagnostics = ambiguity identifier names := by
  unfold choose at h ⊢
  split at h
  · rename_i hany
    rw [if_pos hany]
    change directory.firstPath? names = some path at h
    rw [h] at hany
    exact ⟨h, hany, rfl⟩
  · cases h

end TemplateDirectory

namespace Rendering

variable (directory : TemplateDirectory) (renderer : Renderer)

/-! ## Outcomes -/

/-- What a visit comes to that ends well, by the names of the files that its identifier stands for:
what it yields, and the files that it leaves. A choice between several names is warned of. -/
inductive Outcome (visit : Visit) (world : World) (names : List Text) :
    Rendering → FileTree → Prop where
  /-- The first name is no file, or there is none. -/
  | missing :
      Outcome visit world names {
        diagnostics := (TemplateDirectory.ambiguity visit.identifier names ++
          [directory.absence visit.identifier names]).map (Diagnostic.during visit.version) }
        world.files
  /-- The first name is a template file. Its source was rendered, and the text written. -/
  | wrote {path source text : Text} {file : TemplateFile} {after : FileTree}
      (first : directory.firstPath? names = some path)
      (named : TemplateFile.ofPath path directory.suffix = .ok file)
      (read : world.files.readText world.here path = .ok source)
      (rendered : renderer visit.identifier source visit.scope = some text)
      (written : world.files.writeText world.here (file.outputPath visit.version)
        (withFinalLineFeed text) = .ok after) :
      Outcome visit world names {
        written := [⟨visit.identifier, visit.version, file.outputPath visit.version⟩]
        diagnostics := (TemplateDirectory.ambiguity visit.identifier names).map
          (Diagnostic.during visit.version) } after

/-- Every visit that ends well has an outcome, and stays where it was. -/
theorem outcome_of_render {visit : Visit} {world after : World} {result : Rendering}
    (h : visit.render directory renderer world = (.ok result, after)) :
    after.here = world.here ∧
      ∃ names, directory.namesIn visit.identifier world.files world.here = .ok names ∧
        Outcome directory renderer visit world names result after.files := by
  have hstep := visitStep directory renderer visit world
  rw [h] at hstep
  cases hstep with
  | passed resolved absent kept =>
    obtain ⟨names, hnames, rfl⟩ := TemplateDirectory.of_resolve_eq_ok resolved
    refine ⟨kept.2, names, hnames, ?_⟩
    rw [TemplateDirectory.diagnostics_of_choose_none absent, kept.1]
    exact .missing
  | wrote resolved present named read rendered written kept =>
    obtain ⟨names, hnames, rfl⟩ := TemplateDirectory.of_resolve_eq_ok resolved
    obtain ⟨hfirst, -, hdiagnostics⟩ := TemplateDirectory.of_choose_some present
    rw [(TemplateFile.of_ofPath_eq_ok named).1] at read
    refine ⟨kept, names, hnames, ?_⟩
    rw [hdiagnostics]
    exact .wrote hfirst named read rendered written

/-! ## Legs -/

/-- A visit as it was made: the worlds before and after it, and how it ended. -/
structure Leg where
  visit : Visit
  before : World
  ending : Except Fault Rendering
  after : World

/-- The visits that a tour makes, up to the one that ends it with a fault if there is one. -/
def legs : List Visit → World → List Leg
  | [], _ => []
  | visit :: more, world =>
    match visit.render directory renderer world with
    | (.ok result, after) => ⟨visit, world, .ok result, after⟩ :: legs more after
    | (.error fault, after) => [⟨visit, world, .error fault, after⟩]

theorem legs_of_ok {visit : Visit} {world after : World} {result : Rendering}
    (more : List Visit) (h : visit.render directory renderer world = (.ok result, after)) :
    legs directory renderer (visit :: more) world =
      ⟨visit, world, .ok result, after⟩ :: legs directory renderer more after := by
  rw [legs, h]

theorem legs_of_error {visit : Visit} {world after : World} {fault : Fault}
    (more : List Visit) (h : visit.render directory renderer world = (.error fault, after)) :
    legs directory renderer (visit :: more) world = [⟨visit, world, .error fault, after⟩] := by
  rw [legs, h]

/-- The world that a tour leaves is the one that its other visits leave behind the first one: joining
the results does not touch it. -/
theorem world_of_follow_cons {visit : Visit} {world after : World} {result : Rendering}
    (more : List Visit) (h : visit.render directory renderer world = (.ok result, after)) :
    (follow directory renderer (visit :: more) world).2 =
      (follow directory renderer more after).2 := by
  rw [follow, Run.bind_apply, h]
  dsimp only
  rw [Run.bind_apply]
  cases follow directory renderer more after with
  | mk ending last => cases ending <;> rfl

theorem follow_of_error {visit : Visit} {world after : World} {fault : Fault}
    (more : List Visit) (h : visit.render directory renderer world = (.error fault, after)) :
    follow directory renderer (visit :: more) world = (.error fault, after) := by
  rw [follow, Run.bind_apply, h]

section Kept

variable {I : World → Prop} {visits : List Visit} {world : World}
  (kept : ∀ visit ∈ visits, ∀ world, I world → I (visit.render directory renderer world).2)

include kept

/-- **What each visit keeps holds at every leg.** A leg is a visit of the tour, made in a world with
whatever holds at the beginning and no visit can undo. -/
theorem of_mem_legs (h : I world) {leg : Leg} (hmem : leg ∈ legs directory renderer visits world) :
    leg.visit ∈ visits ∧ I leg.before ∧
      leg.visit.render directory renderer leg.before = (leg.ending, leg.after) := by
  -- the world is generalised, since the other legs begin in the one that the first leg leaves
  induction visits generalizing world with
  | nil => cases hmem
  | cons visit more ih =>
    have hnext := kept visit List.mem_cons_self world h
    cases hfirst : visit.render directory renderer world with
    | mk ending after =>
      rw [hfirst] at hnext
      cases ending with
      | error fault =>
        rw [legs_of_error directory renderer more hfirst] at hmem
        obtain rfl := List.mem_singleton.mp hmem
        exact ⟨List.mem_cons_self, h, hfirst⟩
      | ok result =>
        rw [legs_of_ok directory renderer more hfirst] at hmem
        rcases List.mem_cons.mp hmem with rfl | hmem
        · exact ⟨List.mem_cons_self, h, hfirst⟩
        · obtain ⟨hvisit, hbefore, hrender⟩ :=
            ih (fun later hlater => kept later (List.mem_cons_of_mem _ hlater)) hnext hmem
          exact ⟨List.mem_cons_of_mem _ hvisit, hbefore, hrender⟩

/-- It also holds when the tour has ended, well or not. -/
theorem kept_by_follow (h : I world) : I (follow directory renderer visits world).2 := by
  induction visits generalizing world with
  | nil => exact h
  | cons visit more ih =>
    have hnext := kept visit List.mem_cons_self world h
    cases hfirst : visit.render directory renderer world with
    | mk ending after =>
      rw [hfirst] at hnext
      cases ending with
      | error fault =>
        rw [follow_of_error directory renderer more hfirst]
        exact hnext
      | ok first =>
        rw [world_of_follow_cons directory renderer more hfirst]
        exact ih (fun later hlater => kept later (List.mem_cons_of_mem _ hlater)) hnext

end Kept

/-- A visit stays where it was and leaves the directories as they are, those of some world that it
is compared with. -/
theorem Visit.sameDirectories_render (visit : Visit) {start world : World}
    (h : FileTree.SameDirectories start.files world.files ∧ world.here = start.here) :
    FileTree.SameDirectories start.files (visit.render directory renderer world).2.files ∧
      (visit.render directory renderer world).2.here = start.here := by
  have hstep := visitStep directory renderer visit world
  generalize visit.render directory renderer world = made at hstep
  obtain ⟨ending, after⟩ := made
  -- only a visit that writes changes the tree, and it puts a text where no directory is
  cases hstep with
  | passed _ _ kept => exact ⟨kept.1 ▸ h.1, kept.2.trans h.2⟩
  | failed kept => exact ⟨kept.1 ▸ h.1, kept.2.trans h.2⟩
  | wrote _ _ _ _ _ written kept =>
    obtain ⟨location, -, hfree, hfiles⟩ := FileTree.writeText_eq_ok_iff.mp written
    rw [hfiles]
    exact ⟨h.1.trans (.put hfree _), kept.trans h.2⟩

/-- A tour leaves the directories as they are and ends where it began. -/
theorem sameDirectories_of_follow {visits : List Visit} {world after : World}
    {ending : Except Fault Rendering}
    (h : follow directory renderer visits world = (ending, after)) :
    FileTree.SameDirectories world.files after.files ∧ after.here = world.here := by
  have hafter := kept_by_follow directory renderer
    (I := fun between => FileTree.SameDirectories world.files between.files ∧
      between.here = world.here)
    (fun visit (_ : visit ∈ visits) _ => visit.sameDirectories_render directory renderer)
    ⟨.refl _, rfl⟩
  rwa [h] at hafter

/-! ## Stops -/

/-- A visit that was made and ended well: the worlds before and after it, and what it yielded. -/
structure Stop where
  visit : Visit
  before : World
  result : Rendering
  after : World

/-- The stop of a leg that ended well. -/
def Leg.stop? (leg : Leg) : Option Stop :=
  match leg.ending with
  | .ok result => some ⟨leg.visit, leg.before, result, leg.after⟩
  | .error _ => none

theorem Leg.stop?_eq_some_iff {leg : Leg} {s : Stop} :
    leg.stop? = some s ↔ leg = ⟨s.visit, s.before, .ok s.result, s.after⟩ := by
  obtain ⟨visit, before, ending, after⟩ := leg
  obtain ⟨visit', before', result, after'⟩ := s
  unfold stop?
  cases ending <;> simp

/-- The stops of a tour, up to the fault that ends it if there is one. -/
def stops (visits : List Visit) (world : World) : List Stop :=
  (legs directory renderer visits world).filterMap Leg.stop?

theorem stops_of_ok {visit : Visit} {world after : World} {result : Rendering}
    (more : List Visit) (h : visit.render directory renderer world = (.ok result, after)) :
    stops directory renderer (visit :: more) world =
      ⟨visit, world, result, after⟩ :: stops directory renderer more after := by
  rw [stops, legs_of_ok directory renderer more h]
  rfl

theorem stops_of_error {visit : Visit} {world after : World} {fault : Fault}
    (more : List Visit) (h : visit.render directory renderer world = (.error fault, after)) :
    stops directory renderer (visit :: more) world = [] := by
  rw [stops, legs_of_error directory renderer more h]
  rfl

/-- Every stop belongs to a visit of the tour, which was made where the tour began and found the
directories of the beginning. -/
theorem of_mem_stops {visits : List Visit} {world : World} {s : Stop}
    (h : s ∈ stops directory renderer visits world) :
    s.visit ∈ visits ∧
      (FileTree.SameDirectories world.files s.before.files ∧ s.before.here = world.here) ∧
      s.visit.render directory renderer s.before = (.ok s.result, s.after) := by
  obtain ⟨leg, hleg, hstop⟩ := List.mem_filterMap.mp h
  obtain rfl := Leg.stop?_eq_some_iff.mp hstop
  exact of_mem_legs directory renderer
    (I := fun between => FileTree.SameDirectories world.files between.files ∧
      between.here = world.here)
    (fun visit _ _ => visit.sameDirectories_render directory renderer) ⟨.refl _, rfl⟩ hleg

/-- A tour that ends well makes all its visits and yields what its stops yield. -/
theorem result_of_follow {visits : List Visit} {world after : World} {result : Rendering}
    (h : follow directory renderer visits world = (.ok result, after)) :
    (stops directory renderer visits world).map Stop.visit = visits ∧
      result.written = (stops directory renderer visits world).flatMap (·.result.written) ∧
      result.diagnostics =
        (stops directory renderer visits world).flatMap (·.result.diagnostics) := by
  induction visits generalizing world result with
  | nil =>
    cases h
    exact ⟨rfl, rfl, rfl⟩
  | cons visit more ih =>
    obtain ⟨first, between, hfirst, h⟩ := Run.ok_of_bind h
    obtain ⟨rest, last, hrest, h⟩ := Run.ok_of_bind h
    cases h
    obtain ⟨hvisits, hwritten, hdiagnostics⟩ := ih hrest
    rw [stops_of_ok directory renderer more hfirst, List.map_cons, List.flatMap_cons,
      List.flatMap_cons, hvisits, ← hwritten, ← hdiagnostics]
    exact ⟨rfl, rfl, rfl⟩

/-- The same for the run that renders fragments, which also tells their range of versions. -/
theorem result_of_renderFragments {fragments : List Fragment} {world after : World}
    {result : Rendering}
    (h : renderFragments fragments directory renderer world = (.ok result, after)) :
    follow directory renderer (tour fragments) world =
        (.ok { result with versions := none }, after) ∧
      result.versions = versionRange fragments := by
  rw [renderFragments_eq_follow] at h
  obtain ⟨followed, between, hfollow, h⟩ := Run.ok_of_bind h
  cases h
  have hversions := versions_of_follow directory renderer hfollow
  refine ⟨?_, rfl⟩
  rw [hfollow, ← hversions]

/-! ## The journal -/

/-- A file written on a visit, with the file tree before and after. -/
structure Writing where
  visit : Visit
  path : Text
  before : FileTree
  after : FileTree

/-- The entry by which a run tells of a writing. -/
def Writing.entry (w : Writing) : Rendered := ⟨w.visit.identifier, w.visit.version, w.path⟩

/-- The files that are written at a stop. -/
def Stop.writings (s : Stop) : List Writing :=
  s.result.written.map fun entry => ⟨s.visit, entry.path, s.before.files, s.after.files⟩

/-- The files that a tour writes, in order, up to the fault that ends it if there is one. -/
def journal (visits : List Visit) (world : World) : List Writing :=
  (stops directory renderer visits world).flatMap Stop.writings

/-- What stands behind a writing: from the source of some template, as the tree had it, and the
scope of the visit the renderer made a text, and this text, ended by a line feed, was written. -/
def Writing.Renders (here : Location) (w : Writing) : Prop :=
  ∃ (file : TemplateFile) (source text : Text),
    w.path = file.outputPath w.visit.version ∧
    w.before.readText here file.path = .ok source ∧
    renderer w.visit.identifier source w.visit.scope = some text ∧
    w.before.writeText here w.path (withFinalLineFeed text) = .ok w.after

/-- The writings of a stop make the entries that it yields and leave the files that are there after
it, and each has a rendering behind it. -/
theorem Stop.of_writings {s : Stop}
    (h : s.visit.render directory renderer s.before = (.ok s.result, s.after)) :
    s.writings.map Writing.entry = s.result.written ∧
      s.writings.foldl (fun _ w => w.after) s.before.files = s.after.files ∧
      ∀ w ∈ s.writings, w.visit = s.visit ∧ w.Renders renderer s.before.here := by
  have hstep := visitStep directory renderer s.visit s.before
  rw [h] at hstep
  unfold writings
  generalize s.result = result at hstep
  cases hstep with
  | passed _ _ kept => exact ⟨rfl, kept.1.symm, fun w hw => (List.not_mem_nil hw).elim⟩
  | wrote _ _ _ read rendered written =>
    refine ⟨rfl, rfl, fun w hw => ?_⟩
    obtain rfl := List.mem_singleton.mp hw
    exact ⟨rfl, _, _, _, rfl, read, rendered, written⟩

/-- A tour that ends well tells of exactly the files in its journal. -/
theorem written_of_follow {visits : List Visit} {world after : World} {result : Rendering}
    (h : follow directory renderer visits world = (.ok result, after)) :
    result.written = (journal directory renderer visits world).map Writing.entry := by
  rw [(result_of_follow directory renderer h).2.1, journal, List.map_flatMap]
  apply List.flatMap_congr
  intro s hs
  obtain ⟨-, -, hrender⟩ := of_mem_stops directory renderer hs
  exact (Stop.of_writings directory renderer hrender).1.symm

/-- However a tour ends, the files are those that the last writing of its journal leaves. -/
theorem files_of_follow (visits : List Visit) (world : World) :
    (follow directory renderer visits world).2.files =
      (journal directory renderer visits world).foldl (fun _ w => w.after) world.files := by
  -- the writings of the first stop lead to the files that the other visits find
  induction visits generalizing world with
  | nil => rfl
  | cons visit more ih =>
    rw [journal]
    cases hfirst : visit.render directory renderer world with
    | mk ending between =>
      cases ending with
      | error fault =>
        have hstep := visitStep directory renderer visit world
        rw [hfirst] at hstep
        rw [stops_of_error directory renderer more hfirst,
          follow_of_error directory renderer more hfirst]
        cases hstep with
        | failed kept => exact kept.1
      | ok first =>
        have hstop := (Stop.of_writings directory renderer
          (s := ⟨visit, world, first, between⟩) hfirst).2.1
        rw [stops_of_ok directory renderer more hfirst, List.flatMap_cons, List.foldl_append,
          hstop, ← journal, ← ih between, world_of_follow_cons directory renderer more hfirst]

/-- Every writing belongs to a visit of the tour and has a rendering behind it. -/
theorem of_mem_journal {visits : List Visit} {world : World} {w : Writing}
    (h : w ∈ journal directory renderer visits world) :
    w.visit ∈ visits ∧ w.Renders renderer world.here := by
  obtain ⟨s, hs, hw⟩ := List.mem_flatMap.mp h
  obtain ⟨hvisit, ⟨-, hhere⟩, hrender⟩ := of_mem_stops directory renderer hs
  obtain ⟨hsame, hrenders⟩ := (Stop.of_writings directory renderer hrender).2.2 w hw
  rw [hsame, ← hhere]
  exact ⟨hvisit, hrenders⟩

end Rendering

end Tangle
