import Tangle.Proofs.Rendering.Stops
import Tangle.Proofs.Rendering.Versions

/-!
# The outputs of a rendering run

Where the files of a run come to lie, and what is in them when it ends. A stop writes into the
directory of the template that it found, under a name that tells the template and the version. So
two stops meet in one file exactly if they found the same template at the same version, and when no
two do, every file that a run tells of holds what was rendered for it.
-/

namespace Tangle

namespace Rendering

variable (directory : TemplateDirectory) (renderer : Renderer)

/-! ## Writings -/

/-- The template file that the identifier of a stop was resolved to. -/
def Stop.template? (s : Stop) : Option Text :=
  match (directory.resolve s.visit.identifier s.before).1 with
  | .ok lookup => lookup.path
  | .error _ => none

/-- A stop wrote a file: from a template in some folder it made a text, and put it into the same
folder, where no directory was. -/
structure Stop.Wrote (s : Stop) (template source text : Text) (file : TemplateFile)
    (folder : Location) : Prop where
  template?_eq : s.template? directory = some template
  named : TemplateFile.ofPath template directory.suffix = .ok file
  written_eq : s.result.written =
    [⟨s.visit.identifier, s.visit.version, file.outputPath s.visit.version⟩]
  locate_template : s.before.files.locate s.before.here template =
    .ok (folder ++ [file.fullName directory.suffix])
  locate_output : s.before.files.locate s.before.here (file.outputPath s.visit.version) =
    .ok (folder ++ [file.outputName s.visit.version])
  read : s.before.files.readText s.before.here template = .ok source
  rendered : renderer s.visit.identifier source s.visit.scope = some text
  free : s.before.files.node? (folder ++ [file.outputName s.visit.version]) ≠ some .directory
  files_eq : s.after.files = s.before.files.put (folder ++ [file.outputName s.visit.version])
    (.file (.text (withFinalLineFeed text)))

/-- Every stop found no template and changed no file, or wrote one. -/
theorem Stop.cases {s : Stop}
    (h : s.visit.render directory renderer s.before = (.ok s.result, s.after)) :
    s.after.here = s.before.here ∧
      ((s.template? directory = none ∧ s.result.written = [] ∧
          s.after.files = s.before.files) ∨
        ∃ template source text file folder,
          s.Wrote directory renderer template source text file folder) := by
  have hstep := visitStep directory renderer s.visit s.before
  rw [h] at hstep
  generalize hresult : s.result = result at hstep
  cases hstep with
  | passed resolved absent kept =>
    refine ⟨kept.2, Or.inl ⟨?_, rfl, kept.1⟩⟩
    rw [Stop.template?, resolved]
    exact absent
  | wrote resolved present named read rendered written kept =>
    rw [(TemplateFile.of_ofPath_eq_ok named).1] at read
    -- the text was put beside the template, for writing to a name that is too long fails
    obtain ⟨folder, hlies⟩ :=
      TemplateFile.exists_liesIn (FileTree.readText_eq_ok_iff.mp read) named
    obtain ⟨location, hlocate, hfree, hfiles⟩ := FileTree.writeText_eq_ok_iff.mp written
    obtain ⟨rfl, -⟩ := hlies.of_locate_outputPath hlocate
    refine ⟨kept, Or.inr ⟨_, _, _, _, folder, {
      template?_eq := ?_, named, written_eq := hresult ▸ rfl, locate_template := hlies.locate
      locate_output := hlocate, read, rendered, free := hfree, files_eq := hfiles }⟩⟩
    rw [Stop.template?, resolved]
    exact present

/-! ## Meeting in one file -/

section Meeting

variable {directory renderer} {tree : FileTree} {here : Location} {s t : Stop}
variable {template template' source source' text text' : Text} {file file' : TemplateFile}
variable {folder folder' : Location}

/-- **Two stops write to one file exactly if they found the same template at the same version.** -/
theorem Stop.Wrote.samePlace_iff (hs : s.Wrote directory renderer template source text file folder)
    (ht : t.Wrote directory renderer template' source' text' file' folder')
    (hsdirs : FileTree.SameDirectories tree s.before.files) (hshere : s.before.here = here)
    (htdirs : FileTree.SameDirectories tree t.before.files) (hthere : t.before.here = here) :
    tree.SamePlace here (file.outputPath s.visit.version) (file'.outputPath t.visit.version) ↔
      s.visit.version = t.visit.version ∧ tree.SamePlace here template template' := by
  subst hshere
  have hts := ht.locate_template
  have hos := ht.locate_output
  rw [hthere] at hts hos
  rw [FileTree.samePlace_iff_eq (hsdirs.symm.locate_eq_ok hs.locate_output)
      (htdirs.symm.locate_eq_ok hos),
    FileTree.samePlace_iff_eq (hsdirs.symm.locate_eq_ok hs.locate_template)
      (htdirs.symm.locate_eq_ok hts)]
  -- with no dot in an extension both names are taken apart in one way
  obtain ⟨-, -, hdot⟩ := TemplateFile.of_ofPath_eq_ok hs.named
  obtain ⟨-, -, hdot'⟩ := TemplateFile.of_ofPath_eq_ok ht.named
  exact TemplateFile.append_outputName_eq_iff hdot hdot' directory.suffix

end Meeting

/-! ## What is kept -/

/-- A location that no stop writes to holds what it held. -/
theorem node?_of_follow {visits : List Visit} {world after : World} {result : Rendering}
    (h : follow directory renderer visits world = (.ok result, after)) {location : Location}
    (hother : ∀ s ∈ stops directory renderer visits world, ∀ entry ∈ s.result.written,
      s.before.files.locate s.before.here entry.path ≠ .ok location) :
    after.files.node? location = world.files.node? location := by
  induction visits generalizing world result with
  | nil =>
    cases h
    rfl
  | cons visit more ih =>
    obtain ⟨first, between, hfirst, h⟩ := Run.ok_of_bind h
    obtain ⟨rest, last, hrest, h⟩ := Run.ok_of_bind h
    cases h
    rw [stops_of_ok directory renderer more hfirst] at hother
    rw [ih hrest fun s hs => hother s (List.mem_cons_of_mem _ hs)]
    -- it remains that the first stop changed nothing there
    rcases (Stop.cases directory renderer (s := ⟨visit, world, first, between⟩) hfirst).2 with
      ⟨-, -, hfiles⟩ | ⟨template, source, text, file, folder, hwrote⟩
    · exact congrArg (FileTree.node? · location) hfiles
    · have hmem : ⟨visit.identifier, visit.version, file.outputPath visit.version⟩ ∈
          first.written := by
        rw [show first.written = _ from hwrote.written_eq]
        exact List.mem_singleton_self _
      have hne : folder ++ [file.outputName visit.version] ≠ location := by
        rintro rfl
        exact hother _ List.mem_cons_self _ hmem hwrote.locate_output
      have hfiles : between.files = world.files.put (folder ++ [file.outputName visit.version])
        (.file (.text (withFinalLineFeed text))) := hwrote.files_eq
      rw [hfiles, FileTree.node?_put _ (by simp), if_neg (Ne.symm hne)]

variable {directory renderer} in
/-- What a stop wrote is there when the rest of the tour ends, if nothing of the rest is written to
the same place. -/
theorem Stop.Wrote.readText_of_follow {s : Stop} {template source text : Text}
    {file : TemplateFile} {folder : Location}
    (hs : s.Wrote directory renderer template source text file folder)
    (hhere : s.after.here = s.before.here) {visits : List Visit} {after : World}
    {rest : Rendering} (h : follow directory renderer visits s.after = (.ok rest, after))
    (hother : ∀ other ∈ rest.written,
      ¬ s.before.files.SamePlace s.before.here (file.outputPath s.visit.version) other.path) :
    after.files.readText s.before.here (file.outputPath s.visit.version) =
      .ok (withFinalLineFeed text) := by
  have hstop : FileTree.SameDirectories s.before.files s.after.files := by
    rw [hs.files_eq]
    exact .put hs.free _
  have hkept : after.files.node? (folder ++ [file.outputName s.visit.version]) =
      s.after.files.node? (folder ++ [file.outputName s.visit.version]) := by
    refine node?_of_follow directory renderer h fun later hlater other hmem hlocate => ?_
    have hwritten : other ∈ rest.written := by
      rw [(result_of_follow directory renderer h).2.1]
      exact List.mem_flatMap.mpr ⟨later, hlater, hmem⟩
    -- paths lead to the same places before all of these stops
    obtain ⟨-, ⟨hdirs, hthere⟩, -⟩ := of_mem_stops directory renderer hlater
    rw [hthere, hhere] at hlocate
    exact hother other hwritten
      ⟨_, hs.locate_output, (hstop.trans hdirs).symm.locate_eq_ok hlocate⟩
  have hdirs := hstop.trans (sameDirectories_of_follow directory renderer h).1
  -- the path still leads to the place, and the text is still there
  refine FileTree.readText_eq_ok_iff.mpr
    (FileTree.find_eq_ok_iff.mpr ⟨_, hdirs.locate_eq_ok hs.locate_output, ?_⟩)
  rw [hkept, hs.files_eq, FileTree.node?_put _ (by simp), if_pos rfl]

/-- If no two stops of a tour write to one place, what each of them wrote is there at the end. -/
theorem readText_of_follow {visits : List Visit} {world after : World} {result : Rendering}
    (h : follow directory renderer visits world = (.ok result, after))
    (hdistinct : result.written.Pairwise fun a b =>
      ¬ world.files.SamePlace world.here a.path b.path) :
    ∀ s ∈ stops directory renderer visits world, ∀ entry ∈ s.result.written,
      ∃ template source text, s.template? directory = some template ∧
        s.before.files.readText world.here template = .ok source ∧
        renderer s.visit.identifier source s.visit.scope = some text ∧
        after.files.readText world.here entry.path = .ok (withFinalLineFeed text) := by
  induction visits generalizing world result with
  | nil => exact fun s hs => (List.not_mem_nil hs).elim
  | cons visit more ih =>
    obtain ⟨first, between, hfirst, h⟩ := Run.ok_of_bind h
    obtain ⟨rest, last, hrest, h⟩ := Run.ok_of_bind h
    cases h
    obtain ⟨-, hrestDistinct, hacross⟩ := List.pairwise_append.mp hdistinct
    obtain ⟨hhere, hcases⟩ :=
      Stop.cases directory renderer (s := ⟨visit, world, first, between⟩) hfirst
    have hstop := (visit.sameDirectories_render directory renderer
      ⟨FileTree.SameDirectories.refl world.files, rfl⟩).1
    rw [hfirst] at hstop
    rw [stops_of_ok directory renderer more hfirst]
    intro s hs
    rcases List.mem_cons.mp hs with rfl | hs
    · -- what the first stop wrote is kept by the rest
      intro entry hentry
      rcases hcases with ⟨-, hnone, -⟩ | ⟨template, source, text, file, folder, hwrote⟩
      · rw [hnone] at hentry
        cases hentry
      · have hown := hentry
        rw [hwrote.written_eq] at hown
        obtain rfl := List.mem_singleton.mp hown
        exact ⟨template, source, text, hwrote.template?_eq, hwrote.read, hwrote.rendered,
          hwrote.readText_of_follow hhere hrest (hacross _ hentry)⟩
    · -- and for the rest the places are those after the first stop
      rw [← show between.here = world.here from hhere]
      exact ih hrest (hrestDistinct.imp fun hne hsame =>
        hne (hstop.samePlace_iff.mpr (hhere ▸ hsame))) s hs

/-! ## Outputs of a run -/

/-- No two of some stops found the same template file at the same version. -/
def Apart (tree : FileTree) (here : Location) (made : List Stop) : Prop :=
  made.Pairwise fun s t => s.visit.version = t.visit.version →
    ∀ template ∈ s.template? directory, ∀ template' ∈ t.template? directory,
      ¬ tree.SamePlace here template template'

/-- **Outputs are kept exactly if templates are apart.** The files that a run tells of are pairwise
different ones exactly if no two identifiers are resolved to one template file at one version. When
the run ends, each of them then holds the text that was rendered from its template in the scope of
its identifier at its version. -/
theorem outputs_kept_iff (fragments : List Fragment) {world after : World} {result : Rendering}
    (h : renderFragments fragments directory renderer world = (.ok result, after)) :
    let made := stops directory renderer (tour fragments) world
    result.written = made.flatMap (·.result.written) ∧
      (result.written.Pairwise (fun a b => ¬ world.files.SamePlace world.here a.path b.path) ↔
        Apart directory world.files world.here made) ∧
      (Apart directory world.files world.here made →
        ∀ s ∈ made, ∀ entry ∈ s.result.written,
          entry.template = s.visit.identifier ∧ entry.version = s.visit.version ∧
            s.visit.Faithful fragments ∧
            ∃ template source text, s.template? directory = some template ∧
              s.before.files.readText world.here template = .ok source ∧
              renderer entry.template source s.visit.scope = some text ∧
              after.files.readText world.here entry.path = .ok (withFinalLineFeed text)) := by
  intro made
  obtain ⟨hfollow, -⟩ := result_of_renderFragments directory renderer h
  obtain ⟨-, hwritten, -⟩ := result_of_follow directory renderer hfollow
  have hmade {s : Stop} (hs : s ∈ made) := of_mem_stops directory renderer hs
  have hiff : result.written.Pairwise
      (fun a b => ¬ world.files.SamePlace world.here a.path b.path) ↔
      Apart directory world.files world.here made := by
    rw [show result.written = made.flatMap (·.result.written) from hwritten, List.pairwise_flatMap]
    -- a stop writes at most one file, so only pairs of stops count
    have hone : ∀ s ∈ made, s.result.written.Pairwise
        fun a b => ¬ world.files.SamePlace world.here a.path b.path := by
      intro s hs
      rcases (Stop.cases directory renderer (hmade hs).2.2).2 with
        ⟨-, hnone, -⟩ | ⟨_, _, _, _, _, hwrote⟩
      · rw [hnone]
        exact List.Pairwise.nil
      · rw [hwrote.written_eq]
        exact List.pairwise_singleton ..
    rw [and_iff_right hone, Apart]
    refine List.Pairwise.iff_of_mem fun {s t} hs ht => ?_
    rcases (Stop.cases directory renderer (hmade hs).2.2).2 with
      ⟨hnone, hempty, -⟩ | ⟨template, source, text, file, folder, hs'⟩
    · simp [hnone, hempty]
    rcases (Stop.cases directory renderer (hmade ht).2.2).2 with
      ⟨hnone, hempty, -⟩ | ⟨template', source', text', file', folder', ht'⟩
    · simp [hnone, hempty]
    -- both stops wrote, so they meet exactly if their templates do
    obtain ⟨-, ⟨hsdirs, hshere⟩, -⟩ := hmade hs
    obtain ⟨-, ⟨htdirs, hthere⟩, -⟩ := hmade ht
    have hmeet := hs'.samePlace_iff ht' hsdirs hshere htdirs hthere
    simp only [hs'.written_eq, ht'.written_eq, hs'.template?_eq, ht'.template?_eq,
      List.mem_singleton, forall_eq, Option.mem_some_iff, forall_eq', hmeet, not_and]
  refine ⟨hwritten, hiff, fun hapart s hs entry hentry => ?_⟩
  have hkept := readText_of_follow directory renderer hfollow (hiff.mpr hapart) s hs entry hentry
  have hentryEq : entry.template = s.visit.identifier ∧ entry.version = s.visit.version := by
    rcases (Stop.cases directory renderer (hmade hs).2.2).2 with
      ⟨-, hnone, -⟩ | ⟨_, _, _, _, _, hwrote⟩
    · rw [hnone] at hentry
      cases hentry
    · rw [hwrote.written_eq, List.mem_singleton] at hentry
      rw [hentry]
      exact ⟨rfl, rfl⟩
  rw [hentryEq.1]
  exact ⟨rfl, hentryEq.2, faithful_of_mem_tour (hmade hs).1, hkept⟩

/-- Two templates at one version. -/
def apartFragments : List Fragment :=
  [⟨[['x', '\n']], ['a'], ['p', '.', 'c', '.', 'j'], 1, 1, ['f']⟩,
    ⟨[['y', '\n']], ['a'], ['q', '.', 'c', '.', 'j'], 1, 3, ['f']⟩]

/-- A directory with the two templates. -/
def apartWorld : World where
  files := ⟨[([['d']], .directory), ([['d'], ['p', '.', 'c', '.', 'j']], .file (.text ['s'])),
    ([['d'], ['q', '.', 'c', '.', 'j']], .file (.text ['t']))]⟩
  here := []

/-- The two templates are apart, and both files keep what was written to them. -/
theorem outputs_kept_iff_at_two_templates :
    ∃ result after,
      renderFragments apartFragments ⟨['d'], ['j']⟩ showScope apartWorld = (.ok result, after) ∧
      result.written.map Rendered.path =
        [['d', '/', 'p', '-', '1', '.', 'c'], ['d', '/', 'q', '-', '1', '.', 'c']] ∧
      Apart ⟨['d'], ['j']⟩ apartWorld.files []
        (stops ⟨['d'], ['j']⟩ showScope (tour apartFragments) apartWorld) ∧
      ∀ s ∈ stops ⟨['d'], ['j']⟩ showScope (tour apartFragments) apartWorld,
        ∀ entry ∈ s.result.written, ∃ source text,
          showScope entry.template source s.visit.scope = some text ∧
          after.files.readText [] entry.path = .ok (withFinalLineFeed text) := by
  have hrun : (renderFragments apartFragments ⟨['d'], ['j']⟩ showScope apartWorld).1 =
      .ok {
        written := [
          ⟨['p', '.', 'c', '.', 'j'], 1, ['d', '/', 'p', '-', '1', '.', 'c']⟩,
          ⟨['q', '.', 'c', '.', 'j'], 1, ['d', '/', 'q', '-', '1', '.', 'c']⟩]
        versions := some (1, 1) } := by
    decide +kernel
  have h := Prod.ext (y := (_, _)) hrun rfl
  obtain ⟨-, hiff, hkept⟩ := outputs_kept_iff ⟨['d'], ['j']⟩ showScope apartFragments h
  have hapart := hiff.mp (by decide +kernel)
  refine ⟨_, _, h, rfl, hapart, fun s hs entry hentry => ?_⟩
  obtain ⟨-, -, -, template, source, text, -, -, hrendered, hread⟩ := hkept hapart s hs entry hentry
  exact ⟨source, text, hrendered, hread⟩

/-- One template under two identifiers, its stem and its full name. -/
def meetingFragments : List Fragment :=
  [⟨[['x', '\n']], ['a'], ['p'], 1, 1, ['f']⟩,
    ⟨[['y', '\n']], ['a'], ['p', '.', 'c', '.', 'j'], 1, 3, ['f']⟩]

/-- The run tells of a file for each identifier, but it is one and the same, and what was rendered
for the first identifier is lost. -/
theorem outputs_meet :
    (renderFragments meetingFragments ⟨['d'], ['j']⟩ showScope gapWorld).1 =
      .ok {
        written := [
          ⟨['p'], 1, ['d', '/', 'p', '-', '1', '.', 'c']⟩,
          ⟨['p', '.', 'c', '.', 'j'], 1, ['d', '/', 'p', '-', '1', '.', 'c']⟩]
        versions := some (1, 1) } ∧
    (tour meetingFragments).map (fun visit => showScope visit.identifier ['s'] visit.scope) =
      [some ['s', 'x', '\n'], some ['s', 'y', '\n']] ∧
    (renderFragments meetingFragments ⟨['d'], ['j']⟩ showScope gapWorld).2.files.readText []
      ['d', '/', 'p', '-', '1', '.', 'c'] = .ok ['s', 'y', '\n'] := by
  refine ⟨?_, ?_, ?_⟩
  · decide +kernel
  · decide +kernel
  · decide +kernel

end Rendering

end Tangle
