import Tangle.Command
import Tangle.Proofs.Documents

/-!
# The preparation of a rendering run

Before anything is written a run looks at its documents and opens the directory of templates. All
of this leaves the files alone, and what it comes to depends on few of them: on those that the
documents can be found at, and on whether the directory is there.
-/

namespace Tangle

/-! ## Opening the directory -/

theorem Settings.filter_apply (settings : Settings) (world : World) :
    settings.filter world =
      (match LineFilter.compile settings.patterns settings.annotations with
        | .ok filter => .ok filter
        | .error pattern => .error (.filterPattern pattern), world) := by
  unfold filter
  cases LineFilter.compile settings.patterns settings.annotations <;> rfl

theorem Settings.filter_keepsFiles (settings : Settings) : Run.KeepsFiles settings.filter := by
  intro world
  rw [filter_apply]
  exact ⟨rfl, rfl⟩

theorem Settings.filter_alike (settings : Settings) {here : Location} {tree other : FileTree} :
    Run.Alike here tree other settings.filter := by
  intro world world' _ _ _ _
  rw [filter_apply, filter_apply]

namespace TemplateDirectory

variable {root suffix : Text}

/-- Opening a directory only asks whether it is there. -/
theorem openAt_apply (world : World) :
    openAt root suffix world =
      (if world.files.has world.here root then
        if ((Path.extension? root).all fun extension => extension = suffix) then
          .ok ⟨root, suffix⟩
        else .error (.templateDirectoryExtension root suffix)
      else .error (.missingTemplateDirectory root), world) := by
  unfold openAt
  rw [Run.bind_apply, Run.pathExists, Run.ask]
  dsimp only
  cases world.files.has world.here root with
  | false => rfl
  | true =>
    cases Path.extension? root with
    | none => rfl
    | some extension => by_cases h : extension = suffix <;> simp [h] <;> rfl

theorem openAt_keepsFiles : Run.KeepsFiles (openAt root suffix) := by
  intro world
  rw [openAt_apply]
  exact ⟨rfl, rfl⟩

theorem openAt_alike {here : Location} {tree other : FileTree}
    (h : other.has here root = tree.has here root) :
    Run.Alike here tree other (openAt root suffix) := by
  rintro world world' rfl rfl rfl hhere
  rw [openAt_apply, openAt_apply, hhere, h]

theorem of_openAt_eq_ok {world after : World} {directory : TemplateDirectory}
    (h : openAt root suffix world = (.ok directory, after)) :
    directory = ⟨root, suffix⟩ ∧ world.files.has world.here root = true ∧ after = world := by
  rw [openAt_apply] at h
  split at h
  · rename_i hthere
    split at h
    · cases h
      exact ⟨rfl, hthere, rfl⟩
    · cases h
  · cases h

end TemplateDirectory

/-! ## The preparation -/

namespace Rendering

variable (documents : List Text) (root : Text) (settings : Settings)

/-- What a rendering run does before it renders: it opens the directory and reads the documents. -/
def prepare : Run (TemplateDirectory × Extraction) := do
  let documents ← Documents.resolveAll documents
  let directory ← TemplateDirectory.openAt root settings.suffix
  let filter ← settings.filter
  let extraction ← Documents.extract filter documents
  pure (directory, extraction)

/-- What a run yields, given the extraction and what rendering its fragments yields. -/
def conclude (extraction : Extraction) (result : Rendering) : Rendering :=
  { result with diagnostics := extraction.diagnostics ++ result.diagnostics }

/-- A run is its preparation, the rendering of the fragments that were found, and a last event. -/
theorem renderDocuments_eq_prepare (renderer : Renderer) :
    renderDocuments documents root settings renderer = (do
      let (directory, extraction) ← prepare documents root settings
      let result ← renderFragments extraction.fragments directory renderer
      Run.report .done
      pure (conclude extraction result)) := by
  unfold renderDocuments prepare
  simp only [bind_assoc, pure_bind]
  rfl

theorem prepare_keepsFiles : Run.KeepsFiles (prepare documents root settings) :=
  .bind (Documents.resolveAll_keepsFiles _) fun paths =>
    .bind TemplateDirectory.openAt_keepsFiles fun _ =>
      .bind settings.filter_keepsFiles fun filter =>
        .bind (Documents.extract_keepsFiles filter paths) fun _ => .pure _

variable {documents root settings}

/-- The preparation is the same on two trees with the same documents if the directory is there in
both or in neither. -/
theorem prepare_alike {here : Location} {tree other : FileTree}
    (hdocuments : ∀ path ∈ documents, ∀ spelling ∈ Documents.spellings path,
      tree.SameFileAt other here spelling)
    (hroot : other.has here root = tree.has here root) :
    Run.Alike here tree other (prepare documents root settings) := by
  refine .bind (Documents.resolveAll_keepsFiles _) (Documents.resolveAll_alike hdocuments)
    fun paths world after hfiles hhere hpaths => ?_
  -- from here on only files are read that were found
  obtain ⟨hall, -⟩ := Documents.of_resolveAll_eq_ok hpaths
  refine .bind TemplateDirectory.openAt_keepsFiles (TemplateDirectory.openAt_alike hroot)
    fun _ _ _ _ _ _ => ?_
  refine .bind settings.filter_keepsFiles settings.filter_alike fun filter _ _ _ _ _ => ?_
  refine .bind (Documents.extract_keepsFiles filter paths) (Documents.extract_alike filter ?_)
    fun _ _ _ _ _ _ => .pure _
  intro found hmem
  obtain ⟨path, hpath, hfound⟩ := Documents.exists_document hall hmem
  obtain ⟨hspelling, hfile⟩ := Documents.of_foundAt? hfound
  rw [hfiles, hhere] at hfile
  exact ⟨hfile, hdocuments path hpath found hspelling⟩

/-- A preparation that ends well opened the directory, which is there, and found what listing the
fragments of the documents finds. -/
theorem of_prepare_eq_ok {world ready : World} {directory : TemplateDirectory}
    {extraction : Extraction}
    (h : prepare documents root settings world = (.ok (directory, extraction), ready)) :
    directory = ⟨root, settings.suffix⟩ ∧ world.files.has world.here root = true ∧
      (Command.extractDocuments documents settings world).1 = .ok extraction := by
  obtain ⟨paths, _, hpaths, hopen⟩ := Run.ok_of_bind h
  obtain ⟨opened, _, hopened, hfilter⟩ := Run.ok_of_bind hopen
  obtain ⟨filter, _, hfiltered, hextract⟩ := Run.ok_of_bind hfilter
  obtain ⟨found, _, hfound, hlast⟩ := Run.ok_of_bind hextract
  cases hlast
  obtain ⟨-, rfl⟩ := Documents.of_resolveAll_eq_ok hpaths
  obtain ⟨rfl, hhas, rfl⟩ := TemplateDirectory.of_openAt_eq_ok hopened
  refine ⟨rfl, hhas, ?_⟩
  -- listing takes the same steps, but for the directory
  rw [Command.extractDocuments, Run.bind_apply, hpaths]
  dsimp only
  rw [Run.bind_apply, hfiltered]
  dsimp only
  rw [hfound]

end Rendering

end Tangle
