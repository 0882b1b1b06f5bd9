import Tangle.Proofs.Documents
import Tangle.Proofs.PageTemplate
import Tangle.Publication

/-!
# Faults of a publication

A report is published in two files, the stylesheet and then the page. A document or a directory that
is wrong is found before the first of them is written, and only the page can be missing beside the
stylesheet.
-/

namespace Tangle

variable {documents : List Text} {world after : World} {fault : Fault}

namespace Publication

/-- What can be wrong before a report is written: a document, or the directory to write it to. -/
inductive SetupFault (documents : List Text) (directory : Text) (world : World) : Fault → Prop where
  | document {fault : Fault} (faulty : Documents.Faulty documents world.files world.here fault) :
      SetupFault documents directory world fault
  | missingDirectory (absent : world.files.isDirectory world.here directory = false) :
      SetupFault documents directory world (.missingOutputDirectory directory)

/-- How writing a report can go wrong, from one file tree to another: the stylesheet cannot be
written and nothing is, or it is there and the page cannot be. -/
inductive WriteFault (directory : Text) (report : List History) (here : Location)
    (tree : FileTree) : FileTree → Fault → Prop where
  | stylesheet {cause : IoFault}
      (unwritten : tree.writeText here (Path.join directory History.stylesheetName)
        History.stylesheet = .error cause) :
      WriteFault directory report here tree tree (.io cause)
  | page {next : FileTree} {cause : IoFault}
      (written : tree.writeText here (Path.join directory History.stylesheetName)
        History.stylesheet = .ok next)
      (unwritten : next.writeText here (Path.join directory History.pageName)
        (History.page report) = .error cause) :
      WriteFault directory report here tree next (.io cause)

theorem requireDirectory_apply (path : Text) (world : World) :
    requireDirectory path world =
      (if world.files.isDirectory world.here path then .ok ()
        else .error (.missingOutputDirectory path), world) := by
  unfold requireDirectory
  rw [Run.bind_apply, Run.isDirectory, Run.ask]
  cases world.files.isDirectory world.here path <;> rfl

theorem of_requireDirectory_eq_ok {path : Text}
    (h : requireDirectory path world = (.ok (), after)) : after = world := by
  rw [requireDirectory_apply] at h
  split at h
  · cases h
    rfl
  · cases h

theorem publish_apply (path text : Text) (world : World) :
    publish path text world =
      match world.files.writeText world.here path text with
      | .ok files => (.ok (), { world with files, log := world.log ++ [.wrote path] })
      | .error cause => (.error (.io cause), world) := by
  unfold publish
  rw [Run.bind_apply, Run.writeText]
  cases world.files.writeText world.here path text <;> rfl

variable {directory : Text}

/-- The page template fits every report, so what is left to go wrong are the files. -/
theorem write_eq (directory : Text) (report : List History) :
    write directory report = (do
      requireDirectory directory
      publish (Path.join directory History.stylesheetName) History.stylesheet
      publish (Path.join directory History.pageName) (History.page report)
      pure (Path.join directory History.pageName,
        Path.join directory History.stylesheetName)) := by
  unfold write
  rw [History.page?_eq]

/-- Writing a report into a directory that is there ends with a fault only at one of the files. -/
theorem writeFault_of_write {report : List History}
    (there : world.files.isDirectory world.here directory = true)
    (h : write directory report world = (.error fault, after)) :
    WriteFault directory report world.here world.files after.files fault := by
  rw [write_eq, Run.bind_apply, requireDirectory_apply, if_pos there] at h
  dsimp only at h
  rw [Run.bind_apply, publish_apply] at h
  cases hstyle : world.files.writeText world.here (Path.join directory History.stylesheetName)
      History.stylesheet with
  | error cause =>
    rw [hstyle] at h
    cases h
    exact .stylesheet hstyle
  | ok next =>
    rw [hstyle] at h
    dsimp only at h
    rw [Run.bind_apply, publish_apply] at h
    dsimp only at h
    cases hpage : next.writeText world.here (Path.join directory History.pageName)
        (History.page report) with
    | ok last =>
      rw [hpage] at h
      cases h
    | error cause =>
      rw [hpage] at h
      cases h
      exact .page hstyle hpage

/-- A publication that ends with a fault has found something wrong and changed no file, or it has
read its documents and could not write one of its files. -/
theorem fault_of_publishDocuments {compare : Text → Text → Text}
    (h : publishDocuments documents directory compare world = (.error fault, after)) :
    (SetupFault documents directory world fault ∧ after.files = world.files) ∨
      (∀ other, ¬ SetupFault documents directory world other) ∧
        ∃ report, WriteFault directory report world.here world.files after.files fault := by
  unfold publishDocuments at h
  rcases Run.error_of_bind h with hresolve | ⟨paths, found, hresolve, hrequiring⟩
  · have hkept := Documents.resolveAll_keepsFiles documents world
    rw [hresolve] at hkept
    exact Or.inl ⟨.document (Documents.faulty_of_resolveAll hresolve), hkept.1⟩
  obtain ⟨hfound, rfl⟩ := Documents.of_resolveAll_eq_ok hresolve
  rw [Run.bind_apply, requireDirectory_apply] at hrequiring
  by_cases hthere : found.files.isDirectory found.here directory = true
  · rw [if_pos hthere] at hrequiring
    dsimp only at hrequiring
    have hkept := Documents.extract_keepsFiles .none paths found
    rcases Run.error_of_bind hrequiring with hextract | ⟨extraction, read, hextract, hwriting⟩
    · rw [hextract] at hkept
      exact Or.inl ⟨.document (Documents.faulty_of_extract hfound hextract), hkept.1⟩
    rw [hextract] at hkept
    obtain ⟨hfiles, hhere⟩ : read.files = found.files ∧ read.here = found.here := hkept
    refine Or.inr ⟨?_, History.report compare extraction.fragments, ?_⟩
    · intro other hother
      cases hother with
      | document faulty =>
        exact Documents.not_faulty_of_extract hfound hextract other faulty
      | missingDirectory absent =>
        rw [absent] at hthere
        cases hthere
    · -- the directory is asked for once more, and the files have not changed since
      rcases Run.error_of_bind hwriting with hwrite | ⟨paths, last, -, hlast⟩
      · rw [← hfiles, ← hhere] at hthere ⊢
        exact writeFault_of_write hthere hwrite
      · cases hlast
  · rw [if_neg hthere] at hrequiring
    cases hrequiring
    exact Or.inl ⟨.missingDirectory (by simpa using hthere), rfl⟩

end Publication

end Tangle
