import Tangle.Proofs.Rendering.Deeds

/-!
# Faults of a rendering run

Whatever is wrong with the documents, the directory or the filter of a run is found before anything
is written. After that only a visit can fail: its template cannot be found, read or rendered, or its
output cannot be written. `fault_of_renderDocuments` says which of these a fault is, and what has
become of the files by then.
-/

namespace Tangle

variable {documents : List Text} {world after : World} {fault : Fault}

/-! ## Lookups -/

namespace TemplateDirectory

/-- What looking an identifier up comes to on a file tree: the path of a template file, or none. -/
def Finds (directory : TemplateDirectory) (identifier : Text) (tree : FileTree)
    (here : Location) (path : Option Text) : Prop :=
  ∃ names, directory.namesIn identifier tree here = .ok names ∧
    (directory.choose identifier names (tree.isFile here)).path = path

/-- A lookup comes to one thing only. -/
theorem Finds.unique {directory : TemplateDirectory} {identifier : Text} {tree : FileTree}
    {here : Location} {path path' : Option Text} (h : directory.Finds identifier tree here path)
    (h' : directory.Finds identifier tree here path') : path = path' := by
  obtain ⟨names, hnames, rfl⟩ := h
  obtain ⟨names', hnames', rfl⟩ := h'
  cases hnames.symm.trans hnames'
  rfl

theorem finds_of_resolve {directory : TemplateDirectory} {identifier : Text}
    {lookup : Lookup} (h : directory.resolve identifier world = (.ok lookup, after)) :
    directory.Finds identifier world.files world.here lookup.path := by
  obtain ⟨names, hnames, rfl⟩ := of_resolve_eq_ok h
  exact ⟨names, hnames, rfl⟩

end TemplateDirectory

namespace Rendering

/-! ## Faults of the preparation -/

/-- What can be wrong before a run renders: a document, the directory of templates, or a pattern of
the filter. -/
inductive SetupFault (documents : List Text) (root : Text) (settings : Settings) (world : World) :
    Fault → Prop where
  | document {fault : Fault} (faulty : Documents.Faulty documents world.files world.here fault) :
      SetupFault documents root settings world fault
  | missingDirectory (absent : world.files.has world.here root = false) :
      SetupFault documents root settings world (.missingTemplateDirectory root)
  /-- The directory has an extension, but not that of templates. -/
  | misnamedDirectory {extension : Text} (named : Path.extension? root = some extension)
      (other : extension ≠ settings.suffix) :
      SetupFault documents root settings world
        (.templateDirectoryExtension root settings.suffix)
  | faultyPattern {pattern : Text}
      (faulty : LineFilter.compile settings.patterns settings.annotations = .error pattern) :
      SetupFault documents root settings world (.filterPattern pattern)

section Setup

variable {root : Text} {settings : Settings}

theorem setupFault_of_openAt
    (h : TemplateDirectory.openAt root settings.suffix world = (.error fault, after)) :
    SetupFault documents root settings world fault := by
  rw [TemplateDirectory.openAt_apply] at h
  by_cases hhas : world.files.has world.here root = true
  · rw [if_pos hhas] at h
    cases hextension : Path.extension? root with
    | none =>
      rw [hextension] at h
      cases h
    | some extension =>
      rw [hextension] at h
      by_cases hsuffix : extension = settings.suffix
      · rw [if_pos (by simpa using hsuffix)] at h
        cases h
      · rw [if_neg (by simpa using hsuffix)] at h
        cases h
        exact .misnamedDirectory hextension hsuffix
  · rw [if_neg hhas] at h
    cases h
    exact .missingDirectory (by simpa using hhas)

theorem extension_of_openAt_eq_ok {directory : TemplateDirectory}
    (h : TemplateDirectory.openAt root settings.suffix world = (.ok directory, after))
    {extension : Text} (named : Path.extension? root = some extension) :
    extension = settings.suffix := by
  obtain ⟨-, hhas, -⟩ := TemplateDirectory.of_openAt_eq_ok h
  rw [TemplateDirectory.openAt_apply, if_pos hhas, named] at h
  by_contra hother
  rw [if_neg (by simpa using hother)] at h
  cases h

/-- A preparation ends with a fault only if something is wrong. -/
theorem setupFault_of_prepare
    (h : prepare documents root settings world = (.error fault, after)) :
    SetupFault documents root settings world fault := by
  unfold prepare at h
  rcases Run.error_of_bind h with hresolve | ⟨paths, found, hresolve, hopening⟩
  · exact .document (Documents.faulty_of_resolveAll hresolve)
  obtain ⟨hfound, rfl⟩ := Documents.of_resolveAll_eq_ok hresolve
  rcases Run.error_of_bind hopening with hopen | ⟨directory, opened, hopen, hfiltering⟩
  · exact setupFault_of_openAt hopen
  obtain ⟨-, -, rfl⟩ := TemplateDirectory.of_openAt_eq_ok hopen
  rw [Run.bind_apply, Settings.filter_apply] at hfiltering
  cases hcompile : LineFilter.compile settings.patterns settings.annotations with
  | error pattern =>
    rw [hcompile] at hfiltering
    cases hfiltering
    exact .faultyPattern hcompile
  | ok filter =>
    rw [hcompile] at hfiltering
    rcases Run.error_of_bind hfiltering with hextract | ⟨extraction, last, -, hlast⟩
    · exact .document (Documents.faulty_of_extract hfound hextract)
    · cases hlast

/-- A preparation that ends well shows that nothing is wrong. -/
theorem not_setupFault_of_prepare {prepared : TemplateDirectory × Extraction}
    (h : prepare documents root settings world = (.ok prepared, after)) (fault : Fault) :
    ¬ SetupFault documents root settings world fault := by
  unfold prepare at h
  obtain ⟨paths, found, hresolve, hopening⟩ := Run.ok_of_bind h
  obtain ⟨hfound, rfl⟩ := Documents.of_resolveAll_eq_ok hresolve
  obtain ⟨directory, opened, hopen, hfiltering⟩ := Run.ok_of_bind hopening
  obtain ⟨-, hhas, rfl⟩ := TemplateDirectory.of_openAt_eq_ok hopen
  rw [Run.bind_apply, Settings.filter_apply] at hfiltering
  cases hcompile : LineFilter.compile settings.patterns settings.annotations with
  | error pattern =>
    rw [hcompile] at hfiltering
    cases hfiltering
  | ok filter =>
    rw [hcompile] at hfiltering
    obtain ⟨extraction, last, hextract, -⟩ := Run.ok_of_bind hfiltering
    intro hfault
    cases hfault with
    | document faulty => exact Documents.not_faulty_of_extract hfound hextract fault faulty
    | missingDirectory absent =>
      rw [absent] at hhas
      cases hhas
    | misnamedDirectory named other => exact other (extension_of_openAt_eq_ok hopen named)
    | faultyPattern faulty =>
      rw [faulty] at hcompile
      cases hcompile

end Setup

/-! ## Visits that end well and visits that do not -/

section Visits

variable (directory : TemplateDirectory) (renderer : Renderer)

/-- Visits are made one after another, and all of them end well: a visit that finds no template
leaves the tree as it is, and any other one writes its whole output. -/
inductive Completed (here : Location) : List Visit → FileTree → FileTree → Prop where
  | nil {tree : FileTree} : Completed here [] tree tree
  | passed {visit : Visit} {more : List Visit} {tree after : FileTree}
      (absent : directory.Finds visit.identifier tree here none)
      (rest : Completed here more tree after) : Completed here (visit :: more) tree after
  | wrote {visit : Visit} {more : List Visit} {tree next after : FileTree} {path source text : Text}
      {file : TemplateFile} (found : directory.Finds visit.identifier tree here (some path))
      (named : TemplateFile.ofPath path directory.suffix = .ok file)
      (read : tree.readText here path = .ok source)
      (rendered : renderer visit.identifier source visit.scope = some text)
      (written : tree.writeText here (file.outputPath visit.version) (withFinalLineFeed text) =
        .ok next)
      (rest : Completed here more next after) : Completed here (visit :: more) tree after

/-- What can be wrong with a visit: its template cannot be looked up, has a faulty name, cannot be
read or cannot be rendered, or its output cannot be written. -/
inductive VisitFault (visit : Visit) (tree : FileTree) (here : Location) : Fault → Prop where
  /-- The identifier gives no pattern to search with. -/
  | unmatchable (faulty : Glob.read? (directory.searchPattern visit.identifier) = none) :
      VisitFault visit tree here (.templatePattern visit.identifier)
  /-- The names in the directory of templates cannot be listed. -/
  | unlistable {cause : IoFault} (unlisted : tree.fileNames here directory.root = .error cause) :
      VisitFault visit tree here (.io cause)
  | misnamed {path : Text} (found : directory.Finds visit.identifier tree here (some path))
      (faulty : TemplateFile.ofPath path directory.suffix =
        .error (.invalidTemplateExtension path directory.suffix)) :
      VisitFault visit tree here (.invalidTemplateExtension path directory.suffix)
  | unreadable {path : Text} {file : TemplateFile} {cause : IoFault}
      (found : directory.Finds visit.identifier tree here (some path))
      (named : TemplateFile.ofPath path directory.suffix = .ok file)
      (unread : tree.readText here path = .error cause) : VisitFault visit tree here (.io cause)
  | unrendered {path source : Text} {file : TemplateFile}
      (found : directory.Finds visit.identifier tree here (some path))
      (named : TemplateFile.ofPath path directory.suffix = .ok file)
      (read : tree.readText here path = .ok source)
      (faulty : renderer visit.identifier source visit.scope = none) :
      VisitFault visit tree here (.templateRender visit.identifier)
  | unwritable {path source text : Text} {file : TemplateFile} {cause : IoFault}
      (found : directory.Finds visit.identifier tree here (some path))
      (named : TemplateFile.ofPath path directory.suffix = .ok file)
      (read : tree.readText here path = .ok source)
      (rendered : renderer visit.identifier source visit.scope = some text)
      (unwritten : tree.writeText here (file.outputPath visit.version) (withFinalLineFeed text) =
        .error cause) :
      VisitFault visit tree here (.io cause)

variable {directory renderer} {visit : Visit} {tree : FileTree} {here : Location}

theorem visitFault_of_namesIn (h : directory.namesIn visit.identifier tree here = .error fault) :
    VisitFault directory renderer visit tree here fault := by
  unfold TemplateDirectory.namesIn at h
  split at h
  · -- an exact name is not searched for
    cases h
  cases hglob : Glob.read? (directory.searchPattern visit.identifier) with
  | none =>
    rw [hglob] at h
    cases h
    exact .unmatchable hglob
  | some glob =>
    rw [hglob] at h
    dsimp only at h
    cases hlisted : tree.fileNames here directory.root with
    | ok names =>
      rw [hlisted] at h
      cases h
    | error cause =>
      rw [hlisted] at h
      cases h
      exact .unlistable hlisted

theorem visitFault_of_draft {path : Text}
    (found : directory.Finds visit.identifier tree here (some path))
    (h : visit.draft directory renderer tree here path = .error fault) :
    VisitFault directory renderer visit tree here fault := by
  unfold Visit.draft at h
  -- each step of the draft that can fail is one kind of fault
  cases hfile : TemplateFile.ofPath path directory.suffix with
  | error other =>
    rw [hfile] at h
    cases h
    -- only one fault can come from the name of a file
    have hother : fault = .invalidTemplateExtension path directory.suffix := by
      unfold TemplateFile.ofPath at hfile
      split at hfile
      · cases hfile
      · cases hfile
        rfl
    subst hother
    exact .misnamed found hfile
  | ok file =>
    rw [hfile] at h
    dsimp only at h
    cases hread : tree.readText here path with
    | error cause =>
      rw [hread] at h
      cases h
      exact .unreadable found hfile hread
    | ok source =>
      rw [hread] at h
      dsimp only at h
      cases hrender : renderer visit.identifier source visit.scope with
      | none =>
        rw [hrender] at h
        cases h
        exact .unrendered found hfile hread hrender
      | some text =>
        rw [hrender] at h
        dsimp only at h
        cases hplace : tree.destination here (file.outputPath visit.version) with
        | ok location =>
          rw [hplace] at h
          cases h
        | error cause =>
          rw [hplace] at h
          cases h
          -- a text can be written where the place for it can be found
          refine .unwritable found hfile hread hrender ?_
          rw [FileTree.writeText_eq_map, hplace]
          rfl

theorem visitFault_of_deed (h : (visit.deed directory renderer tree here).ending = .error fault) :
    VisitFault directory renderer visit tree here fault := by
  unfold Visit.deed at h
  cases hnames : directory.namesIn visit.identifier tree here with
  | error other =>
    rw [hnames] at h
    cases h
    exact visitFault_of_namesIn hnames
  | ok names =>
    rw [hnames] at h
    dsimp only at h
    cases hpath : (directory.choose visit.identifier names (tree.isFile here)).path with
    | none =>
      rw [hpath] at h
      cases h
    | some path =>
      rw [hpath] at h
      dsimp only at h
      cases hdraft : visit.draft directory renderer tree here path with
      | ok drafted =>
        rw [hdraft] at h
        cases h
      | error other =>
        rw [hdraft] at h
        cases h
        exact visitFault_of_draft ⟨names, hnames, hpath⟩ hdraft

/-- A visit that ends well completes itself in front of those that are completed after it. -/
theorem Completed.of_render {result : Rendering} {more : List Visit} {last : FileTree}
    (h : visit.render directory renderer world = (.ok result, after))
    (rest : Completed directory renderer world.here more after.files last) :
    Completed directory renderer world.here (visit :: more) world.files last := by
  have hstep := visitStep directory renderer visit world
  rw [h] at hstep
  cases hstep with
  | passed resolved absent kept =>
    have hfinds := TemplateDirectory.finds_of_resolve resolved
    rw [absent] at hfinds
    rw [kept.1] at rest
    exact .passed hfinds rest
  | wrote resolved present named read rendered written kept =>
    have hfinds := TemplateDirectory.finds_of_resolve resolved
    rw [present] at hfinds
    rw [(TemplateFile.of_ofPath_eq_ok named).1] at read
    exact .wrote hfinds named read rendered written rest

/-- A tour that ends with a fault has it from one of its visits. Those before it are completed, and
the visit itself has changed no file. -/
theorem exists_visitFault_of_follow {visits : List Visit}
    (h : follow directory renderer visits world = (.error fault, after)) :
    ∃ made visit left, visits = made ++ visit :: left ∧
      Completed directory renderer world.here made world.files after.files ∧
      VisitFault directory renderer visit after.files world.here fault := by
  -- the world is generalized, since the later visits begin where the first one ends
  induction visits generalizing world with
  | nil => cases h
  | cons visit more ih =>
    rcases Run.error_of_bind h with hfirst | ⟨result, between, hfirst, h⟩
    · -- the first visit has the fault
      have hstep := visitStep directory renderer visit world
      rw [hfirst] at hstep
      have hdeed := render_apply directory renderer visit world
      rw [hfirst] at hdeed
      cases hstep with
      | failed kept =>
        refine ⟨[], visit, more, rfl, ?_, ?_⟩
        · rw [kept.1]
          exact .nil
        · rw [kept.1]
          exact visitFault_of_deed (Prod.mk.inj hdeed).1.symm
    · -- one of the later visits has it
      rcases Run.error_of_bind h with hmore | ⟨rest, last, -, hlast⟩
      · have hhere := (outcome_of_render directory renderer hfirst).1
        obtain ⟨made, later, left, rfl, hcompleted, hfault⟩ := ih hmore
        rw [hhere] at hcompleted hfault
        exact ⟨visit :: made, later, left, rfl, hcompleted.of_render hfirst, hfault⟩
      · cases hlast

end Visits

/-! ## Runs -/

/-- A rendering run that ends with a fault has found something wrong and changed no file, or it has
found nothing and one of its visits has the fault. -/
theorem fault_of_renderDocuments {root : Text} {settings : Settings} {renderer : Renderer}
    (h : renderDocuments documents root settings renderer world = (.error fault, after)) :
    (SetupFault documents root settings world fault ∧ after.files = world.files) ∨
      (∀ other, ¬ SetupFault documents root settings world other) ∧
        ∃ extraction made visit left,
          (Command.extractDocuments documents settings world).1 = .ok extraction ∧
          tour extraction.fragments = made ++ visit :: left ∧
          Completed ⟨root, settings.suffix⟩ renderer world.here made world.files after.files ∧
          VisitFault ⟨root, settings.suffix⟩ renderer visit after.files world.here fault := by
  rw [renderDocuments_eq_prepare] at h
  have hkept := prepare_keepsFiles documents root settings world
  rcases Run.error_of_bind h with hprepare | ⟨⟨directory, extraction⟩, ready, hprepare, hrendering⟩
  · rw [hprepare] at hkept
    exact Or.inl ⟨setupFault_of_prepare hprepare, hkept.1⟩
  rw [hprepare] at hkept
  obtain ⟨hfiles, hhere⟩ : ready.files = world.files ∧ ready.here = world.here := hkept
  obtain ⟨rfl, -, hextract⟩ := of_prepare_eq_ok hprepare
  refine Or.inr ⟨not_setupFault_of_prepare hprepare, ?_⟩
  dsimp only at hrendering
  -- the fault comes from the tour, since nothing after it can fail
  rcases Run.error_of_bind hrendering with hrender | ⟨result, last, -, hdone⟩
  · rw [renderFragments_eq_follow] at hrender
    rcases Run.error_of_bind hrender with hfollow | ⟨result, last, -, hlast⟩
    · obtain ⟨made, visit, left, htour, hcompleted, hfault⟩ := exists_visitFault_of_follow hfollow
      rw [hfiles, hhere] at hcompleted
      rw [hhere] at hfault
      exact ⟨extraction, made, visit, left, hextract, htour, hcompleted, hfault⟩
    · cases hlast
  · rcases Run.error_of_bind hdone with hreport | ⟨_, last, -, hlast⟩
    · cases hreport
    · cases hlast

end Rendering

end Tangle
