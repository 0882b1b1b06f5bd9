import Mathlib.Data.List.Find
import Tangle.Documents
import Tangle.Proofs.Duplicates
import Tangle.Proofs.FileTree
import Tangle.Proofs.Run

/-!
# Finding and reading documents

A run finds all of its documents before it reads the first one, and all of this leaves the files
alone. What it comes to depends only on the files at the spellings of the documents, and two things
can be wrong with them: a document is not there, or it is no text.
-/

namespace Tangle

namespace Documents

/-! ## Finding documents -/

/-- A path with the extension of documents, which is added unless it is there. -/
def withExtension (path : Text) : Text :=
  if Path.extension? path = some extension then path else path ++ '.' :: extension

/-- The paths that a document can be found at. -/
def spellings (path : Text) : List Text := [path, withExtension path]

/-- The path that a document is found at: the first of its spellings that leads to a file. -/
def foundAt? (tree : FileTree) (here : Location) (path : Text) : Option Text :=
  (spellings path).find? (tree.isFile here)

variable {tree : FileTree} {here : Location} {path found : Text}

/-- A path that leads to a file is that of the document. -/
theorem foundAt?_of_isFile (h : tree.isFile here path = true) :
    foundAt? tree here path = some path :=
  List.find?_cons_of_pos h

/-- What is found is a file. -/
theorem of_foundAt? (h : foundAt? tree here path = some found) :
    found ∈ spellings path ∧ tree.isFile here found = true :=
  ⟨List.mem_of_find?_eq_some h, List.find?_some h⟩

/-- Finding a document changes nothing. -/
theorem resolve_apply (path : Text) (world : World) :
    resolve path world =
      (match foundAt? world.files world.here path with
        | some found => .ok found
        | none => .error (.missingDocument (withExtension path)), world) := by
  unfold resolve
  rw [Run.bind_apply, Run.isFile, Run.ask, foundAt?, spellings, List.find?_cons, List.find?_cons,
    List.find?_nil]
  dsimp only
  cases world.files.isFile world.here path with
  | true => rfl
  | false =>
    -- the second spelling is tried
    show (Run.isFile (withExtension path) >>= fun isThere =>
      if isThere then pure (withExtension path)
      else Run.fail (.missingDocument (withExtension path)) : Run Text) world = _
    rw [Run.bind_apply, Run.isFile, Run.ask]
    cases world.files.isFile world.here (withExtension path) <;> rfl

variable {documents paths : List Text} {world after : World}

/-- Documents that are all found are found without a change. -/
theorem resolveAll_eq_ok
    (all_found : documents.map (foundAt? world.files world.here) = paths.map some) :
    resolveAll documents world = (.ok paths, world) := by
  rw [resolveAll]
  induction documents generalizing paths with
  | nil =>
    obtain rfl : paths = [] := by simpa using all_found.symm
    rfl
  | cons document more ih =>
    cases paths with
    | nil => cases all_found
    | cons path rest =>
      obtain ⟨hfirst, hmore⟩ := List.cons.inj all_found
      rw [List.mapM_cons, Run.bind_apply, resolve_apply, hfirst]
      dsimp only
      rw [Run.bind_apply, ih hmore]
      rfl

theorem resolveAll_of_isFile (h : ∀ path ∈ paths, world.files.isFile world.here path = true) :
    resolveAll paths world = (.ok paths, world) :=
  resolveAll_eq_ok <| List.map_congr_left fun path hpath => foundAt?_of_isFile (h path hpath)

/-- Documents that are all found are found at the paths that result. -/
theorem of_resolveAll_eq_ok (h : resolveAll documents world = (.ok paths, after)) :
    documents.map (foundAt? world.files world.here) = paths.map some ∧ after = world := by
  rw [resolveAll] at h
  induction documents generalizing paths with
  | nil =>
    rw [List.mapM_nil] at h
    cases h
    exact ⟨rfl, rfl⟩
  | cons path more ih =>
    rw [List.mapM_cons] at h
    obtain ⟨first, between, hfirst, hmore⟩ := Run.ok_of_bind h
    obtain ⟨rest, last, hrest, hlast⟩ := Run.ok_of_bind hmore
    cases hlast
    rw [resolve_apply] at hfirst
    cases hfound : foundAt? world.files world.here path with
    | none =>
      rw [hfound] at hfirst
      cases hfirst
    | some found =>
      rw [hfound] at hfirst
      cases hfirst
      obtain ⟨hpaths, rfl⟩ := ih hrest
      rw [List.map_cons, List.map_cons, hfound, hpaths]
      exact ⟨rfl, rfl⟩

section Found

variable (all_found : documents.map (foundAt? tree here) = paths.map some)

include all_found

theorem exists_document (hpath : path ∈ paths) :
    ∃ document ∈ documents, foundAt? tree here document = some path := by
  have hmem := List.mem_map_of_mem (f := some) hpath
  rw [← all_found] at hmem
  exact List.mem_map.mp hmem

theorem exists_path {document : Text} (hdocument : document ∈ documents) :
    ∃ path ∈ paths, foundAt? tree here document = some path := by
  have hmem := List.mem_map_of_mem (f := foundAt? tree here) hdocument
  rw [all_found] at hmem
  obtain ⟨path, hpath, hsome⟩ := List.mem_map.mp hmem
  exact ⟨path, hpath, hsome.symm⟩

/-- Paths at which documents were found lead to them once more. -/
theorem map_foundAt?_of_found : paths.map (foundAt? tree here) = paths.map some := by
  apply List.map_congr_left
  intro path hpath
  obtain ⟨document, -, hdocument⟩ := exists_document all_found hpath
  exact foundAt?_of_isFile (of_foundAt? hdocument).2

end Found

theorem resolve_keepsFiles (path : Text) : Run.KeepsFiles (resolve path) := by
  intro world
  rw [resolve_apply]
  exact ⟨rfl, rfl⟩

theorem resolveAll_keepsFiles (paths : List Text) : Run.KeepsFiles (resolveAll paths) :=
  .mapM resolve_keepsFiles paths

/-! ## Reading documents -/

/-- The diagnostics of a document are those raised while it is read. -/
theorem read_eq (filter : LineFilter) (path : Text) :
    read filter path = (do
      let content ← Run.readText path
      Run.raiseAll (Tangle.extract filter.excludes path content).diagnostics
      pure (Tangle.extract filter.excludes path content)) := by
  unfold read
  simp only [Reporting.extract_eq, Run.forM_raise]

/-- Fragments with the same key are raised once all documents have been read, and so is the absence
of fragments. -/
theorem extract_eq (filter : LineFilter) (paths : List Text) :
    extract filter paths = (do
      let found ← resolveAll paths
      let read ← found.mapM (read filter)
      let pruned := prune (read.flatMap Extraction.fragments)
      Run.raiseAll pruned.diagnostics
      Run.raiseAll (emptiness pruned.fragments)
      pure {
        fragments := pruned.fragments
        diagnostics := read.flatMap Extraction.diagnostics ++ pruned.diagnostics ++
          emptiness pruned.fragments }) := by
  unfold extract
  simp only [Reporting.prune_eq, Run.forM_raise, bind_assoc, pure_bind]

/-- Reading a document ends as reading its text does. -/
theorem read_apply (filter : LineFilter) (path : Text) (world : World) :
    (read filter path world).1 =
      match world.files.readText world.here path with
      | .ok content => .ok (Tangle.extract filter.excludes path content)
      | .error cause => .error (.io cause) := by
  rw [read_eq, Run.bind_apply, Run.readText]
  cases world.files.readText world.here path <;> rfl

/-- The fragments of the document at a path. A file that is no text has none. -/
def fragmentsAt (filter : LineFilter) (tree : FileTree) (here : Location) (path : Text) :
    List Fragment :=
  match tree.readText here path with
  | .ok content => (Tangle.extract filter.excludes path content).fragments
  | .error _ => []

/-- The fragments of a document. One that is not there has none. -/
def fragmentsOf (filter : LineFilter) (tree : FileTree) (here : Location) (path : Text) :
    List Fragment :=
  (foundAt? tree here path).elim [] (fragmentsAt filter tree here)

/-- The diagnostics of the document at a path. A file that is no text has none. -/
def diagnosticsAt (filter : LineFilter) (tree : FileTree) (here : Location) (path : Text) :
    List Diagnostic :=
  match tree.readText here path with
  | .ok content => (Tangle.extract filter.excludes path content).diagnostics
  | .error _ => []

theorem read_keepsFiles (filter : LineFilter) (path : Text) : Run.KeepsFiles (read filter path) := by
  rw [read_eq]
  exact .bind (.readText _) fun _ => .bind (.raiseAll _) fun _ => .pure _

theorem extract_keepsFiles (filter : LineFilter) (paths : List Text) :
    Run.KeepsFiles (extract filter paths) := by
  rw [extract_eq]
  exact .bind (resolveAll_keepsFiles _) fun paths => .bind (.mapM (read_keepsFiles _) paths) fun _ =>
    .bind (.raiseAll _) fun _ => .bind (.raiseAll _) fun _ => .pure _

/-! ## What documents yield -/

/-- A path leads to a text. -/
def HasText (tree : FileTree) (here : Location) (path : Text) : Prop :=
  ∃ content, tree.readText here path = .ok content

/-- A document that is found and is a text. -/
def Readable (tree : FileTree) (here : Location) (document : Text) : Prop :=
  ∃ path, foundAt? tree here document = some path ∧ HasText tree here path

theorem exists_paths_of_readable {documents : List Text}
    (readable : ∀ document ∈ documents, Readable tree here document) :
    ∃ paths : List Text, documents.map (foundAt? tree here) = paths.map some ∧
      ∀ path ∈ paths, HasText tree here path := by
  induction documents with
  | nil => exact ⟨[], rfl, by simp⟩
  | cons document more ih =>
    obtain ⟨path, hfound, htext⟩ := readable document List.mem_cons_self
    obtain ⟨paths, hpaths, htexts⟩ := ih fun d hd => readable d (List.mem_cons_of_mem _ hd)
    refine ⟨path :: paths, ?_, List.forall_mem_cons.mpr ⟨htext, htexts⟩⟩
    rw [List.map_cons, List.map_cons, hfound, hpaths]

/-- The fragments of the documents at some paths, those with the same key among them. -/
def allFragments (filter : LineFilter) (tree : FileTree) (here : Location) (paths : List Text) :
    List Fragment :=
  paths.flatMap (fragmentsAt filter tree here)

/-- What the documents at some paths yield together. -/
def gather (filter : LineFilter) (tree : FileTree) (here : Location) (paths : List Text) :
    Extraction :=
  let pruned := prune (allFragments filter tree here paths)
  { fragments := pruned.fragments
    diagnostics := paths.flatMap (diagnosticsAt filter tree here) ++ pruned.diagnostics ++
      emptiness pruned.fragments }

/-- A text that is read as a document is reported on. -/
theorem read_eq_ok (filter : LineFilter) (h : HasText world.files world.here path) :
    read filter path world =
      (.ok ⟨fragmentsAt filter world.files world.here path,
          diagnosticsAt filter world.files world.here path⟩,
        { world with log := world.log ++
            (diagnosticsAt filter world.files world.here path).map .raised }) := by
  obtain ⟨content, hcontent⟩ := h
  unfold fragmentsAt diagnosticsAt
  rw [read_eq, Run.bind_apply, Run.readText, hcontent]
  rfl

/-- Documents are reported on one after another. -/
theorem readAll_eq_ok (filter : LineFilter)
    (texts : ∀ path ∈ paths, HasText world.files world.here path) :
    paths.mapM (read filter) world =
      (.ok (paths.map fun path => ⟨fragmentsAt filter world.files world.here path,
          diagnosticsAt filter world.files world.here path⟩),
        { world with log := world.log ++
            (paths.flatMap (diagnosticsAt filter world.files world.here)).map .raised }) := by
  -- the log grows with each document, while the files stay
  induction paths generalizing world with
  | nil => simp [Run.pure_apply]
  | cons path more ih =>
    have hfirst := read_eq_ok filter (texts path List.mem_cons_self)
    have hmore := @ih { world with log := world.log ++
      (diagnosticsAt filter world.files world.here path).map .raised }
      fun other hother => texts other (List.mem_cons_of_mem _ hother)
    rw [List.mapM_cons, Run.bind_apply, hfirst]
    dsimp only
    rw [Run.bind_apply, hmore]
    simp [Run.pure_apply]

section Yield

variable {filter : LineFilter}
  (all_found : documents.map (foundAt? world.files world.here) = paths.map some)

include all_found

/-- Documents that are found and that are texts yield what they yield together, and each diagnostic
of the result is raised, in order. -/
theorem extract_eq_ok (texts : ∀ path ∈ paths, HasText world.files world.here path) :
    extract filter documents world =
      (.ok (gather filter world.files world.here paths),
        { world with log := world.log ++
            (gather filter world.files world.here paths).diagnostics.map .raised }) := by
  rw [extract_eq, Run.bind_apply, resolveAll_eq_ok all_found]
  dsimp only
  rw [Run.bind_apply, readAll_eq_ok filter texts]
  dsimp only
  -- what is left to do reports the duplicates and the absence of fragments
  rw [List.flatMap_map, List.flatMap_map, Run.bind_apply, Run.raiseAll_apply]
  dsimp only
  rw [Run.bind_apply, Run.raiseAll_apply]
  simp [gather, allFragments, Run.pure_apply]

/-- Documents that are read to the end are all texts. -/
theorem hasText_of_extract {extraction : Extraction}
    (h : extract filter documents world = (.ok extraction, after)) :
    ∀ path ∈ paths, HasText world.files world.here path := by
  rw [extract_eq, Run.bind_apply, resolveAll_eq_ok all_found] at h
  dsimp only at h
  obtain ⟨extractions, between, hread, -⟩ := Run.ok_of_bind h
  intro path hpath
  -- the path was read, and that from the same files
  obtain ⟨own, start, last, hfiles, hhere, hown⟩ :=
    Run.KeepsFiles.of_mapM_eq_ok (read_keepsFiles filter) hread path hpath
  have hresult := read_apply filter path start
  rw [hown, hfiles, hhere] at hresult
  cases htext : world.files.readText world.here path with
  | ok content => exact ⟨content, htext⟩
  | error cause =>
    rw [htext] at hresult
    cases hresult

end Yield

/-- **What a run on documents comes to**, if it comes to an end: every document was found, every one
was a text, and the log has grown by the diagnostics of the result. -/
theorem of_extract_eq_ok {filter : LineFilter} {extraction : Extraction}
    (h : extract filter documents world = (.ok extraction, after)) :
    ∃ paths, documents.map (foundAt? world.files world.here) = paths.map some ∧
      (∀ path ∈ paths, HasText world.files world.here path) ∧
      extraction = gather filter world.files world.here paths ∧
      after = { world with log := world.log ++ extraction.diagnostics.map .raised } := by
  obtain ⟨paths, between, hresolve, -⟩ := Run.ok_of_bind h
  obtain ⟨hfound, -⟩ := of_resolveAll_eq_ok hresolve
  have htexts := hasText_of_extract hfound h
  rw [extract_eq_ok hfound htexts] at h
  cases h
  exact ⟨paths, hfound, htexts, rfl, rfl⟩

/-! ## What can be wrong -/

/-- What can be wrong with documents: one of them is not there, or is no text. -/
inductive Faulty (documents : List Text) (tree : FileTree) (here : Location) : Fault → Prop where
  /-- No spelling of a document leads to a file. -/
  | missing {path : Text} (mem : path ∈ documents) (absent : foundAt? tree here path = none) :
      Faulty documents tree here (.missingDocument (withExtension path))
  /-- The file of a document cannot be read. -/
  | unreadable {path found : Text} {cause : IoFault} (mem : path ∈ documents)
      (present : foundAt? tree here path = some found)
      (unread : tree.readText here found = .error cause) :
      Faulty documents tree here (.io cause)

theorem faulty_of_resolveAll {fault : Fault}
    (h : resolveAll documents world = (.error fault, after)) :
    Faulty documents world.files world.here fault := by
  obtain ⟨path, hmem, between, last, hfiles, hhere, hfault⟩ :=
    Run.KeepsFiles.exists_of_mapM_eq_error resolve_keepsFiles h
  rw [resolve_apply, hfiles, hhere] at hfault
  cases hfound : foundAt? world.files world.here path with
  | some found =>
    rw [hfound] at hfault
    cases hfault
  | none =>
    rw [hfound] at hfault
    cases hfault
    exact .missing hmem hfound

section Extract

variable {filter : LineFilter}
  (all_found : documents.map (foundAt? world.files world.here) = paths.map some)

include all_found

/-- Reading documents that were found ends with a fault only if one of them is no text. -/
theorem faulty_of_extract {fault : Fault} (h : extract filter paths world = (.error fault, after)) :
    Faulty documents world.files world.here fault := by
  rw [extract_eq, Run.bind_apply, resolveAll_eq_ok (map_foundAt?_of_found all_found)] at h
  dsimp only at h
  rcases Run.error_of_bind h with hread | ⟨read, between, -, hrest⟩
  · obtain ⟨path, hpath, start, last, hfiles, hhere, hfault⟩ :=
      Run.KeepsFiles.exists_of_mapM_eq_error (read_keepsFiles filter) hread
    obtain ⟨document, hdocument, hfound⟩ := exists_document all_found hpath
    have hresult := read_apply filter path start
    rw [hfault, hfiles, hhere] at hresult
    cases htext : world.files.readText world.here path with
    | ok content =>
      rw [htext] at hresult
      cases hresult
    | error cause =>
      rw [htext] at hresult
      cases hresult
      exact .unreadable hdocument hfound htext
  · -- what is left to do only reports
    cases hrest

theorem not_faulty_of_extract {extraction : Extraction}
    (h : extract filter paths world = (.ok extraction, after)) (fault : Fault) :
    ¬ Faulty documents world.files world.here fault := by
  have htexts := hasText_of_extract (map_foundAt?_of_found all_found) h
  intro hfaulty
  cases hfaulty with
  | missing hmem habsent =>
    obtain ⟨path, -, hpath⟩ := exists_path all_found hmem
    rw [habsent] at hpath
    cases hpath
  | @unreadable document path cause hmem hpresent hunread =>
    obtain ⟨other, hpath, hsome⟩ := exists_path all_found hmem
    obtain rfl : path = other := Option.some.inj (hpresent.symm.trans hsome)
    obtain ⟨content, hcontent⟩ := htexts path hpath
    rw [hunread] at hcontent
    cases hcontent

/-- What documents yield are their fragments one after another, without duplicates. -/
theorem fragments_of_extract {extraction : Extraction}
    (h : extract filter paths world = (.ok extraction, after)) :
    extraction.fragments =
      (prune (documents.flatMap (fragmentsOf filter world.files world.here))).fragments := by
  have hagain := map_foundAt?_of_found all_found
  rw [extract_eq_ok hagain (hasText_of_extract hagain h)] at h
  cases h
  have hdocuments : documents.flatMap (fragmentsOf filter world.files world.here) =
      paths.flatMap (fragmentsAt filter world.files world.here) := by
    calc documents.flatMap (fragmentsOf filter world.files world.here)
      _ = (documents.map (foundAt? world.files world.here)).flatMap fun found? =>
          found?.elim [] (fragmentsAt filter world.files world.here) := by
        rw [List.flatMap_map]
        rfl
      _ = paths.flatMap (fragmentsAt filter world.files world.here) := by
        rw [all_found, List.flatMap_map]
        rfl
  rw [hdocuments]
  rfl

end Extract

/-! ## Trees with the same documents -/

section Alike

variable {other : FileTree}

/-- Two trees with the same files at the spellings of a document find the same one. -/
theorem resolve_alike (h : ∀ spelling ∈ spellings path, tree.SameFileAt other here spelling) :
    Run.Alike here tree other (resolve path) := by
  rintro world world' rfl rfl rfl hhere
  have hfound : foundAt? world'.files world.here path = foundAt? world.files world.here path :=
    List.find?_congr fun spelling hspelling => (h spelling hspelling).isFile_eq
  rw [resolve_apply, resolve_apply, hhere, hfound]

theorem resolveAll_alike
    (h : ∀ path ∈ paths, ∀ spelling ∈ spellings path, tree.SameFileAt other here spelling) :
    Run.Alike here tree other (resolveAll paths) :=
  .mapM resolve_keepsFiles fun path hpath => resolve_alike (h path hpath)

theorem read_alike (filter : LineFilter) (hfile : tree.isFile here path = true)
    (hsame : tree.SameFileAt other here path) : Run.Alike here tree other (read filter path) := by
  rw [read_eq]
  exact .bind (.readText _) (.readText (hsame.readText_eq hfile)) fun _ _ _ _ _ _ =>
    .bind (.raiseAll _) (.raiseAll _) fun _ _ _ _ _ _ => .pure _

/-- Documents that are found once are found again, and have the same fragments in two trees with the
same files there. -/
theorem extract_alike (filter : LineFilter)
    (h : ∀ path ∈ paths, tree.isFile here path = true ∧ tree.SameFileAt other here path) :
    Run.Alike here tree other (extract filter paths) := by
  have hresolve : Run.Alike here tree other (resolveAll paths) := by
    rintro world world' rfl rfl rfl hhere
    have hthere : ∀ path ∈ paths, world'.files.isFile world'.here path = true := by
      intro path hpath
      obtain ⟨hfile, hsame⟩ := h path hpath
      rw [hhere, hsame.isFile_eq, hfile]
    rw [resolveAll_of_isFile fun path hpath => (h path hpath).1, resolveAll_of_isFile hthere]
  -- what is read next are the documents themselves, since each was found at its own path
  rw [extract_eq]
  refine .bind (resolveAll_keepsFiles _) hresolve fun all world after hfiles hhere hall => ?_
  have hsame : all = paths := by
    rw [resolveAll_of_isFile fun path hpath => by rw [hfiles, hhere, (h path hpath).1]] at hall
    cases hall
    rfl
  subst hsame
  dsimp only
  refine .bind (.mapM (read_keepsFiles _) _) (.mapM (read_keepsFiles _) fun path hpath =>
    read_alike filter (h path hpath).1 (h path hpath).2) fun _ _ _ _ _ _ => ?_
  exact .bind (.raiseAll _) (.raiseAll _) fun _ _ _ _ _ _ =>
    .bind (.raiseAll _) (.raiseAll _) fun _ _ _ _ _ _ => .pure _

end Alike

end Documents

end Tangle
