import Tangle.Proofs.Preparation
import Tangle.Proofs.Rendering.Stops

/-!
# The deeds of a rendering run

A visit looks at the file tree in three ways: it asks for the names that its identifier can stand
for, for the template file that the first of them leads to, and for the place of the output. What it
comes to is its deed, told without a world: how the visit ends, what it reports, and the text that
it puts somewhere. The deeds of a tour are read off its legs, and a run is nothing but these deeds.
So two file trees on which all of them are the same cannot be told apart by the run, and it makes
the same edits on both.
-/

namespace Tangle

namespace Rendering

/-! ## Deeds -/

/-- What a visit comes to. -/
structure Deed where
  ending : Except Fault Rendering
  events : List Event
  /-- The texts that are put somewhere: one for a file that is written, and else none. -/
  edits : List (Location × Text) := []

/-- The files that a deed tells of. -/
def Deed.written (deed : Deed) : List Rendered :=
  match deed.ending with
  | .ok result => result.written
  | .error _ => []

variable (directory : TemplateDirectory) (renderer : Renderer)

/-- What a visit writes for the template file at a path: the path of the output, the location where
that leads to, and the text. -/
def Visit.draft (visit : Visit) (tree : FileTree) (here : Location) (path : Text) :
    Except Fault (Text × Location × Text) :=
  match TemplateFile.ofPath path directory.suffix with
  | .error fault => .error fault
  | .ok file =>
    match tree.readText here path with
    | .error cause => .error (.io cause)
    | .ok source =>
      match renderer visit.identifier source visit.scope with
      | none => .error (.templateRender visit.identifier)
      | some text =>
        let output := file.outputPath visit.version
        match tree.destination here output with
        | .error cause => .error (.io cause)
        | .ok location => .ok (output, location, withFinalLineFeed text)

/-- The deed of a visit. -/
def Visit.deed (visit : Visit) (tree : FileTree) (here : Location) : Deed :=
  match directory.namesIn visit.identifier tree here with
  | .error fault => { ending := .error fault, events := [] }
  | .ok names =>
    let lookup := directory.choose visit.identifier names (tree.isFile here)
    let events := lookup.diagnostics.map .raised
    let diagnostics := lookup.diagnostics.map (Diagnostic.during visit.version)
    match lookup.path with
    | none => { ending := .ok { diagnostics }, events }
    | some path =>
      match visit.draft directory renderer tree here path with
      | .error fault => { ending := .error fault, events }
      | .ok (output, location, text) => {
          ending := .ok {
            written := [⟨visit.identifier, visit.version, output⟩]
            diagnostics }
          events := events ++ [.wrote (shortened shownLength output)]
          edits := [(location, text)] }

/-- The world after some edits and events. -/
def edited (world : World) (edits : List (Location × Text)) (events : List Event) : World where
  files := world.files.putAll edits
  here := world.here
  log := world.log ++ events

@[simp] theorem files_edited (world : World) (edits : List (Location × Text))
    (events : List Event) : (edited world edits events).files = world.files.putAll edits := rfl

@[simp] theorem here_edited (world : World) (edits : List (Location × Text))
    (events : List Event) : (edited world edits events).here = world.here := rfl

theorem edited_edited (world : World) (edits more : List (Location × Text))
    (events later : List Event) :
    edited (edited world edits events) more later =
      edited world (edits ++ more) (events ++ later) := by
  simp only [edited, FileTree.putAll_append, List.append_assoc]

theorem edited_nil (world : World) : edited world [] [] = world := by
  simp only [edited, FileTree.putAll, List.foldl_nil, List.append_nil]

/-- A visit does its deed. -/
theorem render_apply (visit : Visit) (world : World) :
    let deed := visit.deed directory renderer world.files world.here
    visit.render directory renderer world =
      (deed.ending, edited world deed.edits deed.events) := by
  unfold Visit.render renderOne Visit.deed
  rw [Run.bind_apply, TemplateDirectory.resolve_apply]
  cases directory.namesIn visit.identifier world.files world.here with
  | error fault =>
    dsimp only
    rw [edited_nil]
  | ok names =>
    dsimp only
    cases (directory.choose visit.identifier names (world.files.isFile world.here)).path with
    | none => rfl
    | some path =>
      dsimp only
      -- what follows is the draft, step by step
      rw [Run.bind_apply, Run.ofExcept, Visit.draft]
      cases hfile : TemplateFile.ofPath path directory.suffix with
      | error fault => rfl
      | ok file =>
        dsimp only
        rw [Run.bind_apply, Run.readText, (TemplateFile.of_ofPath_eq_ok hfile).1]
        cases world.files.readText world.here path with
        | error cause => rfl
        | ok source =>
          dsimp only
          cases renderer visit.identifier source visit.scope with
          | none => rfl
          | some text =>
            dsimp only
            rw [Run.bind_apply, Run.writeText, FileTree.writeText_eq_map]
            cases world.files.destination world.here (file.outputPath visit.version) with
            | error cause => rfl
            | ok location =>
              simp only [Except.map, edited, ← List.append_assoc]
              rfl

/-! ## What a deed puts -/

variable {directory renderer} {visit : Visit} {tree : FileTree} {here : Location}

/-- What is written for a template file is the output of that file, put into its folder where no
directory is. -/
theorem Visit.of_draft_eq_ok {path output text : Text} {location : Location}
    (h : visit.draft directory renderer tree here path = .ok (output, location, text)) :
    ∃ (file : TemplateFile) (folder : Location),
      tree.isFile here path = true ∧ TemplateFile.ofPath path directory.suffix = .ok file ∧
      file.LiesIn directory.suffix tree here path folder ∧
      output = file.outputPath visit.version ∧
      tree.locate here output = .ok location ∧
      location = folder ++ [file.outputName visit.version] ∧
      tree.Fits folder (file.outputName visit.version) := by
  unfold draft at h
  cases hfile : TemplateFile.ofPath path directory.suffix with
  | error fault =>
    rw [hfile] at h
    cases h
  | ok file =>
    rw [hfile] at h
    dsimp only at h
    cases hread : tree.readText here path with
    | error cause =>
      rw [hread] at h
      cases h
    | ok source =>
      rw [hread] at h
      dsimp only at h
      cases hrender : renderer visit.identifier source visit.scope with
      | none =>
        rw [hrender] at h
        cases h
      | some rendered =>
        rw [hrender] at h
        dsimp only at h
        cases hplace : tree.destination here (file.outputPath visit.version) with
        | error cause =>
          rw [hplace] at h
          cases h
        | ok place =>
          rw [hplace] at h
          cases h
          obtain ⟨hlocate, hfree⟩ := FileTree.destination_eq_ok_iff.mp hplace
          -- only now it is known that the template is a file, and lies in a folder
          have hfind := FileTree.readText_eq_ok_iff.mp hread
          obtain ⟨folder, hlies⟩ := TemplateFile.exists_liesIn hfind hfile
          obtain ⟨rfl, hsize⟩ := hlies.of_locate_outputPath hlocate
          refine ⟨file, folder, FileTree.isFile_eq_true_iff.mpr ⟨_, hfind⟩, rfl, hlies, rfl,
            hlocate, rfl, ?_, ?_, hsize, hfree⟩
          · exact TemplateFile.isName_outputName hlies.isName.slash visit.version
          · exact TemplateFile.notMem_outputName hlies.zero (by decide) (by decide) visit.version

/-- A deed puts one text somewhere, for the first name that the identifier of the visit stands for,
and tells of it, or does neither. -/
theorem Visit.deed_cases (visit : Visit) (tree : FileTree) (here : Location) :
    ((visit.deed directory renderer tree here).edits = [] ∧
      (visit.deed directory renderer tree here).written = []) ∨
    ∃ names path output location text,
      directory.namesIn visit.identifier tree here = .ok names ∧
      directory.firstPath? names = some path ∧
      visit.draft directory renderer tree here path = .ok (output, location, text) ∧
      (visit.deed directory renderer tree here).edits = [(location, text)] ∧
      (visit.deed directory renderer tree here).written =
        [⟨visit.identifier, visit.version, output⟩] := by
  unfold deed
  cases hnames : directory.namesIn visit.identifier tree here with
  | error fault => exact Or.inl ⟨rfl, rfl⟩
  | ok names =>
    dsimp only
    cases hpath : (directory.choose visit.identifier names (tree.isFile here)).path with
    | none => exact Or.inl ⟨rfl, rfl⟩
    | some path =>
      dsimp only
      cases hdraft : visit.draft directory renderer tree here path with
      | error fault => exact Or.inl ⟨rfl, rfl⟩
      | ok drafted =>
        obtain ⟨output, location, text⟩ := drafted
        have hfirst := (TemplateDirectory.of_choose_some hpath).1
        exact Or.inr ⟨names, path, output, location, text, rfl, hfirst, hdraft, rfl, rfl⟩

/-- A visit writes one output: for a template file that lies in some folder it puts a text into the
same folder, under a name that tells the version of the visit. -/
structure Visit.Writes (directory : TemplateDirectory) (renderer : Renderer) (visit : Visit)
    (tree : FileTree) (here : Location) (path : Text) (file : TemplateFile) (folder : Location)
    (text : Text) : Prop where
  /-- The path is that of the first name that the identifier of the visit stands for. -/
  first : ∃ names, directory.namesIn visit.identifier tree here = .ok names ∧
    directory.firstPath? names = some path
  isFile : tree.isFile here path = true
  named : TemplateFile.ofPath path directory.suffix = .ok file
  lies : file.LiesIn directory.suffix tree here path folder
  locate_output : tree.locate here (file.outputPath visit.version) =
    .ok (folder ++ [file.outputName visit.version])
  fits : tree.Fits folder (file.outputName visit.version)
  edits_eq : (visit.deed directory renderer tree here).edits =
    [(folder ++ [file.outputName visit.version], text)]
  written_eq : (visit.deed directory renderer tree here).written =
    [⟨visit.identifier, visit.version, file.outputPath visit.version⟩]

theorem Visit.exists_writes (visit : Visit) (tree : FileTree) (here : Location) :
    ((visit.deed directory renderer tree here).edits = [] ∧
      (visit.deed directory renderer tree here).written = []) ∨
    ∃ path file folder text, visit.Writes directory renderer tree here path file folder text := by
  rcases visit.deed_cases tree here with hnone |
    ⟨names, path, output, location, text, hnames, hfirst, hdraft, hedits, hwritten⟩
  · exact Or.inl hnone
  · obtain ⟨file, folder, hisFile, hnamed, hlies, rfl, hlocate, rfl, hfits⟩ :=
      Visit.of_draft_eq_ok hdraft
    exact Or.inr ⟨path, file, folder, text, ⟨names, hnames, hfirst⟩, hisFile, hnamed, hlies,
      hlocate, hfits, hedits, hwritten⟩

theorem Visit.exists_writes_of_mem_edits {edit : Location × Text}
    (h : edit ∈ (visit.deed directory renderer tree here).edits) :
    ∃ path file folder, visit.Writes directory renderer tree here path file folder edit.2 ∧
      edit.1 = folder ++ [file.outputName visit.version] := by
  rcases visit.exists_writes tree here with ⟨hnone, -⟩ | ⟨path, file, folder, text, hwrites⟩
  · rw [hnone] at h
    cases h
  · have hedit := h
    rw [hwrites.edits_eq] at hedit
    obtain rfl := List.mem_singleton.mp hedit
    exact ⟨path, file, folder, hwrites, rfl⟩

theorem Visit.exists_writes_of_mem_written {entry : Rendered}
    (h : entry ∈ (visit.deed directory renderer tree here).written) :
    ∃ path file folder text, visit.Writes directory renderer tree here path file folder text ∧
      entry = ⟨visit.identifier, visit.version, file.outputPath visit.version⟩ := by
  rcases visit.exists_writes tree here with ⟨-, hnone⟩ | ⟨path, file, folder, text, hwrites⟩
  · rw [hnone] at h
    cases h
  · have hentry := h
    rw [hwrites.written_eq] at hentry
    exact ⟨path, file, folder, text, hwrites, List.mem_singleton.mp hentry⟩

theorem Visit.fits_of_mem_edits {edit : Location × Text}
    (h : edit ∈ (visit.deed directory renderer tree here).edits) :
    ∃ folder name, edit.1 = folder ++ [name] ∧ tree.Fits folder name := by
  obtain ⟨path, file, folder, hwrites, hplace⟩ := Visit.exists_writes_of_mem_edits h
  exact ⟨folder, _, hplace, hwrites.fits⟩

/-- Nothing is put at the root. -/
theorem Visit.ne_nil_of_mem_edits {edit : Location × Text}
    (h : edit ∈ (visit.deed directory renderer tree here).edits) : edit.1 ≠ [] := by
  obtain ⟨folder, name, heq, -⟩ := Visit.fits_of_mem_edits h
  simp [heq]

/-- The edits of a visit are made where the paths lead that it tells of. -/
theorem Visit.edits_written (visit : Visit) (tree : FileTree) (here : Location) :
    (∀ edit ∈ (visit.deed directory renderer tree here).edits,
      ∃ entry ∈ (visit.deed directory renderer tree here).written,
        tree.locate here entry.path = .ok edit.1) ∧
    ∀ entry ∈ (visit.deed directory renderer tree here).written,
      ∃ edit ∈ (visit.deed directory renderer tree here).edits,
        tree.locate here entry.path = .ok edit.1 := by
  constructor
  · intro edit hedit
    obtain ⟨path, file, folder, hwrites, hplace⟩ := Visit.exists_writes_of_mem_edits hedit
    rw [hwrites.written_eq, hplace]
    exact ⟨_, List.mem_singleton_self _, hwrites.locate_output⟩
  · intro entry hentry
    obtain ⟨path, file, folder, text, hwrites, rfl⟩ := Visit.exists_writes_of_mem_written hentry
    rw [hwrites.edits_eq]
    exact ⟨_, List.mem_singleton_self _, hwrites.locate_output⟩

theorem Visit.sameDirectories_putAll (visit : Visit) (tree : FileTree) (here : Location) :
    FileTree.SameDirectories tree (tree.putAll (visit.deed directory renderer tree here).edits) :=
  .putAll fun _ hedit => Visit.fits_of_mem_edits hedit

/-! ## Trees that visits cannot tell apart -/

/-- The same template file in the same directories gives the same draft. -/
theorem Visit.draft_congr {other : FileTree} (hdirs : FileTree.SameDirectories tree other)
    {path : Text} (hsame : FileTree.SameFileAt tree other here path)
    (hfile : tree.isFile here path = true) :
    visit.draft directory renderer other here path =
      visit.draft directory renderer tree here path := by
  obtain ⟨contents, hfind⟩ := FileTree.isFile_eq_true_iff.mp hfile
  unfold draft
  rw [hsame.readText_eq hfile]
  cases hnamed : TemplateFile.ofPath path directory.suffix with
  | error fault => rfl
  | ok file =>
    -- the template is in one folder in both trees, and so is the output
    obtain ⟨folder, hlies⟩ := TemplateFile.exists_liesIn hfind hnamed
    obtain ⟨folder', hlies'⟩ := TemplateFile.exists_liesIn ((hsame contents).mpr hfind) hnamed
    have hfolder : folder' = folder := by
      have hlocate := hlies'.locate.symm.trans (hdirs.locate_eq_ok hlies.locate)
      exact (List.append_inj' (Except.ok.inj hlocate) rfl).1
    have hplace (output : Text) (h : output = file.outputPath visit.version) :
        other.destination here output = tree.destination here output := by
      subst h
      rw [FileTree.destination, FileTree.destination, hlies'.locate_output, hlies.locate_output,
        hfolder]
      split
      · rfl
      · simp only [hdirs _]
    dsimp only
    rw [hplace _ rfl]

/-- A visit does the same deed on two trees with the same directories and the same names for its
identifier, if the first of these names leads to the same file. -/
theorem Visit.deed_congr {other : FileTree} (hdirs : FileTree.SameDirectories tree other)
    (hnames : directory.namesIn visit.identifier other here =
      directory.namesIn visit.identifier tree here)
    (hfirst : ∀ names, directory.namesIn visit.identifier tree here = .ok names →
      ∀ path ∈ directory.firstPath? names, FileTree.SameFileAt tree other here path) :
    visit.deed directory renderer other here = visit.deed directory renderer tree here := by
  unfold deed
  rw [hnames]
  cases hfound : directory.namesIn visit.identifier tree here with
  | error fault => rfl
  | ok names =>
    dsimp only
    rw [TemplateDirectory.choose_congr fun path hpath => (hfirst names hfound path hpath).isFile_eq]
    cases hpath : (directory.choose visit.identifier names (tree.isFile here)).path with
    | none => rfl
    | some path =>
      obtain ⟨hmem, hisFile, -⟩ := TemplateDirectory.of_choose_some hpath
      dsimp only
      rw [Visit.draft_congr hdirs (hfirst names hfound path hmem) hisFile]

/-! ## The deeds of a tour -/

variable (directory renderer)

/-- The deed that is done on a leg. -/
def Leg.deed (leg : Leg) : Deed :=
  leg.visit.deed directory renderer leg.before.files leg.before.here

/-- The deeds of a tour are those of its legs. No deed depends on the log, so the tour may begin
with an empty one. -/
def deeds (visits : List Visit) (tree : FileTree) (here : Location) : List Deed :=
  (legs directory renderer visits { files := tree, here }).map (Leg.deed directory renderer)

theorem map_deed_legs_cons (visit : Visit) (more : List Visit) (world : World) :
    let deed := visit.deed directory renderer world.files world.here
    (legs directory renderer (visit :: more) world).map (Leg.deed directory renderer) =
      deed ::
        match deed.ending with
        | .ok _ => (legs directory renderer more (edited world deed.edits deed.events)).map
            (Leg.deed directory renderer)
        | .error _ => [] := by
  dsimp only
  -- the first leg ends as its deed does, and the others begin with the edits of the deed
  rw [legs, render_apply]
  cases hending : (visit.deed directory renderer world.files world.here).ending with
  | error fault => rfl
  | ok result => rfl

/-- Whatever the log, the deeds are those of the legs. -/
theorem map_deed_legs (visits : List Visit) (world : World) :
    (legs directory renderer visits world).map (Leg.deed directory renderer) =
      deeds directory renderer visits world.files world.here := by
  rw [deeds]
  generalize hbare : World.mk world.files world.here [] = bare
  have hfiles : bare.files = world.files := by rw [← hbare]
  have hhere : bare.here = world.here := by rw [← hbare]
  clear hbare
  -- both worlds are generalised, since their logs grow from one leg to the next
  induction visits generalizing world bare with
  | nil => rfl
  | cons visit more ih =>
    rw [map_deed_legs_cons, map_deed_legs_cons, hfiles, hhere]
    split
    · rw [ih]
      · rw [files_edited, files_edited, hfiles]
      · exact hhere
    · rfl

/-- Each deed is done on the tree that those before it leave, up to the fault that ends the tour if
there is one. -/
theorem deeds_cons (visit : Visit) (more : List Visit) (tree : FileTree) (here : Location) :
    deeds directory renderer (visit :: more) tree here =
      visit.deed directory renderer tree here ::
        match (visit.deed directory renderer tree here).ending with
        | .ok _ =>
          deeds directory renderer more
            (tree.putAll (visit.deed directory renderer tree here).edits) here
        | .error _ => [] := by
  rw [deeds, map_deed_legs_cons]
  simp only [map_deed_legs, files_edited, here_edited]

/-- How a tour ends with some deeds. -/
def endingOf : List Deed → Except Fault Rendering
  | [] => .ok {}
  | deed :: more =>
    match deed.ending, endingOf more with
    | .ok first, .ok rest => .ok (first.append rest)
    | .ok _, .error fault => .error fault
    | .error fault, _ => .error fault

theorem endingOf_of_error {deed : Deed} {fault : Fault} (h : deed.ending = .error fault)
    (more : List Deed) : endingOf (deed :: more) = .error fault := by
  rw [endingOf, h]

theorem endingOf_of_ok {deed : Deed} {first : Rendering} (h : deed.ending = .ok first)
    (more : List Deed) : endingOf (deed :: more) = (endingOf more).map first.append := by
  rw [endingOf, h]
  cases endingOf more <;> rfl

/-- Deeds that end well together are a first one and others that do. -/
theorem of_endingOf_cons_eq_ok {deed : Deed} {more : List Deed} {result : Rendering}
    (h : endingOf (deed :: more) = .ok result) :
    ∃ first rest, deed.ending = .ok first ∧ endingOf more = .ok rest ∧
      result = first.append rest := by
  cases hending : deed.ending with
  | error fault =>
    rw [endingOf_of_error hending] at h
    cases h
  | ok first =>
    rw [endingOf_of_ok hending] at h
    cases hmore : endingOf more with
    | error fault =>
      rw [hmore] at h
      cases h
    | ok rest =>
      rw [hmore] at h
      cases h
      exact ⟨first, rest, rfl, rfl, rfl⟩

/-- Deeds end well together if each of them does. -/
theorem exists_endingOf_iff {done : List Deed} :
    (∃ result, endingOf done = .ok result) ↔ ∀ deed ∈ done, ∃ result, deed.ending = .ok result := by
  induction done with
  | nil => exact ⟨fun _ _ hmem => (List.not_mem_nil hmem).elim, fun _ => ⟨{}, rfl⟩⟩
  | cons deed more ih =>
    rw [List.forall_mem_cons, ← ih]
    cases hfirst : deed.ending with
    | error fault => simp [endingOf_of_error hfirst]
    | ok first =>
      rw [endingOf_of_ok hfirst]
      cases endingOf more <;> simp [Except.map]

/-- A tour does the deeds of its visits. -/
theorem follow_apply (visits : List Visit) (world : World) :
    let done := deeds directory renderer visits world.files world.here
    follow directory renderer visits world =
      (endingOf done, edited world (done.flatMap (·.edits)) (done.flatMap (·.events))) := by
  -- the world is generalised, since the rest of the tour begins in the one the first deed leaves
  induction visits generalizing world with
  | nil => exact congrArg (Prod.mk _) (edited_nil world).symm
  | cons visit more ih =>
    rw [follow, Run.bind_apply, render_apply, deeds_cons]
    generalize visit.deed directory renderer world.files world.here = deed
    cases hending : deed.ending with
    | error fault =>
      dsimp only
      rw [endingOf, hending, List.flatMap_singleton, List.flatMap_singleton]
    | ok first =>
      dsimp only
      rw [Run.bind_apply, ih, edited_edited, endingOf, hending, List.flatMap_cons,
        List.flatMap_cons, files_edited, here_edited]
      generalize deeds directory renderer more (world.files.putAll deed.edits) world.here = done
      cases endingOf done with
      | error fault => rfl
      | ok rest => rfl

/-- The deeds of a tour in two parts are those of the first part, and then those of the second one
on the tree that the first part leaves, unless a fault has ended it. -/
theorem deeds_append (visits more : List Visit) (tree : FileTree) (here : Location) :
    let done := deeds directory renderer visits tree here
    deeds directory renderer (visits ++ more) tree here =
      done ++
        match endingOf done with
        | .ok _ => deeds directory renderer more (tree.putAll (done.flatMap (·.edits))) here
        | .error _ => [] := by
  induction visits generalizing tree with
  | nil => rfl
  | cons visit rest ih =>
    dsimp only at ih ⊢
    rw [List.cons_append, deeds_cons, deeds_cons]
    generalize visit.deed directory renderer tree here = deed
    cases hending : deed.ending with
    | error fault =>
      dsimp only
      rw [endingOf, hending]
      rfl
    | ok first =>
      dsimp only
      rw [ih, endingOf, hending, List.cons_append, List.flatMap_cons, FileTree.putAll_append]
      generalize deeds directory renderer rest (tree.putAll deed.edits) here = done
      cases endingOf done <;> rfl

/-- A run that renders fragments does the deeds of its tour, and tells the range of versions. -/
theorem renderFragments_apply (fragments : List Fragment) (world : World) :
    let done := deeds directory renderer (tour fragments) world.files world.here
    renderFragments fragments directory renderer world =
      ((endingOf done).map fun result => { result with versions := versionRange fragments },
        edited world (done.flatMap (·.edits)) (done.flatMap (·.events))) := by
  dsimp only
  rw [renderFragments_eq_follow, Run.bind_apply, follow_apply]
  generalize deeds directory renderer (tour fragments) world.files world.here = done
  cases endingOf done <;> rfl

/-- Such a run fails exactly as the deeds of its tour do. -/
theorem renderFragments_eq_error_iff {fragments : List Fragment} {world : World} {fault : Fault} :
    (renderFragments fragments directory renderer world).1 = .error fault ↔
      endingOf (deeds directory renderer (tour fragments) world.files world.here) =
        .error fault := by
  rw [renderFragments_apply]
  dsimp only
  generalize endingOf (deeds directory renderer (tour fragments) world.files world.here) = ending
  cases ending with
  | ok result =>
    constructor
    · intro h
      cases h
    · intro h
      cases h
  | error cause => exact Iff.rfl

/-- Whatever a visit does not change by its edits holds where each deed of a tour is done. -/
theorem exists_of_mem_deeds {I : FileTree → Prop} {visits : List Visit} {tree : FileTree}
    {here : Location}
    (kept : ∀ visit ∈ visits, ∀ tree, I tree →
      I (tree.putAll (visit.deed directory renderer tree here).edits))
    (h : I tree) {deed : Deed} (hmem : deed ∈ deeds directory renderer visits tree here) :
    ∃ visit ∈ visits, ∃ between, I between ∧ deed = visit.deed directory renderer between here := by
  obtain ⟨leg, hleg, rfl⟩ := List.mem_map.mp hmem
  -- on a leg a visit changes nothing but the edits of its deed
  have hkept : ∀ visit ∈ visits, ∀ world : World, I world.files ∧ world.here = here →
      I (visit.render directory renderer world).2.files ∧
        (visit.render directory renderer world).2.here = here := by
    rintro visit hvisit world ⟨hworld, rfl⟩
    rw [render_apply]
    exact ⟨kept visit hvisit world.files hworld, rfl⟩
  obtain ⟨hvisit, ⟨hbetween, hhere⟩, -⟩ := of_mem_legs directory renderer
    (I := fun world => I world.files ∧ world.here = here) hkept ⟨h, rfl⟩ hleg
  exact ⟨leg.visit, hvisit, leg.before.files, hbetween, by rw [Leg.deed, hhere]⟩

/-- The deeds of a tour are done on trees with the same directories. -/
theorem exists_visit_of_mem_deeds {visits : List Visit} {tree : FileTree} {here : Location}
    {deed : Deed} (hmem : deed ∈ deeds directory renderer visits tree here) :
    ∃ visit ∈ visits, ∃ between, FileTree.SameDirectories tree between ∧
      deed = visit.deed directory renderer between here :=
  exists_of_mem_deeds directory renderer
    (fun visit _ between h => h.trans (Visit.sameDirectories_putAll visit between here))
    (.refl tree) hmem

theorem fits_of_mem_edits {visits : List Visit} {tree : FileTree} {here : Location}
    {edit : Location × Text}
    (h : edit ∈ (deeds directory renderer visits tree here).flatMap (·.edits)) :
    ∃ folder name, edit.1 = folder ++ [name] ∧ tree.Fits folder name := by
  obtain ⟨deed, hdeed, hedit⟩ := List.mem_flatMap.mp h
  obtain ⟨visit, -, between, hdirs, rfl⟩ := exists_visit_of_mem_deeds directory renderer hdeed
  obtain ⟨folder, name, heq, hfits⟩ := Visit.fits_of_mem_edits hedit
  exact ⟨folder, name, heq, hdirs.symm.fits hfits⟩

/-- **Two trees on which each visit does the same deed, before and after the same edits, are not
told apart by a tour.** -/
theorem deeds_congr {R : FileTree → FileTree → Prop} {visits : List Visit} {tree other : FileTree}
    {here : Location}
    (same : ∀ visit ∈ visits, ∀ tree other, R tree other →
      visit.deed directory renderer other here = visit.deed directory renderer tree here)
    (kept : ∀ visit ∈ visits, ∀ between other, R between other →
      visit.deed directory renderer between here ∈ deeds directory renderer visits tree here →
      R (between.putAll (visit.deed directory renderer between here).edits)
        (other.putAll (visit.deed directory renderer between here).edits))
    (h : R tree other) :
    deeds directory renderer visits other here = deeds directory renderer visits tree here ∧
      R (tree.putAll ((deeds directory renderer visits tree here).flatMap (·.edits)))
        (other.putAll ((deeds directory renderer visits tree here).flatMap (·.edits))) := by
  induction visits generalizing tree other with
  | nil => exact ⟨rfl, h⟩
  | cons visit more ih =>
    rw [deeds_cons] at kept ⊢
    -- both tours begin with the same deed, and go on from related trees
    have hnext := kept visit List.mem_cons_self tree other h List.mem_cons_self
    rw [deeds_cons, same visit List.mem_cons_self tree other h]
    cases hending : (visit.deed directory renderer tree here).ending with
    | error fault =>
      refine ⟨rfl, ?_⟩
      rw [List.flatMap_singleton]
      exact hnext
    | ok result =>
      rw [hending] at kept
      obtain ⟨hdeeds, hlast⟩ := ih
        (fun later hlater => same later (List.mem_cons_of_mem _ hlater))
        (fun later hlater between other hR hmem =>
          kept later (List.mem_cons_of_mem _ hlater) between other hR (List.mem_cons_of_mem _ hmem))
        hnext
      dsimp only
      rw [hdeeds, List.flatMap_cons, FileTree.putAll_append, FileTree.putAll_append]
      exact ⟨rfl, hlast⟩

/-- A tour that ends well tells of the files that its deeds tell of. -/
theorem written_of_endingOf {done : List Deed} {result : Rendering}
    (h : endingOf done = .ok result) : result.written = done.flatMap Deed.written := by
  induction done generalizing result with
  | nil =>
    cases h
    rfl
  | cons deed more ih =>
    obtain ⟨own, rest, hending, hmore, rfl⟩ := of_endingOf_cons_eq_ok h
    rw [List.flatMap_cons, ← ih hmore, Deed.written, hending]
    rfl

/-- The edits of a tour are made where the paths lead that its deeds tell of. -/
theorem edits_written (visits : List Visit) (tree : FileTree) (here : Location) :
    (∀ edit ∈ (deeds directory renderer visits tree here).flatMap (·.edits),
      ∃ entry ∈ (deeds directory renderer visits tree here).flatMap Deed.written,
        tree.locate here entry.path = .ok edit.1) ∧
    ∀ entry ∈ (deeds directory renderer visits tree here).flatMap Deed.written,
      ∃ edit ∈ (deeds directory renderer visits tree here).flatMap (·.edits),
        tree.locate here entry.path = .ok edit.1 := by
  constructor
  · intro edit hedit
    obtain ⟨deed, hdeed, hedit⟩ := List.mem_flatMap.mp hedit
    obtain ⟨visit, -, between, hdirs, rfl⟩ := exists_visit_of_mem_deeds directory renderer hdeed
    obtain ⟨entry, hentry, hlocate⟩ := (visit.edits_written between here).1 edit hedit
    exact ⟨entry, List.mem_flatMap.mpr ⟨_, hdeed, hentry⟩, hdirs.symm.locate_eq_ok hlocate⟩
  · intro entry hentry
    obtain ⟨deed, hdeed, hentry⟩ := List.mem_flatMap.mp hentry
    obtain ⟨visit, -, between, hdirs, rfl⟩ := exists_visit_of_mem_deeds directory renderer hdeed
    obtain ⟨edit, hedit, hlocate⟩ := (visit.edits_written between here).2 entry hentry
    exact ⟨edit, List.mem_flatMap.mpr ⟨_, hdeed, hedit⟩, hdirs.symm.locate_eq_ok hlocate⟩

/-- The edits of a tour that ends well are made where the paths lead that it tells of. -/
theorem edits_written_of_endingOf {visits : List Visit} {tree : FileTree} {here : Location}
    {result : Rendering} (h : endingOf (deeds directory renderer visits tree here) = .ok result) :
    (∀ edit ∈ (deeds directory renderer visits tree here).flatMap (·.edits),
      ∃ entry ∈ result.written, tree.locate here entry.path = .ok edit.1) ∧
    ∀ entry ∈ result.written,
      ∃ edit ∈ (deeds directory renderer visits tree here).flatMap (·.edits),
        tree.locate here entry.path = .ok edit.1 := by
  rw [written_of_endingOf h]
  exact edits_written directory renderer visits tree here

/-! ## The deeds of a run -/

variable {documents : List Text} {root : Text} {settings : Settings} {world ready : World}
variable {extraction : Extraction} {directory}

/-- Once a run is prepared, it does the deeds of its tour. -/
theorem renderDocuments_of_prepared
    (h : prepare documents root settings world = (.ok (directory, extraction), ready)) :
    let done := deeds directory renderer (tour extraction.fragments) world.files world.here
    let ended := renderDocuments documents root settings renderer world
    ended.1 = (endingOf done).map (fun result =>
      conclude extraction { result with versions := versionRange extraction.fragments }) ∧
    ended.2.files = world.files.putAll (done.flatMap (·.edits)) ∧ ended.2.here = world.here := by
  obtain ⟨hfiles, hhere⟩ := prepare_keepsFiles documents root settings world
  rw [h] at hfiles hhere
  rw [renderDocuments_eq_prepare, Run.bind_apply, h]
  dsimp only
  -- the tour begins with the files that the preparation has kept
  rw [Run.bind_apply, renderFragments_eq_follow, Run.bind_apply, follow_apply, hfiles, hhere]
  generalize deeds directory renderer (tour extraction.fragments) world.files world.here = done
  cases endingOf done with
  | error fault => exact ⟨rfl, congrArg (FileTree.putAll · _) hfiles, hhere⟩
  | ok rendered => exact ⟨rfl, congrArg (FileTree.putAll · _) hfiles, hhere⟩

/-- A run that is not prepared well changes no file. -/
theorem renderDocuments_of_not_prepared {fault : Fault}
    (h : prepare documents root settings world = (.error fault, ready)) :
    renderDocuments documents root settings renderer world = (.error fault, ready) ∧
      ready.files = world.files ∧ ready.here = world.here := by
  have hkept := prepare_keepsFiles documents root settings world
  rw [h] at hkept
  refine ⟨?_, hkept⟩
  rw [renderDocuments_eq_prepare, Run.bind_apply, h]

/-- A run that ends well was prepared, and all its deeds ended well. -/
theorem of_renderDocuments_eq_ok {after : World} {result : Rendering}
    (h : renderDocuments documents root settings renderer world = (.ok result, after)) :
    ∃ extraction ready rendered,
      prepare documents root settings world = (.ok (⟨root, settings.suffix⟩, extraction), ready) ∧
      let done := deeds ⟨root, settings.suffix⟩ renderer (tour extraction.fragments) world.files
        world.here
      endingOf done = .ok rendered ∧ result.written = rendered.written ∧
        after.files = world.files.putAll (done.flatMap (·.edits)) ∧ after.here = world.here := by
  cases hprepare : prepare documents root settings world with
  | mk prepared ready =>
    cases prepared with
    | error fault =>
      rw [(renderDocuments_of_not_prepared renderer hprepare).1] at h
      cases h
    | ok prepared =>
      obtain ⟨directory, extraction⟩ := prepared
      obtain ⟨rfl, -, -⟩ := of_prepare_eq_ok hprepare
      obtain ⟨hending, hafter, hhere⟩ := renderDocuments_of_prepared renderer hprepare
      rw [h] at hending hafter hhere
      cases hrendered : endingOf (deeds ⟨root, settings.suffix⟩ renderer
          (tour extraction.fragments) world.files world.here) with
      | error fault =>
        rw [hrendered] at hending
        cases hending
      | ok rendered =>
        rw [hrendered] at hending
        cases hending
        exact ⟨extraction, ready, rendered, rfl, hrendered, rfl, hafter, hhere⟩

/-- Settings for small examples: nothing is left out, and templates have a short suffix. -/
def shortSettings : Settings := { annotations := false, suffix := ['j'] }

end Rendering

end Tangle
