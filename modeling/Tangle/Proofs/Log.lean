import Tangle.Proofs.Acceptance
import Tangle.Proofs.Publication
import Tangle.Proofs.Rendering.Deeds
import Tangle.Proofs.Rendering.Versions

/-!
# The log and the results

Whatever a run finds wrong and survives, it reports twice: in the log at once, and by a diagnostic
in what it yields. The diagnostics of documents, of lookups and of whole runs are collected in lists
of their own that are put together later, and those of a lookup are given their version only after
they were logged. Log and result still agree, line for line and in order.

- `Tells` says this of some events, and is kept by putting events one after another.
- A visit tells of its own diagnostics and of the file that it writes (`Visit.deed_tells`), and so
  does a tour of all that its visits tell of (`tells_of_endingOf`).
- `Logged` says it of a run, by the events that the run adds to the log.
-/

namespace Tangle

/-! ## The lines of the log -/

/-- Whether a line of the log is a warning or an error. -/
def isAlert (line : Text) : Bool :=
  "WARN ".toList.isPrefixOf line || "ERROR ".toList.isPrefixOf line

/-- Whether a line of the log tells of a file that was written. -/
def isNotice (line : Text) : Bool := "INFO wrote ".toList.isPrefixOf line

/-- The word that stands in front of what is logged. -/
def Severity.level : Severity → Text
  | .warning => "WARN ".toList
  | .error => "ERROR ".toList

/-- The line that is logged for a diagnostic: its level, and its text without a version. -/
def Diagnostic.alert (d : Diagnostic) : Text :=
  d.severity.level ++ Diagnostic.text { d with version := none }

/-- The line that is logged for a written file. -/
def notice (shown : Text) : Text := "INFO wrote ".toList ++ shown

theorem line_raised (d : Diagnostic) : Event.line (.raised d) = d.severity.level ++ d.text := by
  unfold Event.line Severity.level
  dsimp only
  cases d.severity with
  | warning => rfl
  | error => rfl

theorem line_wrote (shown : Text) : Event.line (.wrote shown) = notice shown := by
  unfold Event.line
  rfl

theorem kind_raised (d : Diagnostic) :
    isAlert (Event.line (.raised d)) = true ∧ isNotice (Event.line (.raised d)) = false := by
  rw [line_raised]
  unfold isAlert isNotice Severity.level
  cases d.severity with
  | warning => simp [List.isPrefixOf]
  | error => simp [List.isPrefixOf]

theorem kind_wrote (shown : Text) :
    isAlert (Event.line (.wrote shown)) = false ∧ isNotice (Event.line (.wrote shown)) = true := by
  rw [line_wrote]
  unfold isAlert isNotice notice
  simp [List.isPrefixOf]

/-! ## What events tell of -/

/-- The warnings and errors among some events are those of the given diagnostics, and the notices
those of the given files, in order and no others. -/
structure Tells (events : List Event) (diagnostics : List Diagnostic) (shown : List Text) :
    Prop where
  alerts : (events.map Event.line).filter isAlert = diagnostics.map Diagnostic.alert
  notices : (events.map Event.line).filter isNotice = shown.map notice

namespace Tells

variable {events more : List Event} {diagnostics later : List Diagnostic} {shown rest : List Text}

theorem nil : Tells [] [] [] := ⟨rfl, rfl⟩

theorem append (first : Tells events diagnostics shown) (second : Tells more later rest) :
    Tells (events ++ more) (diagnostics ++ later) (shown ++ rest) := by
  constructor
  · rw [List.map_append, List.filter_append, first.alerts, second.alerts, List.map_append]
  · rw [List.map_append, List.filter_append, first.notices, second.notices, List.map_append]

/-- Diagnostics without a version are raised as they are. -/
theorem raised (h : ∀ d ∈ diagnostics, d.version = none) :
    Tells (diagnostics.map .raised) diagnostics [] := by
  constructor
  · rw [List.map_map, List.filter_eq_self.mpr]
    · apply List.map_congr_left
      intro d hd
      have hversion := h d hd
      rw [Function.comp_apply, line_raised, Diagnostic.alert, ← hversion]
    · intro line hline
      obtain ⟨d, -, rfl⟩ := List.mem_map.mp hline
      exact (kind_raised d).1
  · rw [List.map_map, List.map_nil, List.filter_eq_nil_iff]
    intro line hline
    obtain ⟨d, -, rfl⟩ := List.mem_map.mp hline
    rw [Function.comp_apply, (kind_raised d).2]
    exact Bool.false_ne_true

/-- The version of a visit has no part in what is logged. -/
theorem during (h : Tells events diagnostics shown) (version : Nat) :
    Tells events (diagnostics.map (Diagnostic.during version)) shown := by
  constructor
  · rw [h.alerts, List.map_map]
    rfl
  · exact h.notices

theorem wrote (path : Text) : Tells [.wrote path] [] [path] := by
  obtain ⟨halert, hnotice⟩ := kind_wrote path
  constructor
  · rw [List.map_singleton, List.filter_cons_of_neg (by simp [halert])]
    rfl
  · rw [List.map_singleton, List.filter_cons_of_pos hnotice, line_wrote]
    rfl

theorem done : Tells [.done] [] [] := by
  constructor
  · decide
  · decide

end Tells

/-! ## What a tour tells of -/

namespace Rendering

/-- Files as the log shows them. -/
def shownOf (written : List Rendered) : List Text :=
  written.map fun entry => shortened shownLength entry.path

variable {directory : TemplateDirectory} {renderer : Renderer} {here : Location}

/-- **Step.** A visit logs the diagnostics that it yields and the file that it writes. -/
theorem Visit.deed_tells (visit : Visit) (tree : FileTree) {result : Rendering}
    (h : (visit.deed directory renderer tree here).ending = .ok result) :
    Tells (visit.deed directory renderer tree here).events result.diagnostics
      (shownOf result.written) := by
  unfold deed at h ⊢
  cases hnames : directory.namesIn visit.identifier tree here with
  | error fault =>
    rw [hnames] at h
    cases h
  | ok names =>
    rw [hnames] at h
    dsimp only at h ⊢
    -- what the lookup reports is logged first, and without the version of the visit
    have hnone : ∀ d ∈ (directory.choose visit.identifier names (tree.isFile here)).diagnostics,
        d.version = none := fun _ => TemplateDirectory.version_of_mem_choose
    have hlookup := (Tells.raised hnone).during visit.version
    cases hpath : (directory.choose visit.identifier names (tree.isFile here)).path with
    | none =>
      rw [hpath] at h
      cases h
      exact hlookup
    | some path =>
      rw [hpath] at h
      dsimp only at h ⊢
      cases hdraft : visit.draft directory renderer tree here path with
      | error fault =>
        rw [hdraft] at h
        cases h
      | ok drafted =>
        obtain ⟨output, location, text⟩ := drafted
        rw [hdraft] at h
        cases h
        have hboth := hlookup.append (.wrote (shortened shownLength output))
        rwa [List.append_nil] at hboth

/-- **Run.** Deeds that end well log what they yield together. -/
theorem tells_of_endingOf {done : List Deed}
    (each : ∀ deed ∈ done, ∀ result, deed.ending = .ok result →
      Tells deed.events result.diagnostics (shownOf result.written))
    {result : Rendering} (h : endingOf done = .ok result) :
    Tells (done.flatMap (·.events)) result.diagnostics (shownOf result.written) := by
  induction done generalizing result with
  | nil =>
    cases h
    exact .nil
  | cons deed more ih =>
    obtain ⟨first, rest, hending, hmore, rfl⟩ := of_endingOf_cons_eq_ok h
    have hfirst := each deed List.mem_cons_self first hending
    have hrest := ih (fun d hd => each d (List.mem_cons_of_mem _ hd)) hmore
    rw [List.flatMap_cons, shownOf, append, List.map_append]
    exact hfirst.append hrest

end Rendering

/-! ## What a run adds to the log -/

/-- What a run adds to the log tells of some diagnostics and of some files. -/
def Logged (world after : World) (diagnostics : List Diagnostic) (shown : List Text) : Prop :=
  ∃ events, after.log = world.log ++ events ∧ Tells events diagnostics shown

theorem Logged.trans {world between after : World} {diagnostics later : List Diagnostic}
    {shown rest : List Text} (first : Logged world between diagnostics shown)
    (second : Logged between after later rest) :
    Logged world after (diagnostics ++ later) (shown ++ rest) := by
  obtain ⟨events, hevents, htells⟩ := first
  obtain ⟨more, hmore, htells'⟩ := second
  refine ⟨events ++ more, ?_, htells.append htells'⟩
  rw [hmore, hevents, List.append_assoc]

section Runs

variable {documents : List Text} {world after : World}

theorem Documents.logged_of_extract {filter : LineFilter} {extraction : Extraction}
    (h : extract filter documents world = (.ok extraction, after)) :
    Logged world after extraction.diagnostics [] := by
  obtain ⟨paths, -, -, rfl, rfl⟩ := of_extract_eq_ok h
  exact ⟨_, rfl, .raised fun d => version_of_mem_diagnostics_gather⟩

namespace Rendering

variable {renderer : Renderer} {result : Rendering}

theorem logged_of_renderFragments {fragments : List Fragment} {directory : TemplateDirectory}
    (h : renderFragments fragments directory renderer world = (.ok result, after)) :
    Logged world after result.diagnostics (shownOf result.written) := by
  rw [renderFragments_apply] at h
  -- the run does the deeds of its tour, each of which is the deed of a visit on some tree
  generalize hdone : deeds directory renderer (tour fragments) world.files world.here = done at h
  have heach : ∀ deed ∈ done, ∀ result, deed.ending = .ok result →
      Tells deed.events result.diagnostics (shownOf result.written) := by
    intro deed hdeed result hending
    rw [← hdone] at hdeed
    obtain ⟨visit, -, between, -, rfl⟩ := exists_visit_of_mem_deeds directory renderer hdeed
    exact visit.deed_tells between hending
  cases hending : endingOf done with
  | error fault =>
    rw [hending] at h
    cases h
  | ok own =>
    rw [hending] at h
    cases h
    have htells := tells_of_endingOf heach hending
    exact ⟨_, rfl, htells⟩

theorem logged_of_prepare {root : Text} {settings : Settings} {directory : TemplateDirectory}
    {extraction : Extraction}
    (h : prepare documents root settings world = (.ok (directory, extraction), after)) :
    Logged world after extraction.diagnostics [] := by
  obtain ⟨paths, _, hpaths, hopen⟩ := Run.ok_of_bind h
  obtain ⟨opened, _, hopened, hfilter⟩ := Run.ok_of_bind hopen
  obtain ⟨filter, _, hfiltered, hextract⟩ := Run.ok_of_bind hfilter
  obtain ⟨found, _, hfound, hlast⟩ := Run.ok_of_bind hextract
  cases hlast
  -- nothing is logged before the documents are read
  obtain ⟨-, rfl⟩ := Documents.of_resolveAll_eq_ok hpaths
  obtain ⟨-, -, rfl⟩ := TemplateDirectory.of_openAt_eq_ok hopened
  rw [Settings.filter_apply] at hfiltered
  obtain ⟨-, rfl⟩ := Prod.mk.inj hfiltered
  exact Documents.logged_of_extract hfound

theorem logged_of_renderDocuments {root : Text} {settings : Settings}
    (h : renderDocuments documents root settings renderer world = (.ok result, after)) :
    Logged world after result.diagnostics (shownOf result.written) := by
  rw [renderDocuments_eq_prepare] at h
  obtain ⟨⟨directory, extraction⟩, ready, hprepare, hrender⟩ := Run.ok_of_bind h
  obtain ⟨rendered, between, hrendered, hend⟩ := Run.ok_of_bind hrender
  cases hend
  have hread := logged_of_prepare hprepare
  have hdrawn := logged_of_renderFragments hrendered
  obtain ⟨events, hlog, htells⟩ := hread.trans hdrawn
  -- the last event is no alert and no notice
  refine ⟨events ++ [.done], ?_, ?_⟩
  · rw [← List.append_assoc, ← hlog]
  · have hdone := htells.append .done
    rwa [List.append_nil, List.append_nil] at hdone

end Rendering

namespace Publication

theorem logged_of_publish {path text : Text} (h : publish path text world = (.ok (), after)) :
    Logged world after [] [path] := by
  rw [publish_apply] at h
  cases hwrite : world.files.writeText world.here path text with
  | error cause =>
    rw [hwrite] at h
    cases h
  | ok files =>
    rw [hwrite] at h
    cases h
    exact ⟨_, rfl, .wrote path⟩

theorem logged_of_write {directory page stylesheet : Text} {report : List History}
    (h : write directory report world = (.ok (page, stylesheet), after)) :
    Logged world after [] [stylesheet, page] := by
  rw [write_eq] at h
  obtain ⟨_, _, hrequire, hfirst⟩ := Run.ok_of_bind h
  obtain ⟨_, between, hstyle, hsecond⟩ := Run.ok_of_bind hfirst
  obtain ⟨_, last, hpage, hend⟩ := Run.ok_of_bind hsecond
  cases hend
  obtain rfl := of_requireDirectory_eq_ok hrequire
  exact (logged_of_publish hstyle).trans (logged_of_publish hpage)

theorem logged_of_publishDocuments {directory : Text} {compare : Text → Text → Text}
    {publication : Publication}
    (h : publishDocuments documents directory compare world = (.ok publication, after)) :
    Logged world after publication.diagnostics [publication.stylesheet, publication.page] := by
  obtain ⟨paths, _, hpaths, hrequiring⟩ := Run.ok_of_bind h
  obtain ⟨_, _, hrequire, hextracting⟩ := Run.ok_of_bind hrequiring
  obtain ⟨extraction, read, hextract, hwriting⟩ := Run.ok_of_bind hextracting
  obtain ⟨⟨page, stylesheet⟩, last, hwrite, hend⟩ := Run.ok_of_bind hwriting
  cases hend
  obtain ⟨-, rfl⟩ := Documents.of_resolveAll_eq_ok hpaths
  obtain rfl := of_requireDirectory_eq_ok hrequire
  have hboth := (Documents.logged_of_extract hextract).trans (logged_of_write hwrite)
  rwa [List.append_nil] at hboth

end Publication

/-- **The log and the results agree.** Whenever documents are read, fragments are rendered,
documents are rendered or their histories are published without a fault, the warnings and errors
that are logged meanwhile are those of the diagnostics that result, and the notices are those of the
files that are written, in order and with no others. -/
theorem log_agrees (documents : List Text) (world : World) :
    (∀ filter extraction after,
      Documents.extract filter documents world = (.ok extraction, after) →
      Logged world after extraction.diagnostics []) ∧
    (∀ fragments directory renderer result after,
      renderFragments fragments directory renderer world = (.ok result, after) →
      Logged world after result.diagnostics (Rendering.shownOf result.written)) ∧
    (∀ root settings renderer result after,
      renderDocuments documents root settings renderer world = (.ok result, after) →
      Logged world after result.diagnostics (Rendering.shownOf result.written)) ∧
    ∀ directory compare publication after,
      publishDocuments documents directory compare world = (.ok publication, after) →
      Logged world after publication.diagnostics [publication.stylesheet, publication.page] := by
  refine ⟨?_, ?_, ?_, ?_⟩
  · intro filter extraction after h
    exact Documents.logged_of_extract h
  · intro fragments directory renderer result after h
    exact Rendering.logged_of_renderFragments h
  · intro root settings renderer result after h
    exact Rendering.logged_of_renderDocuments h
  · intro directory compare publication after h
    exact Publication.logged_of_publishDocuments h

end Runs

/-- A document with a fragment for the templates of `p`, one for those of `q`, and an incomplete
declaration. -/
def reportedText : Text :=
  ("\x7blang='x' name='n' template='p' ver='1'\x7d\n  x\n" ++
    "\x7blang='x' name='m' template='q' ver='2'\x7d\n  y\n" ++
    "\x7blang='x' name='k'\x7d\n").toList

/-- The document beside a directory with a template that fits `p` and none that fits `q`. -/
def reportedWorld : World where
  files := ⟨[([['b']], .file (.text reportedText)), ([['d']], .directory),
    ([['d'], ['p', '.', 'c', '.', 'j']], .file (.text ['s']))]⟩
  here := []

/-- The fragments of the document. -/
def reportedFragments : List Fragment :=
  [⟨[['x', '\n']], ['n'], ['p'], 1, 1, ['b']⟩, ⟨[['y', '\n']], ['m'], ['q'], 2, 3, ['b']⟩]

open Rendering in
/-- Reading warns of the declaration, and rendering reports the missing template at the second
version, at which the other one is written once more. -/
theorem log_agrees_at_missing_template :
    (∃ extraction after,
      Documents.extract .none [['b']] reportedWorld = (.ok extraction, after) ∧
      Logged reportedWorld after extraction.diagnostics [] ∧
      extraction.diagnostics.map Diagnostic.severity = [.warning]) ∧
    (∃ result after,
      renderFragments reportedFragments ⟨['d'], ['j']⟩ showScope reportedWorld =
        (.ok result, after) ∧
      Logged reportedWorld after result.diagnostics (shownOf result.written) ∧
      result.diagnostics.map Diagnostic.severity = [.error]) ∧
    (∃ result after,
      renderDocuments [['b']] ['d'] shortSettings showScope reportedWorld = (.ok result, after) ∧
      Logged reportedWorld after result.diagnostics (shownOf result.written) ∧
      result.diagnostics.map Diagnostic.version = [none, some 2]) ∧
    ∃ publication after,
      publishDocuments [['b']] ['d'] (fun _ new => new) reportedWorld = (.ok publication, after) ∧
      Logged reportedWorld after publication.diagnostics
        [publication.stylesheet, publication.page] ∧
      publication.diagnostics.map Diagnostic.severity = [.warning] := by
  obtain ⟨hextract, hfragments, hdocuments, hpublish⟩ := log_agrees [['b']] reportedWorld
  refine ⟨?_, ?_, ?_, ?_⟩
  · obtain ⟨extraction, after, h, hpart⟩ := Run.exists_of_map_eq_ok
      (Documents.extract .none [['b']]) reportedWorld
      (fun e => e.diagnostics.map Diagnostic.severity) (b := [.warning]) (by decide +kernel)
    exact ⟨extraction, after, h, hextract _ _ _ h, hpart⟩
  · obtain ⟨result, after, h, hpart⟩ := Run.exists_of_map_eq_ok
      (renderFragments reportedFragments ⟨['d'], ['j']⟩ showScope) reportedWorld
      (fun r => r.diagnostics.map Diagnostic.severity) (b := [.error]) (by decide +kernel)
    exact ⟨result, after, h, hfragments _ _ _ _ _ h, hpart⟩
  · obtain ⟨result, after, h, hpart⟩ := Run.exists_of_map_eq_ok
      (renderDocuments [['b']] ['d'] shortSettings showScope) reportedWorld
      (fun r => r.diagnostics.map Diagnostic.version) (b := [none, some 2]) (by decide +kernel)
    exact ⟨result, after, h, hdocuments _ _ _ _ _ h, hpart⟩
  · obtain ⟨publication, after, h, hpart⟩ := Run.exists_of_map_eq_ok
      (publishDocuments [['b']] ['d'] fun _ new => new) reportedWorld
      (fun p => p.diagnostics.map Diagnostic.severity) (b := [.warning]) (by decide +kernel)
    exact ⟨publication, after, h, hpublish _ _ _ _ h, hpart⟩

end Tangle
