import Tangle.Proofs.Rendering.Repetition

/-!
# The order of documents

The order of its documents decides in which order a run references templates and binds names. Where
nothing is declared twice and templates are apart from each other, that is all it decides: reordered
fragments have the same visits, each visit does what it would do on the tree of the beginning, and
no two of them put a text at one location. A suffix with a backslash breaks this, since a glob takes
it for another one.
-/

namespace Tangle

namespace Fragment

variable {fragments reordered : List Fragment}

/-! ## Reordered fragments -/

theorem IsLatest.of_perm (hperm : fragments.Perm reordered) {template name : Text} {version : Nat}
    {f : Fragment} (h : IsLatest fragments template name version f) :
    IsLatest reordered template name version f :=
  { h with
    mem := hperm.mem_iff.mp h.mem
    greatest := fun g hg => h.greatest g (hperm.mem_iff.mpr hg) }

theorem latestBelow?_of_perm (distinct : (fragments.map key).Nodup)
    (hperm : fragments.Perm reordered) (template name : Text) (version : Nat) :
    latestBelow? reordered template name (version + 1) =
      latestBelow? fragments template name (version + 1) := by
  have distinct' := (hperm.map key).nodup_iff.mp distinct
  refine Option.ext fun f => ?_
  rw [latestBelow?_eq_some_iff distinct, latestBelow?_eq_some_iff distinct']
  exact ⟨.of_perm hperm.symm, .of_perm hperm⟩

end Fragment

namespace Rendering

variable {fragments reordered : List Fragment}

theorem versionRange_of_perm (hperm : fragments.Perm reordered) :
    versionRange reordered = versionRange fragments := by
  have hmem (version : Nat) : version ∈ reordered.map Fragment.version ↔
      version ∈ fragments.map Fragment.version := (hperm.map _).mem_iff.symm
  have hmin : (reordered.map Fragment.version).min? = (fragments.map Fragment.version).min? := by
    refine Option.ext fun version => ?_
    simp only [List.min?_eq_some_iff, hmem]
  have hmax : (reordered.map Fragment.version).max? = (fragments.map Fragment.version).max? := by
    refine Option.ext fun version => ?_
    simp only [List.max?_eq_some_iff, hmem]
  rw [versionRange, versionRange, hmin, hmax]

theorem Visit.Faithful.of_perm (distinct : (fragments.map Fragment.key).Nodup)
    (hperm : fragments.Perm reordered) {visit : Visit} (h : visit.Faithful fragments) :
    visit.Faithful reordered :=
  { h with
    lookup := fun name => by rw [h.lookup, Fragment.latestBelow?_of_perm distinct hperm] }

/-- **The tours of reordered fragments make the same visits.** -/
theorem tour_perm (distinct : (fragments.map Fragment.key).Nodup)
    (hperm : fragments.Perm reordered) : (tour fragments).Perm (tour reordered) := by
  have distinct' := (hperm.map Fragment.key).nodup_iff.mp distinct
  have hrange' := versionRange_of_perm hperm
  cases hrange : versionRange fragments with
  | none =>
    rw [hrange] at hrange'
    rw [tour, tour, hrange, hrange']
  | some range =>
    rw [hrange] at hrange'
    refine (List.perm_ext_iff_of_nodup (nodup_tour _) (nodup_tour _)).mpr fun visit => ?_
    rw [mem_tour_iff hrange, mem_tour_iff hrange']
    simp only [hperm.mem_iff]
    exact and_congr_right fun _ => ⟨.of_perm distinct hperm, .of_perm distinct' hperm.symm⟩

/-! ## Where texts are put -/

section Places

variable {directory : TemplateDirectory} {renderer : Renderer} {visit other : Visit}
variable {tree : FileTree} {here : Location} {path path' text text' : Text}
variable {file file' : TemplateFile} {folder folder' : Location}

/-- Two visits write to one place only from one template and at one version. -/
theorem Visit.Writes.samePlace_of_eq
    (h : visit.Writes directory renderer tree here path file folder text)
    (h' : other.Writes directory renderer tree here path' file' folder' text')
    (heq : folder ++ [file.outputName visit.version] =
      folder' ++ [file'.outputName other.version]) :
    visit.version = other.version ∧ tree.SamePlace here path path' := by
  obtain ⟨-, -, hdot⟩ := TemplateFile.of_ofPath_eq_ok h.named
  obtain ⟨-, -, hdot'⟩ := TemplateFile.of_ofPath_eq_ok h'.named
  obtain ⟨hfolder, hname⟩ := List.append_inj' heq rfl
  obtain ⟨hstem, hextension, hversion⟩ :=
    TemplateFile.outputName_inj hdot hdot' (List.singleton_inj.mp hname)
  refine ⟨hversion, _, h.lies.locate, ?_⟩
  rw [h'.lies.locate, hfolder, TemplateFile.fullName, TemplateFile.fullName, hstem, hextension]

end Places

/-! ## Separate fragments -/

/-- Fragments that do not get in the way of each other when they are rendered. -/
structure Separate (directory : TemplateDirectory) (fragments : List Fragment) (tree : FileTree)
    (here : Location) : Prop where
  /-- Nothing is declared twice. -/
  distinct : (fragments.map Fragment.key).Nodup
  /-- Globs mean what is written. -/
  escapable : ∀ f ∈ fragments, directory.Escapable f.template
  /-- No two templates are found in one file. -/
  apart : ∀ f ∈ fragments, ∀ g ∈ fragments, ∀ path path',
    directory.Finds f.template tree here (some path) →
      directory.Finds g.template tree here (some path') →
        tree.SamePlace here path path' → f.template = g.template
  /-- No template renders to a file that looks like a template. -/
  extension : ∀ f ∈ fragments, ∀ path file, directory.Finds f.template tree here (some path) →
    TemplateFile.ofPath path directory.suffix = .ok file → file.extension ≠ directory.suffix

section Separate

variable {directory : TemplateDirectory} {renderer : Renderer} {tree : FileTree} {here : Location}

theorem Separate.of_perm (hperm : fragments.Perm reordered)
    (h : Separate directory fragments tree here) : Separate directory reordered tree here where
  distinct := (hperm.map _).nodup_iff.mp h.distinct
  escapable f hf := h.escapable f (hperm.mem_iff.mpr hf)
  apart f hf g hg := h.apart f (hperm.mem_iff.mpr hf) g (hperm.mem_iff.mpr hg)
  extension f hf := h.extension f (hperm.mem_iff.mpr hf)

/-- None of their texts is put where a lookup looks. -/
theorem Separate.unsought (h : Separate directory fragments tree here)
    (grounded : tree.Grounded here) (dotless : '.' ∉ directory.suffix) {visit : Visit}
    (hvisit : visit ∈ tour fragments) {edit : Location × Text}
    (hedit : edit ∈ (visit.deed directory renderer tree here).edits) :
    ¬ directory.Sought (fragments.map Fragment.template) tree here edit.1 :=
  unsought_of_extension_ne grounded dotless h.escapable h.extension hvisit hedit

/-- Visits of their tour that write to one place are to one template and at one version. -/
theorem Separate.slot_eq (h : Separate directory fragments tree here) {visit other : Visit}
    (hvisit : visit ∈ tour fragments) (hother : other ∈ tour fragments)
    {path path' text text' : Text} {file file' : TemplateFile} {folder folder' : Location}
    (hwrites : visit.Writes directory renderer tree here path file folder text)
    (hwrites' : other.Writes directory renderer tree here path' file' folder' text')
    (heq : folder ++ [file.outputName visit.version] =
      folder' ++ [file'.outputName other.version]) : visit.slot = other.slot := by
  obtain ⟨hversion, hsame⟩ := hwrites.samePlace_of_eq hwrites' heq
  obtain ⟨f, hf, htemplate⟩ := exists_fragment_of_mem_tour hvisit
  obtain ⟨g, hg, htemplate'⟩ := exists_fragment_of_mem_tour hother
  have hidentifier := h.apart f hf g hg path path' (htemplate ▸ hwrites.finds)
    (htemplate' ▸ hwrites'.finds) hsame
  rw [htemplate, htemplate'] at hidentifier
  exact Prod.ext hidentifier hversion

/-- The visits of their tour put texts at different locations. -/
theorem Separate.nodup_locations (h : Separate directory fragments tree here) :
    (((firstDeeds directory renderer (tour fragments) tree here).flatMap (·.edits)).map
      Prod.fst).Nodup := by
  have hslots : (tour fragments).Pairwise fun visit other => visit.slot ≠ other.slot :=
    List.pairwise_map.mp (nodup_of_earlier (earlier_tour fragments))
  rw [firstDeeds, List.flatMap_map, List.map_flatMap, List.nodup_iff_pairwise_ne,
    List.pairwise_flatMap]
  constructor
  · intro visit _
    rcases visit.exists_writes tree here with ⟨hnone, -⟩ | ⟨path, file, folder, text, hwrites⟩
    · rw [hnone]
      exact List.Pairwise.nil
    · rw [hwrites.edits_eq]
      exact List.pairwise_singleton ..
  · refine hslots.imp_of_mem fun {visit other} hvisit hother hne => ?_
    rintro _ hmem _ hmem' heq
    obtain ⟨edit, hedit, rfl⟩ := List.mem_map.mp hmem
    obtain ⟨edit', hedit', rfl⟩ := List.mem_map.mp hmem'
    obtain ⟨path, file, folder, hwrites, hplace⟩ := Visit.exists_writes_of_mem_edits hedit
    obtain ⟨path', file', folder', hwrites', hplace'⟩ := Visit.exists_writes_of_mem_edits hedit'
    exact hne (h.slot_eq hvisit hother hwrites hwrites' (hplace ▸ hplace' ▸ heq))

/-- The files of a tour are told of in the order of versions. -/
theorem pairwise_written (fragments : List Fragment) :
    ((firstDeeds directory renderer (tour fragments) tree here).flatMap Deed.written).Pairwise
      fun entry later => entry.version ≤ later.version := by
  have hversions : (tour fragments).Pairwise fun visit later => visit.version ≤ later.version := by
    refine (List.pairwise_map.mp (earlier_tour fragments)).imp fun {visit later} hearlier => ?_
    rcases hearlier with hlt | ⟨heq, -⟩
    · exact Nat.le_of_lt hlt
    · exact Nat.le_of_eq heq
  rw [firstDeeds, List.flatMap_map, List.pairwise_flatMap]
  constructor
  · intro visit _
    rcases visit.exists_writes tree here with ⟨-, hnone⟩ | ⟨path, file, folder, text, hwrites⟩
    · rw [hnone]
      exact List.Pairwise.nil
    · rw [hwrites.written_eq]
      exact List.pairwise_singleton ..
  · refine hversions.imp fun {visit later} hle entry hentry next hnext => ?_
    obtain ⟨_, _, _, _, -, rfl⟩ := Visit.exists_writes_of_mem_written hentry
    obtain ⟨_, _, _, _, -, rfl⟩ := Visit.exists_writes_of_mem_written hnext
    exact hle

end Separate

/-! ## Reordered documents -/

section Documents

variable {documents reordered : List Text} {root : Text} {settings : Settings}
variable {renderer : Renderer} {world ready : World}

/-- The fragments that documents hold, one document after another. Nothing is left out because it
was declared before. -/
def declared (documents : List Text) (settings : Settings) (world : World) : List Fragment :=
  match LineFilter.compile settings.patterns settings.annotations with
  | .ok filter => documents.flatMap (Documents.fragmentsOf filter world.files world.here)
  | .error _ => []

theorem declared_perm (hperm : documents.Perm reordered) (settings : Settings) (world : World) :
    (declared documents settings world).Perm (declared reordered settings world) := by
  unfold declared
  split
  · exact hperm.flatMap_right _
  · exact .refl _

/-- A prepared run has found what its documents declare, if nothing is declared twice. -/
theorem fragments_of_prepare {directory : TemplateDirectory} {extraction : Extraction}
    (distinct : ((declared documents settings world).map Fragment.key).Nodup)
    (h : prepare documents root settings world = (.ok (directory, extraction), ready)) :
    extraction.fragments = declared documents settings world := by
  unfold prepare at h
  obtain ⟨paths, found, hresolve, hopening⟩ := Run.ok_of_bind h
  obtain ⟨hfound, rfl⟩ := Documents.of_resolveAll_eq_ok hresolve
  obtain ⟨opened, _, hopen, hfiltering⟩ := Run.ok_of_bind hopening
  obtain ⟨-, -, rfl⟩ := TemplateDirectory.of_openAt_eq_ok hopen
  rw [Run.bind_apply, Settings.filter_apply] at hfiltering
  cases hcompile : LineFilter.compile settings.patterns settings.annotations with
  | error pattern =>
    rw [hcompile] at hfiltering
    cases hfiltering
  | ok filter =>
    rw [hcompile] at hfiltering
    obtain ⟨read, _, hextract, hlast⟩ := Run.ok_of_bind hfiltering
    cases hlast
    rw [declared, hcompile] at distinct ⊢
    rw [Documents.fragments_of_extract hfound hextract, prune_of_nodup distinct]

/-- What is wrong with documents is wrong with them in any order. -/
theorem SetupFault.of_perm (hperm : documents.Perm reordered) {fault : Fault}
    (h : SetupFault documents root settings world fault) :
    SetupFault reordered root settings world fault := by
  cases h with
  | document faulty =>
    refine .document ?_
    cases faulty with
    | missing mem absent => exact .missing (hperm.mem_iff.mp mem) absent
    | unreadable mem present unread => exact .unreadable (hperm.mem_iff.mp mem) present unread
  | missingDirectory absent => exact .missingDirectory absent
  | misnamedDirectory named other => exact .misnamedDirectory named other
  | faultyPattern faulty => exact .faultyPattern faulty

/-- A run that can be prepared can be prepared with its documents in any order. -/
theorem exists_prepare_of_perm (hperm : documents.Perm reordered)
    {prepared : TemplateDirectory × Extraction}
    (h : prepare documents root settings world = (.ok prepared, ready)) :
    ∃ prepared' ready', prepare reordered root settings world = (.ok prepared', ready') := by
  cases h' : prepare reordered root settings world with
  | mk result ready' =>
    cases result with
    | ok prepared' => exact ⟨prepared', ready', rfl⟩
    | error fault =>
      exact absurd ((setupFault_of_prepare h').of_perm hperm.symm)
        (not_setupFault_of_prepare h fault)

/-- A run that cannot be prepared fails with its documents in any order. -/
theorem renderDocuments_ne_ok_of_perm (renderer : Renderer) (hperm : documents.Perm reordered)
    {fault : Fault} (h : prepare documents root settings world = (.error fault, ready))
    (result : Rendering) :
    (renderDocuments reordered root settings renderer world).1 ≠ .ok result := by
  cases hprepare : prepare reordered root settings world with
  | mk prepared ready' =>
    cases prepared with
    | ok prepared =>
      obtain ⟨prepared', ready'', hagain⟩ := exists_prepare_of_perm hperm.symm hprepare
      cases h.symm.trans hagain
    | error fault' =>
      rw [(renderDocuments_of_not_prepared renderer hprepare).1]
      intro hok
      cases hok

section Separate

variable (renderer)
  (separate : Separate ⟨root, settings.suffix⟩ (declared documents settings world) world.files
    world.here)
  (grounded : world.files.Grounded world.here) (dotless : '.' ∉ settings.suffix)

include separate grounded dotless

/-- Once a run of separate fragments is prepared, it ends as the deeds of the beginning do. -/
theorem renderDocuments_of_separate {prepared : TemplateDirectory × Extraction}
    (h : prepare documents root settings world = (.ok prepared, ready)) :
    let done := firstDeeds ⟨root, settings.suffix⟩ renderer
      (tour (declared documents settings world)) world.files world.here
    let ended := renderDocuments documents root settings renderer world
    ((∃ result, ended.1 = .ok result) ↔ ∀ deed ∈ done, ∃ result, deed.ending = .ok result) ∧
    ∀ result, ended.1 = .ok result →
      ended.2.files = world.files.putAll (done.flatMap (·.edits)) ∧
      result.versions = versionRange (declared documents settings world) ∧
      result.written = done.flatMap Deed.written := by
  intro done ended
  obtain ⟨directory, extraction⟩ := prepared
  obtain ⟨rfl, hthere, -⟩ := of_prepare_eq_ok h
  have hfragments := fragments_of_prepare separate.distinct h
  obtain ⟨hended, hfiles, -⟩ := renderDocuments_of_prepared renderer h
  rw [hfragments] at hended hfiles
  -- no visit of the tour disturbs a later one
  have hunsought : ∀ visit ∈ tour (declared documents settings world),
      ∀ edit ∈ (visit.deed ⟨root, settings.suffix⟩ renderer world.files world.here).edits,
        ¬ TemplateDirectory.Sought ⟨root, settings.suffix⟩
          ((declared documents settings world).map Fragment.template) world.files world.here
          edit.1 :=
    fun _ hvisit _ hedit => separate.unsought grounded dotless hvisit hedit
  obtain ⟨hending, hdeeds⟩ := deeds_of_unsought
    (fun _ => identifier_mem_of_mem_tour) (.refl hthere)
    (.refl hthere) hunsought
  rw [← exists_endingOf_iff, ← hending]
  cases hrendered : endingOf (deeds ⟨root, settings.suffix⟩ renderer
      (tour (declared documents settings world)) world.files world.here) with
  | error fault =>
    rw [hrendered] at hended
    rw [show ended.1 = _ from hended]
    exact ⟨by simp [Except.map], fun _ hresult => nomatch hresult⟩
  | ok rendered =>
    rw [hrendered] at hended
    rw [show ended.1 = _ from hended]
    refine ⟨by simp [Except.map], fun result hresult => ?_⟩
    have hdone := hdeeds rendered hrendered
    rw [hdone] at hfiles hrendered
    have hwritten := written_of_endingOf hrendered
    cases hresult
    exact ⟨hfiles, rfl, hwritten⟩

end Separate

/-- **Documents can be rendered in any order.** Let nothing be declared twice, let globs mean what
is written, let no two templates be found in one file, and let none render to a file that looks like
a template. Then a run ends well with its documents in one order exactly if it does in any other
one. Both runs leave the same files, tell the same range of versions, and write the same files at
each version, in the order of versions. -/
theorem rendered_in_any_order (renderer : Renderer) (hperm : documents.Perm reordered)
    (grounded : world.files.Grounded world.here) (dotless : '.' ∉ settings.suffix)
    (separate : Separate ⟨root, settings.suffix⟩ (declared documents settings world) world.files
      world.here) :
    let ended := renderDocuments documents root settings renderer world
    let ended' := renderDocuments reordered root settings renderer world
    ((∃ result, ended.1 = .ok result) ↔ ∃ result, ended'.1 = .ok result) ∧
    ∀ result result', ended.1 = .ok result → ended'.1 = .ok result' →
      (∀ location, ended'.2.files.node? location = ended.2.files.node? location) ∧
      result'.versions = result.versions ∧
      result.written.Pairwise (fun entry later => entry.version ≤ later.version) ∧
      result'.written.Pairwise (fun entry later => entry.version ≤ later.version) ∧
      ∀ version, (result.written.filter fun entry => entry.version = version).Perm
        (result'.written.filter fun entry => entry.version = version) := by
  intro ended ended'
  have hdeclared := declared_perm hperm settings world
  have separate' := separate.of_perm hdeclared
  cases hprepare : prepare documents root settings world with
  | mk prepared ready =>
  cases prepared with
  | error fault =>
    -- neither run is prepared
    have hfails := renderDocuments_ne_ok_of_perm renderer (.refl _) hprepare
    have hfails' := renderDocuments_ne_ok_of_perm renderer hperm hprepare
    refine ⟨⟨?_, ?_⟩, fun result _ hok => absurd hok (hfails result)⟩
    · rintro ⟨result, hok⟩
      exact absurd hok (hfails result)
    · rintro ⟨result, hok⟩
      exact absurd hok (hfails' result)
  | ok prepared =>
    obtain ⟨prepared', ready', hprepare'⟩ := exists_prepare_of_perm hperm hprepare
    obtain ⟨hiff, hresult⟩ :=
      renderDocuments_of_separate renderer separate grounded dotless hprepare
    obtain ⟨hiff', hresult'⟩ :=
      renderDocuments_of_separate renderer separate' grounded dotless hprepare'
    -- the same deeds are done, in another order
    have hdone : (firstDeeds ⟨root, settings.suffix⟩ renderer
        (tour (declared documents settings world)) world.files world.here).Perm
        (firstDeeds ⟨root, settings.suffix⟩ renderer
          (tour (declared reordered settings world)) world.files world.here) :=
      (tour_perm separate.distinct hdeclared).map _
    refine ⟨?_, fun result result' hok hok' => ?_⟩
    · rw [hiff, hiff']
      simp only [hdone.mem_iff]
    · obtain ⟨hfiles, hversions, hwritten⟩ := hresult result hok
      obtain ⟨hfiles', hversions', hwritten'⟩ := hresult' result' hok'
      refine ⟨fun location => ?_, ?_, ?_, ?_, fun version => ?_⟩
      · rw [hfiles, hfiles']
        refine FileTree.node?_putAll_of_perm (hdone.flatMap_right _) (fun edit hedit => ?_)
          separate.nodup_locations location
        obtain ⟨deed, hdeed, hedit⟩ := List.mem_flatMap.mp hedit
        obtain ⟨visit, -, rfl⟩ := List.mem_map.mp hdeed
        exact Visit.ne_nil_of_mem_edits hedit
      · rw [hversions, hversions', versionRange_of_perm hdeclared]
      · rw [hwritten]
        exact pairwise_written _
      · rw [hwritten']
        exact pairwise_written _
      · rw [hwritten, hwritten']
        exact (hdone.flatMap_right _).filter _

/-- A document for the templates of `q`. -/
def otherText : Text := "\x7blang='x' name='n' template='q' ver='1'\x7d\n  y\n".toList

/-- The documents `a` and `b` beside a directory with a template for each of them. -/
def pairWorld : World where
  files := ⟨[([['a']], .file (.text pageText)), ([['b']], .file (.text otherText)),
    ([['d']], .directory), ([['d'], ['p', '.', 'c', '.', 'j']], .file (.text ['s'])),
    ([['d'], ['q', '.', 'c', '.', 'j']], .file (.text ['t']))]⟩
  here := []

/-- Each of the two templates is found in its own file. -/
theorem found_of_pairWorld {f : Fragment}
    (hf : f ∈ declared [['a'], ['b']] shortSettings pairWorld) {path : Text}
    (hpath : TemplateDirectory.Finds ⟨['d'], ['j']⟩ f.template pairWorld.files [] (some path)) :
    f.template = ['p'] ∧ path = ['d', '/', 'p', '.', 'c', '.', 'j'] ∨
      f.template = ['q'] ∧ path = ['d', '/', 'q', '.', 'c', '.', 'j'] := by
  have htemplates : ∀ f ∈ declared [['a'], ['b']] shortSettings pairWorld,
      f.template = ['p'] ∨ f.template = ['q'] := by
    decide +kernel
  rcases htemplates f hf with heq | heq
  · rw [heq] at hpath
    have hp : TemplateDirectory.Finds ⟨['d'], ['j']⟩ ['p'] pairWorld.files []
        (some ['d', '/', 'p', '.', 'c', '.', 'j']) :=
      ⟨[['p', '.', 'c', '.', 'j']], by decide +kernel, by decide +kernel⟩
    exact Or.inl ⟨heq, Option.some.inj (hpath.unique hp)⟩
  · rw [heq] at hpath
    have hq : TemplateDirectory.Finds ⟨['d'], ['j']⟩ ['q'] pairWorld.files []
        (some ['d', '/', 'q', '.', 'c', '.', 'j']) :=
      ⟨[['q', '.', 'c', '.', 'j']], by decide +kernel, by decide +kernel⟩
    exact Or.inr ⟨heq, Option.some.inj (hpath.unique hq)⟩

theorem separate_pairWorld :
    Separate ⟨['d'], ['j']⟩ (declared [['a'], ['b']] shortSettings pairWorld) pairWorld.files
      [] := by
  constructor
  case distinct => decide +kernel
  case escapable =>
    refine fun f _ => Or.inl fun c hc => ?_
    obtain rfl := List.mem_singleton.mp hc
    decide
  case apart =>
    intro f hf g hg path path' hpath hpath' hsame
    rcases found_of_pairWorld hf hpath with ⟨heq, rfl⟩ | ⟨heq, rfl⟩
    · rcases found_of_pairWorld hg hpath' with ⟨heq', rfl⟩ | ⟨-, rfl⟩
      · exact heq.trans heq'.symm
      · exact absurd hsame (by decide +kernel)
    · rcases found_of_pairWorld hg hpath' with ⟨-, rfl⟩ | ⟨heq', rfl⟩
      · exact absurd hsame (by decide +kernel)
      · exact heq.trans heq'.symm
  case extension =>
    intro f hf path file hpath hfile
    rcases found_of_pairWorld hf hpath with ⟨-, rfl⟩ | ⟨-, rfl⟩
    · have hparts : TemplateFile.ofPath ['d', '/', 'p', '.', 'c', '.', 'j'] ['j'] =
          .ok ⟨['d', '/', 'p', '.', 'c', '.', 'j'], ['p'], ['c']⟩ := by
        decide +kernel
      cases hparts.symm.trans hfile
      decide
    · have hparts : TemplateFile.ofPath ['d', '/', 'q', '.', 'c', '.', 'j'] ['j'] =
          .ok ⟨['d', '/', 'q', '.', 'c', '.', 'j'], ['q'], ['c']⟩ := by
        decide +kernel
      cases hparts.symm.trans hfile
      decide

/-- The files that are left are the same, and only the order in which they are told of differs. -/
theorem rendered_in_either_order :
    ∃ result result',
      (renderDocuments [['a'], ['b']] ['d'] shortSettings showScope pairWorld).1 = .ok result ∧
      (renderDocuments [['b'], ['a']] ['d'] shortSettings showScope pairWorld).1 = .ok result' ∧
      result.written.map Rendered.path =
        [['d', '/', 'p', '-', '1', '.', 'c'], ['d', '/', 'q', '-', '1', '.', 'c']] ∧
      result'.written.map Rendered.path =
        [['d', '/', 'q', '-', '1', '.', 'c'], ['d', '/', 'p', '-', '1', '.', 'c']] ∧
      ∀ location,
        (renderDocuments [['b'], ['a']] ['d'] shortSettings showScope pairWorld).2.files.node?
          location =
        (renderDocuments [['a'], ['b']] ['d'] shortSettings showScope pairWorld).2.files.node?
          location := by
  have hfirst : (renderDocuments [['a'], ['b']] ['d'] shortSettings showScope pairWorld).1 =
      .ok {
        written := [⟨['p'], 1, ['d', '/', 'p', '-', '1', '.', 'c']⟩,
          ⟨['q'], 1, ['d', '/', 'q', '-', '1', '.', 'c']⟩]
        versions := some (1, 1) } := by
    decide +kernel
  have hsecond : (renderDocuments [['b'], ['a']] ['d'] shortSettings showScope pairWorld).1 =
      .ok {
        written := [⟨['q'], 1, ['d', '/', 'q', '-', '1', '.', 'c']⟩,
          ⟨['p'], 1, ['d', '/', 'p', '-', '1', '.', 'c']⟩]
        versions := some (1, 1) } := by
    decide +kernel
  have hdotless : '.' ∉ shortSettings.suffix := by decide
  obtain ⟨-, hsame⟩ := rendered_in_any_order showScope (List.Perm.swap ['b'] ['a'] [])
    FileTree.grounded_nil hdotless separate_pairWorld
  exact ⟨_, _, hfirst, hsecond, rfl, rfl, (hsame _ _ hfirst hsecond).1⟩

/-- A document for one template by its name, which ends in a backslash and a character. -/
def exactText : Text := "\x7blang='x' name='n' template='p.q.c.\\c' ver='1'\x7d\n  x\n".toList

/-- Settings in which the suffix of templates begins with a backslash. -/
def backslashSettings : Settings := { annotations := false, suffix := ['\\', 'c'] }

/-- The documents `a` and `b` beside a directory with the template of the second one. The first one
has none. -/
def backslashWorld : World where
  files := ⟨[([['a']], .file (.text pageText)), ([['b']], .file (.text exactText)),
    ([['d']], .directory),
    ([['d'], ['p', '.', 'q', '.', 'c', '.', '\\', 'c']], .file (.text ['s']))]⟩
  here := []

/-- In a glob the suffix stands for its second character alone. So the output is taken for a
template of the first document, unless that is rendered before it is written. -/
theorem not_rendered_in_any_order :
    ((declared [['a'], ['b']] backslashSettings backslashWorld).map Fragment.key).Nodup ∧
    '.' ∉ backslashSettings.suffix ∧
    (declared [['a'], ['b']] backslashSettings backslashWorld).map (fun f =>
        (TemplateDirectory.resolve ⟨['d'], backslashSettings.suffix⟩ f.template
          backslashWorld).1.toOption.map (·.path)) =
      [some none, some (some ['d', '/', 'p', '.', 'q', '.', 'c', '.', '\\', 'c'])] ∧
    (TemplateFile.ofPath ['d', '/', 'p', '.', 'q', '.', 'c', '.', '\\', 'c']
      backslashSettings.suffix).map TemplateFile.extension = .ok ['c'] ∧
    ((renderDocuments [['a'], ['b']] ['d'] backslashSettings showScope
      backslashWorld).1.map fun result => result.written.map Rendered.path) =
      .ok [['d', '/', 'p', '.', 'q', '-', '1', '.', 'c']] ∧
    (renderDocuments [['b'], ['a']] ['d'] backslashSettings showScope backslashWorld).1 =
      .error (.invalidTemplateExtension ['d', '/', 'p', '.', 'q', '-', '1', '.', 'c']
        ['\\', 'c']) := by
  refine ⟨?_, ?_, ?_, ?_, ?_, ?_⟩
  · decide +kernel
  · decide
  · decide +kernel
  · decide +kernel
  · decide +kernel
  · decide +kernel

end Documents

end Rendering

end Tangle
