import Tangle.Proofs.Rendering.Deeds
import Tangle.Proofs.Rendering.Schedule

/-!
# The reach of a rendering run

A glob finds only what lies directly in the directory of templates, but an identifier that ends in
the suffix is joined to the path of the directory as it is written. While all of these are names, a
run stays in the directory: it writes nowhere else, and what it writes and how it ends does not
depend on what any file elsewhere holds, apart from the documents. An identifier with two dots and a
slash leads out of it.
-/

namespace Tangle

namespace TemplateDirectory

variable {directory : TemplateDirectory} {identifier : Text} {tree other : FileTree}
variable {here base : Location}

/-- Every name that an identifier can stand for is one that a file can have. -/
theorem isName_of_mem_namesIn (hroot : tree.locate here directory.root = .ok base)
    (hlisted : ∀ name ∈ tree.childNames base, Path.IsName name)
    (hexact : identifier.endsWith ('.' :: directory.suffix) = true → Path.IsName identifier)
    {names : List Text} (h : directory.namesIn identifier tree here = .ok names) :
    ∀ name ∈ names, Path.IsName name := by
  unfold namesIn at h
  split at h
  · rename_i hends
    cases h
    intro name hname
    obtain rfl := List.mem_singleton.mp hname
    exact hexact hends
  · -- what a glob finds was listed
    split at h
    · cases h
    · split at h
      · rename_i listed hlist
        cases h
        intro name hname
        refine hlisted name ?_
        have hmem := List.mem_of_mem_filter (List.mem_mergeSort.mp hname)
        rw [FileTree.fileNames, hroot] at hlist
        dsimp only at hlist
        split at hlist
        · cases hlist
        · cases hlist
        · cases hlist
          exact hmem
      · cases h

/-- In two trees with the same folder an identifier can stand for the same names. -/
theorem namesIn_eq_of_sameFolder (hroot : tree.locate here directory.root = .ok base)
    (h : FileTree.SameFolder base tree other) :
    directory.namesIn identifier other here = directory.namesIn identifier tree here := by
  unfold namesIn
  rw [FileTree.fileNames_congr hroot (h.directories.locate_eq_ok hroot) h.node?_eq h.childNames_eq]

/-- A name that is joined to the path of the directory leads to the location below it. -/
theorem of_locate_join (hthere : directory.root ≠ [] ∧ '\x00' ∉ directory.root)
    {name : Text} (hname : Path.IsName name) {location : Location}
    (h : tree.locate here (Path.join directory.root name) = .ok location) :
    ∃ folder, tree.locate here directory.root = .ok folder ∧ location = folder ++ [name] := by
  rw [Path.join_of_slash_notMem _ hname.slash] at h
  obtain ⟨folder, hleads, rfl, -⟩ :=
    FileTree.exists_leadsTo (Path.isFront_frontOf directory.root) hname h
  exact ⟨folder, ((FileTree.locate_eq_ok_iff_leadsTo hthere.1 hthere.2).mpr hleads).1, rfl⟩

end TemplateDirectory

namespace Rendering

variable {directory : TemplateDirectory} {renderer : Renderer} {visit : Visit}
variable {tree other : FileTree} {here base : Location}

/-! ## A visit stays in the directory -/

/-- The identifiers that are taken as they are written are names. -/
def Visit.Plain (directory : TemplateDirectory) (visit : Visit) : Prop :=
  visit.identifier.endsWith ('.' :: directory.suffix) = true → Path.IsName visit.identifier

/-- What a visit puts somewhere, it puts into the directory. -/
theorem Visit.mem_base_of_mem_edits (hplain : visit.Plain directory)
    (hroot : tree.locate here directory.root = .ok base)
    (hlisted : ∀ name ∈ tree.childNames base, Path.IsName name) {edit : Location × Text}
    (h : edit ∈ (visit.deed directory renderer tree here).edits) :
    ∃ name, edit.1 = base ++ [name] ∧ tree.Fits base name := by
  rcases visit.deed_cases tree here with ⟨hnone, -⟩ |
    ⟨names, path, output, location, text, hnames, hfirst, hdraft, hedits, -⟩
  · rw [hnone] at h
    cases h
  · rw [hedits] at h
    obtain rfl := List.mem_singleton.mp h
    obtain ⟨name, hmem, rfl⟩ := TemplateDirectory.exists_of_mem_firstPath? hfirst
    have hname := TemplateDirectory.isName_of_mem_namesIn hroot hlisted hplain hnames name hmem
    obtain ⟨file, folder, -, -, hlies, -, -, hlocation, hfits⟩ := Visit.of_draft_eq_ok hdraft
    -- the template lies in the directory, and the output beside it
    obtain ⟨folder', hroot', heq⟩ := TemplateDirectory.of_locate_join
      (FileTree.of_locate_eq_ok hroot) hname hlies.locate
    cases hroot.symm.trans hroot'
    obtain ⟨rfl, -⟩ := List.append_inj' heq rfl
    exact ⟨_, hlocation, hfits⟩

/-- A visit does the same deed on two trees that show the same in the directory. -/
theorem Visit.deed_eq_of_sameFolder (hplain : visit.Plain directory)
    (hroot : tree.locate here directory.root = .ok base)
    (hlisted : ∀ name ∈ tree.childNames base, Path.IsName name)
    (h : FileTree.SameFolder base tree other) :
    visit.deed directory renderer other here = visit.deed directory renderer tree here := by
  refine Visit.deed_congr h.directories (TemplateDirectory.namesIn_eq_of_sameFolder hroot h)
    fun names hnames path hpath => .of_node?_eq h.directories fun location hlocate => ?_
  -- the file that the visit looks at lies in the directory, where the trees are the same
  obtain ⟨name, hmem, rfl⟩ := TemplateDirectory.exists_of_mem_firstPath? hpath
  have hname := TemplateDirectory.isName_of_mem_namesIn hroot hlisted hplain hnames name hmem
  obtain ⟨folder, hroot', rfl⟩ := TemplateDirectory.of_locate_join
    (FileTree.of_locate_eq_ok hroot) hname hlocate
  cases hroot.symm.trans hroot'
  exact h.node?_child_eq name

/-! ## A run stays in the directory -/

/-- A tree as it is in the course of a run: the directories are those of the beginning, and the
directory of templates holds files with proper names. -/
structure Within (base : Location) (initial tree : FileTree) : Prop where
  directories : FileTree.SameDirectories initial tree
  named : ∀ name ∈ tree.childNames base, Path.IsName name

theorem Within.putAll {initial : FileTree} (h : Within base initial tree)
    {edits : List (Location × Text)}
    (hedits : ∀ edit ∈ edits, ∃ name, edit.1 = base ++ [name] ∧ tree.Fits base name) :
    Within base initial (tree.putAll edits) := by
  induction edits generalizing tree with
  | nil => exact h
  | cons edit more ih =>
    obtain ⟨location, text⟩ := edit
    obtain ⟨name, rfl, hfits⟩ := hedits (location, text) List.mem_cons_self
    have hput : FileTree.SameDirectories tree (tree.put (base ++ [name]) (.file (.text text))) :=
      .put hfits.free _
    refine ih ⟨h.directories.trans hput, fun other hother => ?_⟩ fun later hlater => ?_
    · -- a name in the directory was there before, or it is that of the edit
      rcases FileTree.mem_childNames_put hother with hother | heq
      · exact h.named other hother
      · obtain ⟨-, hlast⟩ := List.append_inj' heq rfl
        exact List.singleton_inj.mp hlast ▸ hfits.isName
    · obtain ⟨name', heq, hfits'⟩ := hedits later (List.mem_cons_of_mem _ hlater)
      exact ⟨name', heq, hput.fits hfits'⟩

section Tour

variable {visits : List Visit} {initial : FileTree}

/-- A step of a tour that visits plain identifiers. -/
theorem Within.deed (h : Within base initial tree)
    (hroot : initial.locate here directory.root = .ok base) (hplain : visit.Plain directory) :
    ∀ edit ∈ (visit.deed directory renderer tree here).edits,
      ∃ name, edit.1 = base ++ [name] ∧ tree.Fits base name :=
  fun _ hedit =>
    Visit.mem_base_of_mem_edits hplain (h.directories.locate_eq_ok hroot) h.named hedit

/-- **All edits of a tour are made directly in the directory.** -/
theorem mem_base_of_mem_edits (hroot : initial.locate here directory.root = .ok base)
    (hplain : ∀ visit ∈ visits, visit.Plain directory) (h : Within base initial initial)
    {edit : Location × Text}
    (hedit : edit ∈ (deeds directory renderer visits initial here).flatMap (·.edits)) :
    ∃ name, edit.1 = base ++ [name] ∧ Path.IsName name := by
  obtain ⟨deed, hdeed, hedit⟩ := List.mem_flatMap.mp hedit
  obtain ⟨visit, hvisit, between, hbetween, rfl⟩ := exists_of_mem_deeds directory renderer
    (fun visit hvisit tree hwithin =>
      hwithin.putAll (hwithin.deed hroot (hplain visit hvisit))) h hdeed
  obtain ⟨name, heq, hfits⟩ := hbetween.deed hroot (hplain visit hvisit) edit hedit
  exact ⟨name, heq, hfits.isName⟩

variable (renderer)

/-- **A tour does the same on two trees that show the same in the directory.** -/
theorem deeds_of_sameFolder (hroot : initial.locate here directory.root = .ok base)
    (hplain : ∀ visit ∈ visits, visit.Plain directory) (h : Within base initial initial)
    (hsame : FileTree.SameFolder base initial other) :
    deeds directory renderer visits other here = deeds directory renderer visits initial here ∧
      FileTree.SameFolder base
        (initial.putAll ((deeds directory renderer visits initial here).flatMap (·.edits)))
        (other.putAll ((deeds directory renderer visits initial here).flatMap (·.edits))) := by
  have hcongr := deeds_congr directory renderer
    (R := fun tree other => Within base initial tree ∧ FileTree.SameFolder base tree other)
    (fun visit hvisit tree other hR => Visit.deed_eq_of_sameFolder (hplain visit hvisit)
      (hR.1.directories.locate_eq_ok hroot) hR.1.named hR.2)
    (fun visit hvisit between other hR _ =>
      have hedits := hR.1.deed hroot (hplain visit hvisit)
      ⟨hR.1.putAll hedits, hR.2.putAll hedits⟩) ⟨h, hsame⟩
  exact ⟨hcongr.1, hcongr.2.2⟩

end Tour

/-! ## What a run sees and changes -/

/-- Two worlds look the same to a run: they have the same documents, and show the same in the
directory of templates. -/
structure SameView (documents : List Text) (root : Text) (world other : World) : Prop where
  here_eq : other.here = world.here
  documents : ∀ path ∈ documents, ∀ spelling ∈ Documents.spellings path,
    world.files.SameFileAt other.files world.here spelling
  has_eq : other.files.has world.here root = world.files.has world.here root
  folder : ∀ base, world.files.locate world.here root = .ok base →
    FileTree.SameFolder base world.files other.files

variable {documents : List Text} {root : Text} {settings : Settings} {world : World}

/-- A run is prepared in the same way in all worlds that look the same to it. -/
theorem SameView.exists_prepare_eq {other ready : World}
    {prepared : Except Fault (TemplateDirectory × Extraction)}
    (hview : SameView documents root world other)
    (h : prepare documents root settings world = (prepared, ready)) :
    ∃ ready', prepare documents root settings other = (prepared, ready') :=
  (prepare_alike hview.documents hview.has_eq).exists_apply_eq h rfl rfl rfl hview.here_eq

/-- At the beginning a tree is as it is in the course of a run, if its names are proper ones. -/
theorem within_of_named (named : ∀ entry ∈ tree.nodes, ∀ name ∈ entry.1, Path.IsName name) :
    Within base tree tree := by
  refine ⟨.refl tree, fun name hname => ?_⟩
  obtain ⟨entry, hentry, hname⟩ := List.mem_filterMap.mp hname
  refine named entry hentry name ?_
  rw [FileTree.of_childName?_eq_some hname]
  exact List.mem_append_right _ (List.mem_singleton_self name)

/-- What changes by edits in a folder lies in this folder. -/
theorem exists_name_of_node?_putAll_ne {edits : List (Location × Text)} {location : Location}
    (hedits : ∀ edit ∈ edits, ∃ name, edit.1 = base ++ [name] ∧ Path.IsName name)
    (hne : (tree.putAll edits).node? location ≠ tree.node? location) :
    ∃ name, location = base ++ [name] ∧ Path.IsName name := by
  -- a location without an edit would hold what it held
  by_contra hnot
  refine hne (FileTree.node?_putAll_of_notMem (fun edit hedit => ?_) ?_)
  · obtain ⟨name, heq, -⟩ := hedits edit hedit
    simp [heq]
  · rintro edit hedit rfl
    exact hnot (hedits edit hedit)

/-- **A run stays in the directory of its templates.** Let the names in a file tree be such as files
have, and let the identifiers that are taken as file names be names as well. Then whatever way a run
ends, it has changed nothing but files directly in the directory, and all files that it tells of lie
there. And it ends in the same way, with the same files in the directory, in any other world that
looks the same to it: what files elsewhere hold has no part in it. -/
theorem confined
    (named : ∀ entry ∈ world.files.nodes, ∀ name ∈ entry.1, Path.IsName name)
    (plain : ∀ extraction, (Command.extractDocuments documents settings world).1 = .ok extraction →
      ∀ f ∈ extraction.fragments, f.template.endsWith ('.' :: settings.suffix) = true →
        Path.IsName f.template) :
    let ended := renderDocuments documents root settings renderer world
    (∀ location, ended.2.files.node? location ≠ world.files.node? location →
      ∃ base name, world.files.locate world.here root = .ok base ∧ location = base ++ [name] ∧
        Path.IsName name) ∧
    (∀ result, ended.1 = .ok result → ∀ entry ∈ result.written,
      ∃ base name, world.files.locate world.here root = .ok base ∧
        world.files.locate world.here entry.path = .ok (base ++ [name])) ∧
    ∀ other, SameView documents root world other →
      let ended' := renderDocuments documents root settings renderer other
      ended'.1 = ended.1 ∧
        ∀ base, world.files.locate world.here root = .ok base →
          FileTree.SameFolder base ended.2.files ended'.2.files := by
  intro ended
  cases hprepare : prepare documents root settings world with
  | mk prepared ready =>
  cases prepared with
  | error fault =>
    -- nothing is written by a run that is not prepared
    obtain ⟨hended, hfiles, -⟩ := renderDocuments_of_not_prepared renderer hprepare
    rw [show ended = _ from hended]
    refine ⟨fun location hne => absurd (congrArg (FileTree.node? · location) hfiles) hne,
      fun result hresult => (nomatch hresult), fun other hview => ?_⟩
    obtain ⟨ready', hprepare'⟩ := hview.exists_prepare_eq hprepare
    obtain ⟨hended', hfiles', -⟩ := renderDocuments_of_not_prepared renderer hprepare'
    rw [hended']
    refine ⟨rfl, fun base hbase => ?_⟩
    rw [hfiles, hfiles']
    exact hview.folder base hbase
  | ok prepared =>
    obtain ⟨directory, extraction⟩ := prepared
    obtain ⟨rfl, hthere, hextract⟩ := of_prepare_eq_ok hprepare
    obtain ⟨hending, hfiles, -⟩ := renderDocuments_of_prepared renderer hprepare
    obtain ⟨base, node, hroot, -⟩ := FileTree.has_eq_true_iff.mp hthere
    have hwithin : Within base world.files world.files := within_of_named named
    have hplain : ∀ visit ∈ tour extraction.fragments, visit.Plain ⟨root, settings.suffix⟩ := by
      intro visit hvisit hends
      obtain ⟨f, hf, heq⟩ := exists_fragment_of_mem_tour hvisit
      rw [← heq] at hends ⊢
      exact plain extraction hextract f hf hends
    have hedits : ∀ edit ∈ (deeds ⟨root, settings.suffix⟩ renderer (tour extraction.fragments)
        world.files world.here).flatMap (·.edits),
          ∃ name, edit.1 = base ++ [name] ∧ Path.IsName name :=
      fun _ hedit => mem_base_of_mem_edits hroot hplain hwithin hedit
    refine ⟨fun location hne => ?_, fun result hresult entry hentry => ?_, fun other hview => ?_⟩
    · rw [hfiles] at hne
      obtain ⟨name, heq, hname⟩ := exists_name_of_node?_putAll_ne hedits hne
      exact ⟨base, name, hroot, heq, hname⟩
    · -- what the run tells of was edited
      obtain ⟨extraction', _, rendered, hprepare', hrendered, hwritten, -⟩ :=
        of_renderDocuments_eq_ok renderer (Prod.ext (y := (_, _)) hresult rfl)
      rw [hprepare] at hprepare'
      cases hprepare'
      rw [hwritten] at hentry
      obtain ⟨edit, hedit, hlocate⟩ := (edits_written_of_endingOf _ _ hrendered).2 entry hentry
      obtain ⟨name, heq, -⟩ := hedits edit hedit
      exact ⟨base, name, hroot, heq ▸ hlocate⟩
    · -- in the other world the run makes the same tour, and so the same deeds
      obtain ⟨ready', hprepare'⟩ := hview.exists_prepare_eq hprepare
      obtain ⟨hending', hfiles', -⟩ := renderDocuments_of_prepared renderer hprepare'
      obtain ⟨hdeeds, hfolder⟩ :=
        deeds_of_sameFolder renderer hroot hplain hwithin (hview.folder base hroot)
      rw [hview.here_eq, hdeeds] at hending' hfiles'
      refine ⟨hending'.trans hending.symm, fun base' hbase' => ?_⟩
      cases hroot.symm.trans hbase'
      rw [hfiles, hfiles']
      exact hfolder

/-- A document that names a template file, beside a directory with this file. -/
def insideWorld : World where
  files := ⟨[
    ([['b']], .file (.text "\x7blang='x' name='n' template='p.c.j' ver='1'\x7d\n  x\n".toList)),
    ([['d']], .directory), ([['d'], ['p', '.', 'c', '.', 'j']], .file (.text ['s']))]⟩
  here := []

/-- The same with one more file elsewhere. -/
def widerWorld : World :=
  { insideWorld with files := insideWorld.files.put [['y']] (.file (.text ['t'])) }

theorem sameView_widerWorld : SameView [['b']] ['d'] insideWorld widerWorld := by
  have hfree : insideWorld.files.node? [['y']] ≠ some .directory := by decide
  have hdirs : FileTree.SameDirectories insideWorld.files widerWorld.files := .put hfree _
  refine ⟨rfl, fun path hpath spelling hspelling => ?_, by decide, fun base hbase => ?_⟩
  · -- neither spelling leads to the other file
    obtain rfl := List.mem_singleton.mp hpath
    refine .of_node?_eq hdirs fun location hlocate => ?_
    have hne : ∀ spelling ∈ Documents.spellings ['b'],
        insideWorld.files.locate [] spelling ≠ .ok [['y']] := by
      decide
    rw [widerWorld, FileTree.node?_put _ (by decide), if_neg]
    rintro rfl
    exact hne spelling hspelling hlocate
  · have hroot : insideWorld.files.locate [] ['d'] = .ok [['d']] := by decide
    cases hroot.symm.trans hbase
    exact ⟨hdirs, by decide, by decide⟩

/-- The run changes the directory alone, and does not see the file elsewhere. -/
theorem confined_beside_other_file :
    let ended := renderDocuments [['b']] ['d'] shortSettings showScope insideWorld
    ended.1 = .ok {
      written := [⟨['p', '.', 'c', '.', 'j'], 1, ['d', '/', 'p', '-', '1', '.', 'c']⟩]
      versions := some (1, 1) } ∧
    (∀ location, ended.2.files.node? location ≠ insideWorld.files.node? location →
      ∃ name, location = [['d'], name]) ∧
    (renderDocuments [['b']] ['d'] shortSettings showScope widerWorld).1 = ended.1 := by
  have hextract : (Command.extractDocuments [['b']] shortSettings insideWorld).1 =
      .ok ⟨[⟨[['x', '\n']], ['n'], ['p', '.', 'c', '.', 'j'], 1, 1, ['b']⟩], []⟩ := by
    decide +kernel
  have hplain : ∀ extraction, (Command.extractDocuments [['b']] shortSettings insideWorld).1 =
      .ok extraction → ∀ f ∈ extraction.fragments,
        f.template.endsWith ('.' :: shortSettings.suffix) = true → Path.IsName f.template := by
    intro extraction h f hf _
    cases hextract.symm.trans h
    obtain rfl := List.mem_singleton.mp hf
    decide
  obtain ⟨hchanged, -, hview⟩ :=
    @confined showScope [['b']] ['d'] shortSettings insideWorld (by decide) hplain
  refine ⟨by decide +kernel, fun location hne => ?_, (hview widerWorld sameView_widerWorld).1⟩
  obtain ⟨base, name, hbase, rfl, -⟩ := hchanged location hne
  have hroot : insideWorld.files.locate [] ['d'] = .ok [['d']] := by decide
  cases hroot.symm.trans hbase
  exact ⟨name, rfl⟩

/-- A document that names a template file outside the directory. -/
def outsideWorld : World where
  files := ⟨[
    ([['b']], .file (.text "\x7blang='x' name='n' template='../x.c.j' ver='1'\x7d\n  x\n".toList)),
    ([['d']], .directory), ([['x', '.', 'c', '.', 'j']], .file (.text ['s', '\n']))]⟩
  here := []

/-- The file outside is read, and another one is written beside it. -/
theorem not_confined :
    let ended := renderDocuments [['b']] ['d'] shortSettings Stencil.renderer outsideWorld
    outsideWorld.files.locate [] ['d'] = .ok [['d']] ∧
    ended.1 = .ok {
      written := [⟨['.', '.', '/', 'x', '.', 'c', '.', 'j'], 1,
        ['d', '/', '.', '.', '/', 'x', '-', '1', '.', 'c']⟩]
      versions := some (1, 1) } ∧
    outsideWorld.files.node? [['x', '-', '1', '.', 'c']] = none ∧
    ended.2.files.node? [['x', '-', '1', '.', 'c']] = some (.file (.text ['s', '\n'])) := by
  refine ⟨?_, ?_, ?_, ?_⟩
  · decide
  · decide +kernel
  · decide
  · decide +kernel

end Rendering

end Tangle
