import Mathlib
import Tangle.Proofs.Rendering.Answers
import Tangle.Proofs.Rendering.Schedule

/-!
# Rendering once more

Outputs lie beside the templates, where later lookups find them. Where no lookup does, a run that is
repeated on its own result yields the same again and leaves every file as it is. An output that can
be taken for a template breaks this.
-/

namespace Tangle

namespace Rendering

variable {renderer : Renderer}

/-! ## The second run -/

variable {documents : List Text} {root : Text} {settings : Settings} {world after start : World}
  {result : Rendering}

/-- What a run writes is put where the paths lead that it tells of. -/
theorem exists_written_of_mem_edits
    (h : renderDocuments documents root settings renderer world = (.ok result, after))
    {extraction : Extraction}
    (extracted : (Command.extractDocuments documents settings world).1 = .ok extraction)
    {edit : Location × Text}
    (hedit : edit ∈ (deeds ⟨root, settings.suffix⟩ renderer (tour extraction.fragments)
      world.files world.here).flatMap (·.edits)) :
    ∃ entry ∈ result.written, world.files.locate world.here entry.path = .ok edit.1 := by
  obtain ⟨extraction', ready, rendered, hprepare, hrendered, hwritten, -⟩ :=
    of_renderDocuments_eq_ok renderer h
  obtain ⟨-, -, hextract⟩ := of_prepare_eq_ok hprepare
  cases hextract.symm.trans extracted
  rw [hwritten]
  exact (edits_written_of_endingOf _ renderer hrendered).1 edit hedit

/-- A run with a result is repeated on other files: it ends with the same result, everything in the
file tree is afterwards what it was before, and all identifiers of its fragments are looked up to the
same template files as in the world of the first run. -/
def RepeatedOn (documents : List Text) (root : Text) (settings : Settings) (renderer : Renderer)
    (world : World) (result : Rendering) (start : World) : Prop :=
  ∃ again, renderDocuments documents root settings renderer start = (.ok result, again) ∧
    (∀ location, again.files.node? location = start.files.node? location) ∧
    ∀ extraction, (Command.extractDocuments documents settings world).1 = .ok extraction →
      ∀ f ∈ extraction.fragments,
        (TemplateDirectory.resolve ⟨root, settings.suffix⟩ f.template start).1 =
          (TemplateDirectory.resolve ⟨root, settings.suffix⟩ f.template world).1

/-- A run that makes no edit where a document can be found or a lookup looks is repeated on its own
result. -/
theorem repeated_of_unsought
    (h : renderDocuments documents root settings renderer world = (.ok result, after))
    (kept : ∀ path ∈ documents, ∀ spelling ∈ Documents.spellings path, ∀ entry ∈ result.written,
      ¬ world.files.SamePlace world.here spelling entry.path)
    (unsought : ∀ extraction,
      (Command.extractDocuments documents settings world).1 = .ok extraction →
        ∀ edit ∈ (deeds ⟨root, settings.suffix⟩ renderer (tour extraction.fragments)
          world.files world.here).flatMap (·.edits),
            ¬ TemplateDirectory.Sought ⟨root, settings.suffix⟩
              (extraction.fragments.map Fragment.template) world.files world.here edit.1)
    (files_eq : start.files = after.files) (here_eq : start.here = after.here) :
    RepeatedOn documents root settings renderer world result start := by
  obtain ⟨extraction, ready, -, hprepare, -, -, hafter, hhere⟩ :=
    of_renderDocuments_eq_ok renderer h
  obtain ⟨-, hthere, hextract⟩ := of_prepare_eq_ok hprepare
  have hids : ∀ visit ∈ tour extraction.fragments,
      visit.identifier ∈ extraction.fragments.map Fragment.template := fun _ =>
    identifier_mem_of_mem_tour
  have hunsought := unsought extraction hextract
  have hinitial : TemplateDirectory.AnswersLike ⟨root, settings.suffix⟩ world.here
      (extraction.fragments.map Fragment.template) world.files world.files := .refl hthere
  -- behind the first run all lookups are answered as before it
  obtain ⟨-, hfinal⟩ := deeds_of_answersLike hids hinitial hinitial hunsought
  -- the tour does the same deeds on the tree that the first run leaves
  obtain ⟨hagain, -⟩ := deeds_of_answersLike hids hinitial hfinal hunsought
  rw [← hafter, ← files_eq] at hfinal hagain
  have hne : ∀ edit ∈ (deeds ⟨root, settings.suffix⟩ renderer (tour extraction.fragments)
      world.files world.here).flatMap (·.edits), edit.1 ≠ [] := by
    intro edit hedit
    obtain ⟨deed, hdeed, hedit⟩ := List.mem_flatMap.mp hedit
    obtain ⟨visit, -, between, -, rfl⟩ := exists_visit_of_mem_deeds _ _ hdeed
    exact Visit.ne_nil_of_mem_edits hedit
  -- and no edit is made where a document can be found
  have hdocuments : ∀ path ∈ documents, ∀ spelling ∈ Documents.spellings path,
      world.files.SameFileAt start.files world.here spelling := by
    intro path hpath spelling hspelling
    rw [files_eq, hafter] at hfinal ⊢
    refine .putAll hfinal.directories hne fun edit hedit hlocate => ?_
    obtain ⟨entry, hentry, hplace⟩ := exists_written_of_mem_edits h hextract hedit
    exact kept path hpath spelling hspelling entry hentry ⟨edit.1, hlocate, hplace⟩
  -- the second run is prepared as the first one was, and makes its edits once more
  have hstart : start.here = world.here := here_eq.trans hhere
  obtain ⟨ready', hprepare'⟩ :=
    (prepare_alike hdocuments (hfinal.isThere.trans hthere.symm)).exists_apply_eq hprepare
      rfl rfl rfl hstart
  obtain ⟨hending, -, -⟩ := renderDocuments_of_prepared renderer hprepare
  obtain ⟨hending', hafter', -⟩ := renderDocuments_of_prepared renderer hprepare'
  rw [hstart, hagain] at hending' hafter'
  rw [h] at hending
  have hresult : (renderDocuments documents root settings renderer start).1 = .ok result :=
    hending'.trans hending.symm
  refine ⟨_, Prod.ext (y := (_, _)) hresult rfl, fun location => ?_, ?_⟩
  · rw [hafter', files_eq, hafter]
    exact FileTree.node?_putAll_again hne location
  · intro found hfound f hf
    cases hextract.symm.trans hfound
    exact hfinal.resolve (List.mem_map_of_mem hf) rfl rfl rfl hstart

/-- **A run is repeated on its own result.** Let a run end well that wrote no file where one of its
documents can be found, and none that an identifier of its fragments stands for. From the files that
it leaves, the same run ends well again, with the same files written, the same diagnostics and the
same versions, and everything in the file tree is afterwards what it was before. All identifiers are
looked up to the same template files as before the first run. -/
theorem rendered_again {documents : List Text} {root : Text} {settings : Settings}
    {world after start : World} {result : Rendering}
    (h : renderDocuments documents root settings renderer world = (.ok result, after))
    (kept : ∀ path ∈ documents, ∀ spelling ∈ Documents.spellings path, ∀ entry ∈ result.written,
      ¬ world.files.SamePlace world.here spelling entry.path)
    (unseen : ∀ extraction, (Command.extractDocuments documents settings world).1 = .ok extraction →
      ∀ f ∈ extraction.fragments, ∀ name,
        TemplateDirectory.standsFor ⟨root, settings.suffix⟩ f.template name = true →
          ∀ entry ∈ result.written,
            ¬ world.files.SamePlace world.here (Path.join root name) entry.path)
    (files_eq : start.files = after.files) (here_eq : start.here = after.here) :
    ∃ again, renderDocuments documents root settings renderer start = (.ok result, again) ∧
      (∀ location, again.files.node? location = after.files.node? location) ∧
      ∀ extraction, (Command.extractDocuments documents settings world).1 = .ok extraction →
        ∀ f ∈ extraction.fragments,
          (TemplateDirectory.resolve ⟨root, settings.suffix⟩ f.template start).1 =
            (TemplateDirectory.resolve ⟨root, settings.suffix⟩ f.template world).1 := by
  have hunsought : ∀ extraction,
      (Command.extractDocuments documents settings world).1 = .ok extraction →
        ∀ edit ∈ (deeds ⟨root, settings.suffix⟩ renderer (tour extraction.fragments)
          world.files world.here).flatMap (·.edits),
            ¬ TemplateDirectory.Sought ⟨root, settings.suffix⟩
              (extraction.fragments.map Fragment.template) world.files world.here edit.1 := by
    rintro extraction hextract edit hedit ⟨identifier, hid, name, hstands, hlocate⟩
    obtain ⟨f, hf, rfl⟩ := List.mem_map.mp hid
    obtain ⟨entry, hentry, hplace⟩ := exists_written_of_mem_edits h hextract hedit
    exact unseen extraction hextract f hf name hstands entry hentry ⟨edit.1, hlocate, hplace⟩
  obtain ⟨again, hagain, hfiles, hlookups⟩ :=
    repeated_of_unsought h kept hunsought files_eq here_eq
  exact ⟨again, hagain, fun location => files_eq ▸ hfiles location, hlookups⟩

/-- A document with one fragment for the templates of `p`. -/
def pageText : Text := "\x7blang='x' name='n' template='p' ver='1'\x7d\n  x\n".toList

/-- This document as `b`, beside a directory with one template. -/
def pageWorld : World where
  files := ⟨[([['b']], .file (.text pageText)), ([['d']], .directory),
    ([['d'], ['p', '.', 'c', '.', 'j']], .file (.text ['s']))]⟩
  here := []

/-- The output of the template is none itself, and the run can be repeated. -/
theorem rendered_again_beside_template :
    ∃ result after again,
      renderDocuments [['b']] ['d'] shortSettings showScope pageWorld = (.ok result, after) ∧
      result.written = [⟨['p'], 1, ['d', '/', 'p', '-', '1', '.', 'c']⟩] ∧
      renderDocuments [['b']] ['d'] shortSettings showScope after = (.ok result, again) ∧
      ∀ location, again.files.node? location = after.files.node? location := by
  have hrun : (renderDocuments [['b']] ['d'] shortSettings showScope pageWorld).1 =
      .ok {
        written := [⟨['p'], 1, ['d', '/', 'p', '-', '1', '.', 'c']⟩]
        versions := some (1, 1) } := by
    decide +kernel
  have h := Prod.ext (y := (_, _)) hrun rfl
  -- the output is neither the document nor a file that ends as templates do
  have hdocument : ∀ path ∈ [['b']], ∀ spelling ∈ Documents.spellings path,
      ¬ pageWorld.files.SamePlace [] spelling ['d', '/', 'p', '-', '1', '.', 'c'] := by
    decide +kernel
  have hplain : ∀ c ∈ shortSettings.suffix, c ∉ Glob.special := by
    intro c hc
    obtain rfl := List.mem_singleton.mp hc
    decide
  have hfront : Path.IsFront ['d', '/'] := Or.inr ⟨['d'], rfl⟩
  have hlast : Path.IsName ['p', '-', '1', '.', 'c'] := by decide
  obtain ⟨again, hagain, hkept, -⟩ := rendered_again h
    (fun path hpath spelling hspelling entry hentry => by
      obtain rfl := List.mem_singleton.mp hentry
      exact hdocument path hpath spelling hspelling)
    (fun extraction hextract f hf name hstands entry hentry => by
      obtain rfl := List.mem_singleton.mp hentry
      exact TemplateDirectory.not_samePlace_of_not_suffix hplain (by decide) hstands hfront hlast
        (by decide)) rfl rfl
  exact ⟨_, _, again, h, rfl, hagain, hkept⟩

/-- **Templates that render to no templates are rendered again.** Let a run end well that wrote no
file where one of its documents can be found. If the suffix has no dot, globs mean what is written,
and no template that an identifier is found in renders to a file with the suffix as its extension,
then the run is repeated on its own result. -/
theorem repeatedOn_of_extension_ne
    (h : renderDocuments documents root settings renderer world = (.ok result, after))
    (kept : ∀ path ∈ documents, ∀ spelling ∈ Documents.spellings path, ∀ entry ∈ result.written,
      ¬ world.files.SamePlace world.here spelling entry.path)
    (grounded : world.files.Grounded world.here) (dotless : '.' ∉ settings.suffix)
    (escapable : ∀ extraction,
      (Command.extractDocuments documents settings world).1 = .ok extraction →
        ∀ f ∈ extraction.fragments,
          TemplateDirectory.Escapable ⟨root, settings.suffix⟩ f.template)
    (extension : ∀ extraction,
      (Command.extractDocuments documents settings world).1 = .ok extraction →
        ∀ f ∈ extraction.fragments, ∀ path file,
          TemplateDirectory.Finds ⟨root, settings.suffix⟩ f.template world.files world.here
            (some path) →
          TemplateFile.ofPath path settings.suffix = .ok file → file.extension ≠ settings.suffix)
    (files_eq : start.files = after.files) (here_eq : start.here = after.here) :
    RepeatedOn documents root settings renderer world result start := by
  refine repeated_of_unsought h kept (fun extraction hextract => ?_) files_eq here_eq
  obtain ⟨extraction', ready, rendered, hprepare, hrendered, -⟩ :=
    of_renderDocuments_eq_ok renderer h
  obtain ⟨-, hthere, hextract'⟩ := of_prepare_eq_ok hprepare
  cases hextract.symm.trans hextract'
  have hids : ∀ visit ∈ tour extraction.fragments,
      visit.identifier ∈ extraction.fragments.map Fragment.template := fun _ =>
    identifier_mem_of_mem_tour
  -- the deeds of the tour are those that would be done on the tree of the beginning
  have hfirst {visit : Visit} (hvisit : visit ∈ tour extraction.fragments) {edit : Location × Text}
      (hedit : edit ∈ (visit.deed ⟨root, settings.suffix⟩ renderer world.files world.here).edits) :=
    unsought_of_extension_ne grounded dotless (escapable extraction hextract)
      (extension extraction hextract) hvisit hedit
  obtain ⟨-, hdeeds⟩ := deeds_of_unsought hids (.refl hthere) (.refl hthere)
    fun visit hvisit edit => hfirst hvisit
  rw [hdeeds rendered hrendered]
  intro edit hedit
  obtain ⟨deed, hdeed, hedit⟩ := List.mem_flatMap.mp hedit
  obtain ⟨visit, hvisit, rfl⟩ := List.mem_map.mp hdeed
  exact hfirst hvisit hedit

/-- The document `b`, with one fragment for the templates of `a`. -/
def slipText : Text := "\x7blang='x' name='n' template='a' ver='1'\x7d\n  x\n".toList

/-- The document beside a directory with one template, which renders to another one. -/
def slipWorld : World where
  files := ⟨[([['b']], .file (.text slipText)), ([['d']], .directory),
    ([['d'], ['a', '.', 'b', '.', 'j', '.', 'j']], .file (.text ['s']))]⟩
  here := []

/-- The output is taken for the template on the second run, which fails. -/
theorem not_rendered_again :
    (renderDocuments [['b']] ['d'] shortSettings Stencil.renderer slipWorld).1 =
      .ok {
        written := [⟨['a'], 1, ['d', '/', 'a', '.', 'b', '-', '1', '.', 'j']⟩]
        versions := some (1, 1) } ∧
    (∀ spelling ∈ Documents.spellings ['b'],
      ¬ slipWorld.files.SamePlace [] spelling ['d', '/', 'a', '.', 'b', '-', '1', '.', 'j']) ∧
    (renderDocuments [['b']] ['d'] shortSettings Stencil.renderer
      (renderDocuments [['b']] ['d'] shortSettings Stencil.renderer slipWorld).2).1 =
      .error (.invalidTemplateExtension ['d', '/', 'a', '.', 'b', '-', '1', '.', 'j'] ['j']) := by
  refine ⟨?_, ?_, ?_⟩
  · decide +kernel
  · decide +kernel
  · cbv

end Rendering

end Tangle
