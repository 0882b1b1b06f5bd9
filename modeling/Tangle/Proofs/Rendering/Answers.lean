import Tangle.Proofs.Rendering.Faults
import Tangle.Proofs.Rendering.Schedule

/-!
# Answers to the lookups of a tour

Outputs lie beside the templates, where later lookups may find them. A tour that puts no text where
a lookup looks is given the same answers all the time, so each visit does what it would have done at
the beginning, on the tree of the beginning and on every other one with the same answers. This is so
when no template renders to a file that looks like a template, by `unsought_of_extension_ne`.
-/

namespace Tangle

namespace TemplateDirectory

/-! ## What lookups see -/

/-- A location is looked at for one of some identifiers. -/
def Sought (directory : TemplateDirectory) (ids : List Text) (tree : FileTree) (here : Location)
    (location : Location) : Prop :=
  ∃ identifier ∈ ids, ∃ name, directory.standsFor identifier name = true ∧
    tree.locate here (Path.join directory.root name) = .ok location

/-- A tree answers all lookups of some identifiers as another one does. -/
structure AnswersLike (directory : TemplateDirectory) (here : Location) (ids : List Text)
    (tree other : FileTree) : Prop where
  directories : FileTree.SameDirectories tree other
  isThere : other.has here directory.root = true
  names : ∀ identifier ∈ ids,
    directory.namesIn identifier other here = directory.namesIn identifier tree here
  files : ∀ identifier ∈ ids, ∀ name, directory.standsFor identifier name = true →
    FileTree.SameFileAt tree other here (Path.join directory.root name)

variable {directory : TemplateDirectory} {here : Location} {ids : List Text}
variable {tree other : FileTree}

theorem AnswersLike.refl (h : tree.has here directory.root = true) :
    directory.AnswersLike here ids tree tree where
  directories := .refl tree
  isThere := h
  names _ _ := rfl
  files _ _ _ _ _ := Iff.rfl

/-- A lookup is answered as it is on the other tree. -/
theorem AnswersLike.resolve (h : directory.AnswersLike here ids tree other) {identifier : Text}
    (hid : identifier ∈ ids) {world world' : World} (hworld : world.files = tree)
    (hhere : world.here = here) (hworld' : world'.files = other) (hhere' : world'.here = here) :
    (directory.resolve identifier world').1 = (directory.resolve identifier world).1 := by
  rw [resolve_apply, resolve_apply, hworld, hhere, hworld', hhere', h.names identifier hid]
  cases hnames : directory.namesIn identifier tree here with
  | error fault => rfl
  | ok names =>
    dsimp only
    rw [choose_congr]
    intro path hpath
    obtain ⟨name, hname, rfl⟩ := exists_of_mem_firstPath? hpath
    exact (h.files identifier hid name (standsFor_of_mem_namesIn hnames hname)).isFile_eq

/-- A text that is put where no lookup looks changes no answer. -/
theorem AnswersLike.put (h : directory.AnswersLike here ids tree other) {folder : Location}
    {name : Text} (hfits : other.Fits folder name)
    (hunsought : ¬ directory.Sought ids tree here (folder ++ [name])) (contents : Contents) :
    directory.AnswersLike here ids tree (other.put (folder ++ [name]) (.file contents)) where
  directories := h.directories.trans (.put hfits.free contents)
  isThere := FileTree.has_put hfits.free contents h.isThere
  files := by
    intro identifier hid name' hstands
    refine (h.files identifier hid name' hstands).trans (.of_node?_eq (.put hfits.free contents) ?_)
    intro location hlocate
    -- if the path led to the text, the text would be where a lookup looks
    rw [FileTree.node?_put _ (by simp), if_neg]
    rintro rfl
    exact hunsought ⟨identifier, hid, name', hstands, h.directories.symm.locate_eq_ok hlocate⟩
  names := by
    intro identifier hid
    rw [← h.names identifier hid]
    unfold namesIn
    split
    · rfl
    rename_i hexact
    cases hglob : Glob.read? (directory.searchPattern identifier) with
    | none => rfl
    | some glob =>
      dsimp only
      obtain ⟨base, node, hlocate, -⟩ := FileTree.has_eq_true_iff.mp h.isThere
      have hdirs : FileTree.SameDirectories other (other.put (folder ++ [name]) (.file contents)) :=
        .put hfits.free contents
      have hlocate' := hdirs.locate_eq_ok hlocate
      -- only a directory lists names, and on anything else both listings fail
      by_cases hbase : other.node? base = some .directory
      · rw [FileTree.fileNames_of_directory hlocate hbase,
          FileTree.fileNames_of_directory hlocate' ((hdirs base).mp hbase)]
        dsimp only
        rw [FileTree.filter_childNames_put]
        -- a name that the glob matches would be sought in the directory
        intro name' heq
        obtain ⟨rfl, hlast⟩ := List.append_inj' heq rfl
        obtain rfl := List.singleton_inj.mp hlast
        refine Bool.eq_false_iff.mpr fun hmatch => hunsought ⟨identifier, hid, name, ?_, ?_⟩
        · rw [standsFor, if_neg hexact, hglob]
          exact hmatch
        · apply h.directories.symm.locate_eq_ok
          rw [FileTree.locate_join hlocate hbase hfits.isName hfits.zero,
            if_neg (Nat.not_lt.mpr hfits.size)]
      · rw [FileTree.fileNames_of_not_directory hlocate hbase h.isThere,
          FileTree.fileNames_of_not_directory hlocate' (fun hdir => hbase ((hdirs base).mpr hdir))
            (FileTree.has_put hfits.free contents h.isThere)]

theorem AnswersLike.putAll {edits : List (Location × Text)}
    (h : directory.AnswersLike here ids tree other)
    (hfits : ∀ edit ∈ edits, ∃ folder name, edit.1 = folder ++ [name] ∧ other.Fits folder name)
    (hunsought : ∀ edit ∈ edits, ¬ directory.Sought ids tree here edit.1) :
    directory.AnswersLike here ids tree (other.putAll edits) := by
  induction edits generalizing other with
  | nil => exact h
  | cons edit more ih =>
    obtain ⟨location, text⟩ := edit
    obtain ⟨folder, name, rfl, hfirst⟩ := hfits (location, text) List.mem_cons_self
    -- the answers after the first edit are the same, and the others fit as before
    refine ih (h.put hfirst (hunsought _ List.mem_cons_self) _) (fun later hlater => ?_)
      fun later hlater => hunsought later (List.mem_cons_of_mem _ hlater)
    obtain ⟨folder', name', heq, hlater⟩ := hfits later (List.mem_cons_of_mem _ hlater)
    exact ⟨folder', name', heq, FileTree.SameDirectories.fits (.put hfirst.free _) hlater⟩

/-- With a plain suffix no identifier stands for a file whose name does not end in it. -/
theorem not_samePlace_of_not_suffix (hplain : ∀ c ∈ directory.suffix, c ∉ Glob.special)
    (hsuffix : Path.IsName directory.suffix) {identifier name : Text}
    (hstands : directory.standsFor identifier name = true) {front last : Text}
    (hfront : Path.IsFront front) (hlast : Path.IsName last)
    (hother : ¬ ('.' :: directory.suffix) <:+ last) :
    ¬ tree.SamePlace here (Path.join directory.root name) (front ++ last) := by
  rintro ⟨location, hlocate, hlocate'⟩
  obtain ⟨folder, -, rfl, -⟩ := FileTree.exists_leadsTo hfront hlast hlocate'
  obtain ⟨front', last', hjoin, hfront', hslash⟩ :=
    Path.exists_front (Path.join directory.root name)
  rw [hjoin] at hlocate
  -- the last name of the path ends in the suffix, so that it is a name
  have hending : ('.' :: directory.suffix) <:+ last' := by
    refine Path.suffix_of_suffix_append hfront' (fun hmem => ?_) (hjoin ▸
      (suffix_of_standsFor (.inl hplain) hstands).trans (Path.suffix_join ..))
    rcases List.mem_cons.mp hmem with hmem | hmem
    · cases hmem
    · exact hsuffix.slash hmem
  have hname : Path.IsName last' := by
    refine ⟨?_, ?_, ?_, hslash⟩
    · rintro rfl
      simp at hending
    · rintro rfl
      simp [List.suffix_cons_iff, hsuffix.ne_nil] at hending
    · rintro rfl
      simp [List.suffix_cons_iff, hsuffix.ne_nil, hsuffix.ne_dot] at hending
  -- two paths to one place end in the same name
  obtain ⟨folder', -, heq, -⟩ := FileTree.exists_leadsTo hfront' hname hlocate
  obtain ⟨-, hnames⟩ := List.append_inj' heq rfl
  rw [List.singleton_inj.mp hnames] at hother
  exact hother hending

end TemplateDirectory

namespace Rendering

variable {directory : TemplateDirectory} {renderer : Renderer} {ids : List Text}
variable {tree other : FileTree} {here : Location}

/-! ## Deeds on trees with the same answers -/

/-- Where all lookups are answered alike, a visit does the same deed. -/
theorem Visit.deed_eq_of_answersLike {visit : Visit} (hid : visit.identifier ∈ ids)
    {initial : FileTree} (h : directory.AnswersLike here ids initial tree)
    (h' : directory.AnswersLike here ids initial other) :
    visit.deed directory renderer other here = visit.deed directory renderer tree here := by
  refine Visit.deed_congr (h.directories.symm.trans h'.directories)
    ((h'.names _ hid).trans (h.names _ hid).symm) fun names hnames path hpath => ?_
  obtain ⟨name, hname, rfl⟩ := TemplateDirectory.exists_of_mem_firstPath? hpath
  have hstands := TemplateDirectory.standsFor_of_mem_namesIn hnames hname
  exact (h.files _ hid name hstands).symm.trans (h'.files _ hid name hstands)

/-- A tour makes the same edits on two trees with the same answers, and they still have them when it
ends, if it makes no edit where a lookup looks. -/
theorem deeds_of_answersLike {visits : List Visit} {initial : FileTree}
    (hids : ∀ visit ∈ visits, visit.identifier ∈ ids)
    (h : directory.AnswersLike here ids initial tree)
    (h' : directory.AnswersLike here ids initial other)
    (hunsought : ∀ edit ∈ (deeds directory renderer visits tree here).flatMap (·.edits),
      ¬ directory.Sought ids initial here edit.1) :
    deeds directory renderer visits other here = deeds directory renderer visits tree here ∧
      directory.AnswersLike here ids initial
        (tree.putAll ((deeds directory renderer visits tree here).flatMap (·.edits))) := by
  have hcongr := deeds_congr directory renderer
    (R := fun tree other => directory.AnswersLike here ids initial tree ∧
      directory.AnswersLike here ids initial other)
    (fun visit hvisit tree other hR => Visit.deed_eq_of_answersLike (hids visit hvisit) hR.1 hR.2)
    ?_ ⟨h, h'⟩
  · exact ⟨hcongr.1, hcongr.2.1⟩
  · -- a step keeps the answers of both trees, since its edits are among those of the tour
    intro visit hvisit between other hR hmem
    have hdirs := hR.1.directories.symm.trans hR.2.directories
    have hown : ∀ edit ∈ (visit.deed directory renderer between here).edits,
        ¬ directory.Sought ids initial here edit.1 := fun edit hedit =>
      hunsought edit (List.mem_flatMap.mpr ⟨_, hmem, hedit⟩)
    refine ⟨hR.1.putAll (fun edit hedit => Visit.fits_of_mem_edits hedit) hown,
      hR.2.putAll (fun edit hedit => ?_) hown⟩
    obtain ⟨folder, name, heq, hfits⟩ := Visit.fits_of_mem_edits hedit
    exact ⟨folder, name, heq, hdirs.fits hfits⟩

/-! ## Deeds on the tree of the beginning -/

section Deeds

variable {directory : TemplateDirectory} {renderer : Renderer} {here : Location}
variable {tree initial : FileTree}

variable (directory renderer) in
/-- The deeds that visits would do if each of them were the first one. -/
def firstDeeds (visits : List Visit) (tree : FileTree) (here : Location) : List Deed :=
  visits.map fun visit => visit.deed directory renderer tree here

/-- Where no visit puts a text at which a lookup looks, each does the deed that it would do at the
beginning. -/
theorem deeds_of_unsought {ids : List Text} {visits : List Visit}
    (hids : ∀ visit ∈ visits, visit.identifier ∈ ids)
    (hinitial : directory.AnswersLike here ids initial initial)
    (h : directory.AnswersLike here ids initial tree)
    (hunsought : ∀ visit ∈ visits, ∀ edit ∈ (visit.deed directory renderer initial here).edits,
      ¬ directory.Sought ids initial here edit.1) :
    endingOf (deeds directory renderer visits tree here) =
        endingOf (firstDeeds directory renderer visits initial here) ∧
      ∀ result, endingOf (deeds directory renderer visits tree here) = .ok result →
        deeds directory renderer visits tree here =
          firstDeeds directory renderer visits initial here := by
  induction visits generalizing tree with
  | nil => exact ⟨rfl, fun _ _ => rfl⟩
  | cons visit more ih =>
    have hdeed : visit.deed directory renderer tree here =
        visit.deed directory renderer initial here :=
      Visit.deed_eq_of_answersLike (hids visit List.mem_cons_self) hinitial h
    rw [firstDeeds, List.map_cons, deeds_cons, hdeed, ← firstDeeds]
    -- the other visits find the answers of the beginning behind this one
    have hnext : directory.AnswersLike here ids initial
        (tree.putAll (visit.deed directory renderer initial here).edits) := by
      refine h.putAll (fun edit hedit => ?_) (hunsought visit List.mem_cons_self)
      obtain ⟨folder, name, heq, hfits⟩ := Visit.fits_of_mem_edits hedit
      exact ⟨folder, name, heq, h.directories.fits hfits⟩
    obtain ⟨hending, hsame⟩ := ih (fun later hlater => hids later (List.mem_cons_of_mem _ hlater))
      hnext fun later hlater => hunsought later (List.mem_cons_of_mem _ hlater)
    cases hfirst : (visit.deed directory renderer initial here).ending with
    | error fault =>
      rw [endingOf_of_error hfirst, endingOf_of_error hfirst]
      refine ⟨rfl, fun result hresult => ?_⟩
      cases hresult
    | ok first =>
      rw [endingOf_of_ok hfirst, endingOf_of_ok hfirst, hending]
      refine ⟨rfl, fun result hresult => ?_⟩
      cases hmore : endingOf (firstDeeds directory renderer more initial here) with
      | error fault =>
        rw [hmore] at hresult
        cases hresult
      | ok rest => rw [hsame rest (hending.trans hmore)]

end Deeds

/-! ## Outputs that no lookup finds -/

section Outputs

variable {visit : Visit} {path text : Text} {file : TemplateFile} {folder : Location}

/-- The template file of what a visit writes is found by its identifier. -/
theorem Visit.Writes.finds (h : visit.Writes directory renderer tree here path file folder text) :
    directory.Finds visit.identifier tree here (some path) := by
  obtain ⟨names, hnames, hfirst⟩ := h.first
  refine ⟨names, hnames, ?_⟩
  rw [TemplateDirectory.choose, if_pos (by rw [hfirst]; exact h.isFile)]
  exact hfirst

/-- No lookup looks at an output, unless it is one of a template that renders to templates. -/
theorem Visit.Writes.not_sought
    (h : visit.Writes directory renderer tree here path file folder text)
    (grounded : tree.Grounded here) (dotless : '.' ∉ directory.suffix) {ids : List Text}
    (escapable : ∀ identifier ∈ ids, directory.Escapable identifier)
    (extension : file.extension ≠ directory.suffix) :
    ¬ directory.Sought ids tree here (folder ++ [file.outputName visit.version]) := by
  rintro ⟨identifier, hid, name, hstands, hlocate⟩
  obtain ⟨front, last, hjoin, hfront, hslash⟩ := Path.exists_front (Path.join directory.root name)
  have hsuffix : '/' ∉ '.' :: directory.suffix := fun hmem =>
    h.lies.isName.slash (List.mem_append_right _ hmem)
  have hending : ('.' :: directory.suffix) <:+ last :=
    Path.suffix_of_suffix_append hfront hsuffix (hjoin ▸
      (TemplateDirectory.suffix_of_standsFor (escapable identifier hid) hstands).trans
        (Path.suffix_join ..))
  rw [hjoin] at hlocate
  rcases FileTree.directory_or_name grounded hfront hslash hlocate with hdirectory |
    ⟨-, folder', heq⟩
  · exact h.fits.free hdirectory
  · -- the name of the output would have the suffix as its extension
    obtain ⟨-, hlast⟩ := List.append_inj' heq rfl
    rw [← List.singleton_inj.mp hlast] at hending
    obtain ⟨start, hstart⟩ := hending
    obtain ⟨-, -, hdot⟩ := TemplateFile.of_ofPath_eq_ok h.named
    exact extension (Text.append_cons_inj_of_notMem dotless hdot hstart).2.symm

end Outputs

/-- On one tree no visit of a tour puts its output where a lookup looks, if no template that is found
renders to a file with the suffix as its extension. -/
theorem unsought_of_extension_ne {fragments : List Fragment} (grounded : tree.Grounded here)
    (dotless : '.' ∉ directory.suffix)
    (escapable : ∀ f ∈ fragments, directory.Escapable f.template)
    (extension : ∀ f ∈ fragments, ∀ path file, directory.Finds f.template tree here (some path) →
      TemplateFile.ofPath path directory.suffix = .ok file → file.extension ≠ directory.suffix)
    {visit : Visit} (hvisit : visit ∈ tour fragments) {edit : Location × Text}
    (hedit : edit ∈ (visit.deed directory renderer tree here).edits) :
    ¬ directory.Sought (fragments.map Fragment.template) tree here edit.1 := by
  obtain ⟨path, file, folder, hwrites, hplace⟩ := Visit.exists_writes_of_mem_edits hedit
  obtain ⟨f, hf, htemplate⟩ := exists_fragment_of_mem_tour hvisit
  rw [hplace]
  refine hwrites.not_sought grounded dotless (fun identifier hid => ?_)
    (extension f hf path file (htemplate ▸ hwrites.finds) hwrites.named)
  obtain ⟨g, hg, rfl⟩ := List.mem_map.mp hid
  exact escapable g hg

end Rendering

end Tangle
