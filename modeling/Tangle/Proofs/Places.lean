import Tangle.Proofs.FileTree
import Tangle.Proofs.Path

/-!
# Where paths lead

A path to a file is a front and a name: the front leads to a directory, and the name is looked up
there. The parent of a path is the same front in another spelling, so that what is written beside a
file comes to lie in the same directory, under its own name.
-/

namespace Tangle.FileTree

open Tangle.Path (IsName IsFront names isAbsolute)

variable {tree : FileTree} {here : Location}

/-! ## Following a path -/

/-- An empty name or a single dot leads nowhere when more names follow. -/
theorem follow_skip {name : Text} (hskip : (name.isEmpty || name = ['.']) = true)
    {more : List Text} (hmore : more ≠ []) :
    tree.follow here (name :: more) = tree.follow here more := by
  cases more with
  | nil => exact absurd rfl hmore
  | cons next rest =>
    -- where nothing is, or a file, the next name is looked up in vain as well
    rw [follow]
    cases hnode : tree.node? here with
    | none => rw [follow, hnode]
    | some node =>
      cases node with
      | file contents => rw [follow, hnode]
      | directory => exact if_pos hskip

/-- Before a last name, only the names of a path count. -/
theorem follow_append_singleton (parts : List Text) (last : Text) :
    tree.follow here (parts ++ [last]) =
      tree.follow here ((parts.filter fun name => !name.isEmpty && name ≠ ['.']) ++ [last]) := by
  induction parts generalizing here with
  | nil => rfl
  | cons name more ih =>
    by_cases hskip : (name.isEmpty || name = ['.']) = true
    · rw [List.cons_append, follow_skip hskip (by simp), ih, List.filter_cons_of_neg]
      intro hkeep
      rw [Bool.and_eq_true, Bool.not_eq_true', decide_eq_true_eq] at hkeep
      rw [hkeep.1, Bool.false_or, decide_eq_true_eq] at hskip
      exact hkeep.2 hskip
    · have hkeep : (!name.isEmpty && name ≠ ['.']) = true := by simpa using hskip
      rw [List.filter_cons_of_pos (p := fun name : Text => !name.isEmpty && name ≠ ['.']) hkeep,
        List.cons_append, List.cons_append, follow, follow]
      simp only [ih]

theorem follow_append {names more : List Text} {directory : Location}
    (h : tree.follow here names = .ok directory) :
    tree.follow here (names ++ more) = tree.follow directory more := by
  induction names generalizing here with
  | nil =>
    cases h
    rfl
  | cons name rest ih =>
    have hnode := node?_of_follow_cons h
    rw [follow_cons hnode] at h
    rw [List.cons_append, follow_cons hnode]
    split_ifs at h ⊢
    · exact ih h
    · exact ih h
    · exact ih h

theorem ok_of_follow_append {names more : List Text} {found : Location}
    (h : tree.follow here (names ++ more) = .ok found) :
    ∃ directory, tree.follow here names = .ok directory ∧
      tree.follow directory more = .ok found := by
  induction names generalizing here with
  | nil => exact ⟨here, rfl, h⟩
  | cons name rest ih =>
    have hnode := node?_of_follow_cons h
    rw [List.cons_append, follow_cons hnode] at h
    rw [follow_cons hnode]
    split_ifs at h ⊢
    · exact ih h
    · exact ih h
    · exact ih h

/-- Where the names of a path begin. -/
def start (here : Location) (path : Text) : Location := if isAbsolute path then [] else here

/-- A front leads to a directory. -/
structure LeadsTo (tree : FileTree) (here : Location) (front : Text) (directory : Location) :
    Prop where
  follow : tree.follow (start here front) (names front) = .ok directory
  isDirectory : tree.node? directory = some .directory

theorem locate_append {front last : Text} (hfront : IsFront front) (hslash : '/' ∉ last)
    (hempty : front ++ last ≠ []) (hzero : '\x00' ∉ front ++ last) :
    tree.locate here (front ++ last) =
      tree.follow (start here front) (names front ++ [last]) := by
  obtain ⟨parts, hparts, hnames⟩ := Path.splitOn_front hfront hslash
  have hstart : (if (front ++ last).head? = some '/' then [] else here) = start here front := by
    rw [start, ← Path.isAbsolute_append hfront hslash, isAbsolute]
    simp
  rw [locate, if_neg (by simpa using hempty), if_neg (by simpa using hzero), hstart, hparts, hnames]
  exact follow_append_singleton parts last

/-- In a directory a name leads to the location below it, unless it is too long. -/
theorem LeadsTo.locate {front name : Text} {directory : Location}
    (h : LeadsTo tree here front directory) (hfront : IsFront front) (hname : IsName name)
    (hzero : '\x00' ∉ front ++ name) :
    tree.locate here (front ++ name) =
      if nameBound < Utf8.size name then .error .invalidFilename
      else .ok (directory ++ [name]) := by
  rw [locate_append hfront hname.slash (by simp [hname.ne_nil]) hzero, follow_append h.follow,
    follow_cons h.isDirectory, if_neg (by simp [hname.ne_nil, hname.ne_dot]),
    if_neg hname.ne_dots]
  rfl

/-- To a directory lead the names of a path as well as the whole path. -/
theorem follow_eq_ok_iff_names {parts : List Text} {found : Location}
    (hfound : tree.node? found = some .directory) :
    tree.follow here parts = .ok found ↔
      tree.follow here (parts.filter fun name => !name.isEmpty && name ≠ ['.']) = .ok found := by
  -- names are looked up in directories, and where they end there is one
  have hnode {here : Location} {names : List Text} (h : tree.follow here names = .ok found) :
      tree.node? here = some .directory := by
    cases names with
    | nil =>
      cases h
      exact hfound
    | cons name more => exact node?_of_follow_cons h
  induction parts generalizing here with
  | nil => rfl
  | cons name more ih =>
    by_cases hskip : (name.isEmpty || name = ['.']) = true
    · have hdrop : (name :: more).filter (fun name => !name.isEmpty && name ≠ ['.']) =
          more.filter fun name => !name.isEmpty && name ≠ ['.'] := by
        refine List.filter_cons_of_neg ?_
        simpa [or_iff_not_imp_left] using hskip
      rw [hdrop]
      constructor
      · intro h
        rw [follow_cons (hnode h), if_pos hskip] at h
        exact ih.mp h
      · intro h
        rw [follow_cons (hnode h), if_pos hskip]
        exact ih.mpr h
    · have hkeep : (name :: more).filter (fun name => !name.isEmpty && name ≠ ['.']) =
          name :: more.filter fun name => !name.isEmpty && name ≠ ['.'] := by
        refine List.filter_cons_of_pos ?_
        simpa using hskip
      rw [hkeep]
      constructor
      · intro h
        have hhere := hnode h
        rw [follow_cons hhere] at h ⊢
        split_ifs at h ⊢ <;> exact ih.mp h
      · intro h
        have hhere := hnode h
        rw [follow_cons hhere] at h ⊢
        split_ifs at h ⊢ <;> exact ih.mpr h

/-- A path leads to a directory exactly if the front does that it makes for names below it. -/
theorem locate_eq_ok_iff_leadsTo {root : Text} (hempty : root ≠ []) (hzero : '\x00' ∉ root)
    {base : Location} :
    tree.locate here root = .ok base ∧ tree.node? base = some .directory ↔
      LeadsTo tree here (Path.frontOf root) base := by
  have hlocate : tree.locate here root =
      tree.follow (start here (Path.frontOf root)) (Text.splitOn '/' root) := by
    rw [FileTree.locate, if_neg (by simpa using hempty), if_neg (by simpa using hzero), start,
      Path.isAbsolute_frontOf, isAbsolute]
    simp
  rw [hlocate]
  -- the path has empty names and dots that its front does not have
  constructor
  · rintro ⟨hfollow, hnode⟩
    refine ⟨?_, hnode⟩
    rw [Path.names_frontOf]
    exact (follow_eq_ok_iff_names hnode).mp hfollow
  · intro h
    refine ⟨(follow_eq_ok_iff_names h.isDirectory).mpr ?_, h.isDirectory⟩
    have hfollow := h.follow
    rwa [Path.names_frontOf] at hfollow

theorem of_locate_eq_ok {path : Text} {found : Location} (h : tree.locate here path = .ok found) :
    path ≠ [] ∧ '\x00' ∉ path := by
  rw [FileTree.locate] at h
  refine ⟨fun hempty => ?_, fun hzero => ?_⟩
  · rw [hempty] at h
    cases h
  · split at h
    · cases h
    · rw [if_pos (by simpa using hzero)] at h
      cases h

/-- Where a path leads, its front leads to the directory around it. -/
theorem exists_leadsTo {front name : Text} (hfront : IsFront front) (hname : IsName name)
    {found : Location} (h : tree.locate here (front ++ name) = .ok found) :
    ∃ directory, LeadsTo tree here front directory ∧ found = directory ++ [name] ∧
      Utf8.size name ≤ nameBound ∧ '\x00' ∉ front ++ name := by
  have hzero : '\x00' ∉ front ++ name := by
    intro hmem
    rw [FileTree.locate, if_neg (by simp [hname.ne_nil]), if_pos (by simpa using hmem)] at h
    cases h
  -- a name is looked up last, and in a directory
  have hfollow := h
  rw [locate_append hfront hname.slash (by simp [hname.ne_nil]) hzero] at hfollow
  obtain ⟨directory, hdirectory, hlast⟩ := ok_of_follow_append hfollow
  have hleads : LeadsTo tree here front directory := ⟨hdirectory, node?_of_follow_cons hlast⟩
  rw [hleads.locate hfront hname hzero] at h
  split at h
  · cases h
  · cases h
    exact ⟨directory, hleads, rfl, by omega, hzero⟩

/-- All directories above a location are there. -/
def Grounded (tree : FileTree) (location : Location) : Prop :=
  ∀ above, above <+: location → above ≠ location → tree.node? above = some .directory

theorem grounded_nil : tree.Grounded [] :=
  fun _ habove hne => absurd (List.prefix_nil.mp habove) hne

theorem Grounded.dropLast {location : Location} (h : tree.Grounded location) :
    tree.node? location.dropLast = some .directory := by
  by_cases hempty : location = []
  · rw [hempty]
    rfl
  · have habove : location.dropLast <+: location := List.dropLast_prefix location
    refine h _ habove fun heq => hempty ?_
    have hlength := congrArg List.length heq
    rw [List.length_dropLast] at hlength
    exact List.eq_nil_of_length_eq_zero (by omega)

/-- Names lead only to locations that have all directories above them. -/
theorem Grounded.follow {names : List Text} {found : Location} (h : tree.Grounded here)
    (hfollow : tree.follow here names = .ok found) : tree.Grounded found := by
  induction names generalizing here with
  | nil =>
    cases hfollow
    exact h
  | cons name more ih =>
    have hnode := node?_of_follow_cons hfollow
    have hhere : ∀ above, above <+: here → tree.node? above = some .directory := by
      intro above habove
      by_cases heq : above = here
      · rw [heq, hnode]
      · exact h above habove heq
    rw [follow_cons hnode] at hfollow
    split_ifs at hfollow
    · exact ih h hfollow
    · have hshorter : here.dropLast <+: here := List.dropLast_prefix here
      exact ih (fun above habove _ => hhere above (habove.trans hshorter)) hfollow
    · refine ih (fun above habove hne => hhere above ?_) hfollow
      exact (List.prefix_concat_iff.mp habove).resolve_left hne

/-- Where a path leads there is a directory, or it has the last name of the path. -/
theorem directory_or_name (h : tree.Grounded here) {front last : Text} (hfront : IsFront front)
    (hslash : '/' ∉ last) {found : Location}
    (hlocate : tree.locate here (front ++ last) = .ok found) :
    tree.node? found = some .directory ∨
      IsName last ∧ ∃ directory, found = directory ++ [last] := by
  by_cases hname : IsName last
  · obtain ⟨directory, -, heq, -⟩ := exists_leadsTo hfront hname hlocate
    exact Or.inr ⟨hname, directory, heq⟩
  -- an empty name or a dot leads nowhere, and two dots to the directory above
  refine Or.inl ?_
  obtain ⟨hempty, hzero⟩ := of_locate_eq_ok hlocate
  rw [locate_append hfront hslash hempty hzero] at hlocate
  obtain ⟨directory, hdirectory, hlast⟩ := ok_of_follow_append hlocate
  have hnode := node?_of_follow_cons hlast
  have hstart : tree.Grounded (start here front) := by
    unfold start
    split
    · exact grounded_nil
    · exact h
  rw [follow_cons hnode] at hlast
  split_ifs at hlast with hskip hdots
  · cases hlast
    exact hnode
  · cases hlast
    exact (hstart.follow hdirectory).dropLast
  · refine absurd ⟨fun heq => hskip ?_, fun heq => hskip ?_, hdots, hslash⟩ hname
    · rw [heq]
      rfl
    · simp [heq]

/-- A path that leads to a file and has a last name ends in it. -/
theorem exists_front_of_find {path name : Text} {contents : Contents}
    (hfind : tree.find here path = .ok (.file contents)) (hname : Path.fileName? path = some name) :
    ∃ front, IsFront front ∧ IsName name ∧ path = front ++ name := by
  obtain ⟨front, last, rfl, hfront, hslash⟩ := Path.exists_front path
  obtain ⟨location, hlocate, hnode⟩ := find_eq_ok_iff.mp hfind
  -- behind an empty name or a dot there is a directory
  have hreal : ¬ (last.isEmpty || last = ['.']) = true := by
    intro hskip
    by_cases hempty : front ++ last = []
    · rw [hempty, FileTree.locate] at hlocate
      cases hlocate
    by_cases hzero : '\x00' ∈ front ++ last
    · rw [FileTree.locate, if_neg (by simpa using hempty), if_pos (by simpa using hzero)] at hlocate
      cases hlocate
    rw [locate_append hfront hslash hempty hzero] at hlocate
    obtain ⟨directory, -, hlast⟩ := ok_of_follow_append hlocate
    have hdirectory := node?_of_follow_cons hlast
    rw [follow_cons hdirectory, if_pos hskip] at hlast
    cases hlast
    rw [hdirectory] at hnode
    cases hnode
  rw [Bool.or_eq_true, not_or, List.isEmpty_iff, decide_eq_true_eq] at hreal
  rw [Path.fileName?_append hfront hreal.1 hreal.2 hslash] at hname
  split at hname
  · cases hname
  · rename_i hdots
    cases hname
    exact ⟨front, hfront, ⟨hreal.1, hreal.2, hdots, hslash⟩, rfl⟩

/-- Where a path leads to a file, the last name of the path is that of the file. -/
theorem exists_folder_of_find {path name : Text} {contents : Contents}
    (hfind : tree.find here path = .ok (.file contents)) (hname : Path.fileName? path = some name) :
    ∃ folder, tree.locate here path = .ok (folder ++ [name]) := by
  obtain ⟨front, hfront, hisName, rfl⟩ := exists_front_of_find hfind hname
  obtain ⟨location, hlocate, -⟩ := find_eq_ok_iff.mp hfind
  obtain ⟨folder, -, rfl, -⟩ := exists_leadsTo hfront hisName hlocate
  exact ⟨folder, hlocate⟩

/-- A front that names the same directories leads to the same one. -/
theorem LeadsTo.of_names_eq {front other : Text} {directory : Location}
    (h : LeadsTo tree here front directory) (hnames : names other = names front)
    (habsolute : isAbsolute other = isAbsolute front) : LeadsTo tree here other directory := by
  refine ⟨?_, h.isDirectory⟩
  rw [start, habsolute, hnames]
  exact h.follow

/-- What is beside a file is in the directory of the file. -/
theorem LeadsTo.locate_beside {front name : Text} {directory : Location}
    (h : LeadsTo tree here front directory) (hfront : IsFront front) (hname : IsName name)
    (hzero : '\x00' ∉ front ++ name) {base other : Text}
    (hparent : Path.parent? (front ++ name) = some base)
    (hother : IsName other) (hzero' : '\x00' ∉ other) :
    tree.locate here (Path.join base other) =
      if nameBound < Utf8.size other then .error .invalidFilename
      else .ok (directory ++ [other]) := by
  have hfileName : Path.fileName? (front ++ name) = some name := by
    rw [Path.fileName?_append hfront hname.ne_nil hname.ne_dot hname.slash, if_neg hname.ne_dots]
  obtain ⟨-, _, hbase, hhead, hnames, hsubset⟩ := Path.exists_parent hfileName
  cases hparent.symm.trans hbase
  -- the parent makes a front with the same names again
  have hleads : LeadsTo tree here (Path.frontOf base) directory := by
    refine h.of_names_eq ?_ ?_
    · rw [Path.names_append hfront hname] at hnames
      rw [Path.names_frontOf, List.append_cancel_right hnames]
    · rw [Path.isAbsolute_frontOf, Path.isAbsolute_of_head_eq hhead,
        Path.isAbsolute_append hfront hname.slash]
  rw [Path.join_of_slash_notMem base hother.slash]
  have hbaseZero : '\x00' ∉ base := fun hmem => hzero (hsubset hmem)
  exact hleads.locate (Path.isFront_frontOf base) hother
    (Path.notMem_frontOf_append (by decide) hbaseZero hzero')

/-- A file can be put under a name in some folder: the name can be spelled there, and it is not that
of a directory. -/
structure Fits (tree : FileTree) (folder : Location) (name : Text) : Prop where
  isName : IsName name
  zero : '\x00' ∉ name
  size : Utf8.size name ≤ nameBound
  free : tree.node? (folder ++ [name]) ≠ some .directory

theorem SameDirectories.fits {other : FileTree} (h : SameDirectories tree other)
    {folder : Location} {name : Text} (hfits : tree.Fits folder name) : other.Fits folder name :=
  { hfits with free := fun hdir => hfits.free ((h _).mpr hdir) }

theorem SameDirectories.putAll {edits : List (Location × Text)}
    (h : ∀ edit ∈ edits, ∃ folder name, edit.1 = folder ++ [name] ∧ tree.Fits folder name) :
    SameDirectories tree (tree.putAll edits) := by
  induction edits generalizing tree with
  | nil => exact .refl tree
  | cons edit more ih =>
    obtain ⟨folder, name, heq, hfits⟩ := h edit List.mem_cons_self
    have hfirst : SameDirectories tree (tree.put edit.1 (.file (.text edit.2))) :=
      .put (heq ▸ hfits.free) _
    -- later edits fit as well as before the first one
    refine hfirst.trans (ih fun later hlater => ?_)
    obtain ⟨folder, name, heq, hfits⟩ := h later (List.mem_cons_of_mem _ hlater)
    exact ⟨folder, name, heq, hfirst.fits hfits⟩

/-- Two trees that show the same in a folder still do when the same texts are put into it. -/
theorem SameFolder.putAll {other : FileTree} {base : Location} (h : SameFolder base tree other)
    {edits : List (Location × Text)}
    (hedits : ∀ edit ∈ edits, ∃ name, edit.1 = base ++ [name] ∧ tree.Fits base name) :
    SameFolder base (tree.putAll edits) (other.putAll edits) := by
  induction edits generalizing tree other with
  | nil => exact h
  | cons edit more ih =>
    obtain ⟨location, text⟩ := edit
    obtain ⟨name, rfl, hfits⟩ := hedits (location, text) List.mem_cons_self
    refine ih (h.put hfits.free _) fun later hlater => ?_
    obtain ⟨name', heq, hfits'⟩ := hedits later (List.mem_cons_of_mem _ hlater)
    exact ⟨name', heq, SameDirectories.fits (.put hfits.free _) hfits'⟩

/-- A name joined to the path of a directory leads to the location below it. -/
theorem locate_join {root name : Text} {base : Location}
    (hlocate : tree.locate here root = .ok base) (hbase : tree.node? base = some .directory)
    (hname : IsName name) (hzero : '\x00' ∉ name) :
    tree.locate here (Path.join root name) =
      if nameBound < Utf8.size name then .error .invalidFilename
      else .ok (base ++ [name]) := by
  obtain ⟨hempty, hroot⟩ := of_locate_eq_ok hlocate
  have hleads := (locate_eq_ok_iff_leadsTo hempty hroot).mp ⟨hlocate, hbase⟩
  rw [Path.join_of_slash_notMem root hname.slash]
  exact hleads.locate (Path.isFront_frontOf root) hname
    (Path.notMem_frontOf_append (by decide) hroot hzero)

end Tangle.FileTree
