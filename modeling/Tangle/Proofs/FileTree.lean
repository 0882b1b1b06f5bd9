import Mathlib.Data.List.Basic
import Mathlib.Tactic.SplitIfs
import Tangle.FileTree

/-!
# File trees under writing

Writing a text replaces what is at one location, or adds a file there. It never changes which
locations are directories, so every path that leads to a location still leads to it afterwards, and
what is found at any other location stays as it was.
-/

namespace Tangle.FileTree

/-! ## Nodes -/

@[simp] theorem node?_nil (tree : FileTree) : tree.node? [] = some .directory := rfl

theorem node?_of_ne_nil (tree : FileTree) {location : Location} (h : location ≠ []) :
    tree.node? location = (tree.nodes.find? fun entry => entry.1 = location).map (·.2) := by
  rw [node?, if_neg (by simpa using h)]

/-- A node that is put somewhere is found there, and all others stay. -/
theorem node?_put (tree : FileTree) {location : Location} (h : location ≠ []) (node : Node)
    (other : Location) :
    (tree.put location node).node? other =
      if other = location then some node else tree.node? other := by
  by_cases hother : other = []
  · subst hother
    rw [if_neg (Ne.symm h), node?_nil, node?_nil]
  rw [node?_of_ne_nil _ hother, node?_of_ne_nil _ hother, put]
  split
  · -- the entry of the location is replaced, which no other lookup sees
    rename_i hany
    have hfirst : ∀ entry : Location × Node,
        (if entry.1 = location then (location, node) else entry).1 = entry.1 := by
      intro entry
      split <;> simp_all
    have hsame : ((fun entry : Location × Node => decide (entry.1 = other)) ∘
        fun entry => if entry.1 = location then (location, node) else entry) =
        fun entry => decide (entry.1 = other) := by
      funext entry
      rw [Function.comp_apply, hfirst]
    rw [List.find?_map, hsame]
    cases hfind : tree.nodes.find? fun entry => decide (entry.1 = other) with
    | none =>
      have hne : other ≠ location := by
        rintro rfl
        obtain ⟨entry, hmem, heq⟩ := List.any_eq_true.mp hany
        exact List.find?_eq_none.mp hfind entry hmem heq
      rw [if_neg hne]
      rfl
    | some entry =>
      have heq : entry.1 = other := by simpa using List.find?_some hfind
      subst heq
      by_cases hloc : entry.1 = location <;> simp [hloc]
  · -- no entry has the location, so that a new one is found behind all others
    rename_i hany
    rw [List.find?_append]
    by_cases heq : other = location
    · subst heq
      have hnone : (tree.nodes.find? fun entry => decide (entry.1 = other)) = none := by
        refine List.find?_eq_none.mpr fun entry hmem hentry => hany ?_
        exact List.any_eq_true.mpr ⟨entry, hmem, hentry⟩
      rw [hnone]
      simp
    · have hne : ¬ location = other := fun e => heq e.symm
      simp [heq, hne]

/-! ## Following names -/

section Follow

variable {tree : FileTree} {here found : Location} {name : Text} {more : List Text}

/-- Only in a directory is a name looked up. -/
theorem node?_of_follow_cons (h : tree.follow here (name :: more) = .ok found) :
    tree.node? here = some .directory := by
  rw [follow] at h
  cases hnode : tree.node? here with
  | none =>
    rw [hnode] at h
    cases h
  | some node =>
    rw [hnode] at h
    cases node with
    | file contents => cases h
    | directory => rfl

theorem follow_cons (h : tree.node? here = some .directory) :
    tree.follow here (name :: more) =
      if name.isEmpty || name = ['.'] then tree.follow here more
      else if name = ['.', '.'] then tree.follow here.dropLast more
      else if nameBound < Utf8.size name then .error .invalidFilename
      else tree.follow (here ++ [name]) more := by
  rw [follow, h]

end Follow

/-! ## Directories -/

/-- Two trees have their directories at the same locations. -/
def SameDirectories (tree other : FileTree) : Prop :=
  ∀ location, tree.node? location = some .directory ↔ other.node? location = some .directory

namespace SameDirectories

variable {tree other third : FileTree}

theorem refl (tree : FileTree) : SameDirectories tree tree := fun _ => Iff.rfl

theorem symm (h : SameDirectories tree other) : SameDirectories other tree :=
  fun location => (h location).symm

theorem trans (h : SameDirectories tree other) (h' : SameDirectories other third) :
    SameDirectories tree third :=
  fun location => (h location).trans (h' location)

/-- A file that is put where no directory is leaves all directories as they are. -/
theorem put {location : Location} (h : tree.node? location ≠ some .directory)
    (contents : Contents) : SameDirectories tree (tree.put location (.file contents)) := by
  have hne : location ≠ [] := by
    rintro rfl
    exact h rfl
  intro there
  rw [node?_put tree hne]
  by_cases hthere : there = location
  · subst hthere
    simp [h]
  · rw [if_neg hthere]

/-- Names lead to the same location wherever the directories are the same. -/
theorem follow_eq_ok (h : SameDirectories tree other) {names : List Text} {here found : Location}
    (hfollow : tree.follow here names = .ok found) : other.follow here names = .ok found := by
  induction names generalizing here with
  | nil => exact hfollow
  | cons name more ih =>
    have hnode := node?_of_follow_cons hfollow
    rw [follow_cons hnode] at hfollow
    rw [follow_cons ((h here).mp hnode)]
    -- which way a name leads does not depend on the tree
    split_ifs at hfollow ⊢
    · exact ih hfollow
    · exact ih hfollow
    · exact ih hfollow

/-- A path leads to the same location wherever the directories are the same. -/
theorem locate_eq_ok (h : SameDirectories tree other) {here found : Location} {path : Text}
    (hlocate : tree.locate here path = .ok found) : other.locate here path = .ok found := by
  rw [locate] at hlocate ⊢
  split at hlocate
  · cases hlocate
  · rename_i hempty
    rw [if_neg hempty]
    split at hlocate
    · cases hlocate
    · rename_i hzero
      rw [if_neg hzero]
      exact h.follow_eq_ok hlocate

theorem locate_eq_ok_iff (h : SameDirectories tree other) {here found : Location} {path : Text} :
    tree.locate here path = .ok found ↔ other.locate here path = .ok found :=
  ⟨h.locate_eq_ok, h.symm.locate_eq_ok⟩

end SameDirectories

/-! ## Files -/

variable {tree : FileTree} {here : Location} {path : Text}

theorem find_eq_ok_iff {node : Node} :
    tree.find here path = .ok node ↔
      ∃ location, tree.locate here path = .ok location ∧ tree.node? location = some node := by
  rw [find]
  cases tree.locate here path with
  | error fault => simp
  | ok location => cases hnode : tree.node? location <;> simp [hnode]

theorem isFile_eq_true_iff :
    tree.isFile here path = true ↔ ∃ contents, tree.find here path = .ok (.file contents) := by
  rw [isFile]
  cases tree.find here path with
  | error fault => simp
  | ok node => cases node <;> simp

theorem readText_eq_ok_iff {text : Text} :
    tree.readText here path = .ok text ↔ tree.find here path = .ok (.file (.text text)) := by
  rw [readText]
  cases tree.find here path with
  | error fault => simp
  | ok node =>
    cases node with
    | directory => simp
    | file contents => cases contents <;> simp

/-- Writing a text puts a file where the path leads to, which is no directory. -/
theorem writeText_eq_ok_iff {text : Text} {after : FileTree} :
    tree.writeText here path text = .ok after ↔
      ∃ location, tree.locate here path = .ok location ∧
        tree.node? location ≠ some .directory ∧
        after = tree.put location (.file (.text text)) := by
  rw [writeText]
  cases tree.locate here path with
  | error fault => simp
  | ok location =>
    cases hnode : tree.node? location with
    | none => simp [hnode, eq_comm]
    | some node => cases node <;> simp [hnode, eq_comm]

/-- Two paths lead to the same location. -/
def SamePlace (tree : FileTree) (here : Location) (path other : Text) : Prop :=
  ∃ location, tree.locate here path = .ok location ∧ tree.locate here other = .ok location

instance (tree : FileTree) (here : Location) (path other : Text) :
    Decidable (tree.SamePlace here path other) :=
  match hpath : tree.locate here path, hother : tree.locate here other with
  | .ok location, .ok location' =>
    if h : location = location' then .isTrue ⟨location, hpath, h ▸ hother⟩
    else .isFalse fun ⟨_, hl, hl'⟩ =>
      h ((Except.ok.inj (hpath.symm.trans hl)).trans (Except.ok.inj (hother.symm.trans hl')).symm)
  | .error _, _ => .isFalse fun ⟨_, hl, _⟩ => nomatch hpath.symm.trans hl
  | .ok _, .error _ => .isFalse fun ⟨_, _, hl'⟩ => nomatch hother.symm.trans hl'

theorem samePlace_iff_eq {path' : Text} {location location' : Location}
    (h : tree.locate here path = .ok location) (h' : tree.locate here path' = .ok location') :
    tree.SamePlace here path path' ↔ location = location' := by
  constructor
  · rintro ⟨common, hcommon, hcommon'⟩
    cases h.symm.trans hcommon
    cases h'.symm.trans hcommon'
    rfl
  · rintro rfl
    exact ⟨location, h, h'⟩

theorem SameDirectories.samePlace_iff {other : FileTree} (h : SameDirectories tree other)
    {path' : Text} : tree.SamePlace here path path' ↔ other.SamePlace here path path' :=
  exists_congr fun _ => and_congr h.locate_eq_ok_iff h.locate_eq_ok_iff

/-! ## Where texts are put -/

/-- Where a text can be written: the location that a path leads to, where no directory is. -/
def destination (tree : FileTree) (here : Location) (path : Text) : Except IoFault Location :=
  match tree.locate here path with
  | .error fault => .error fault
  | .ok location =>
    if tree.node? location = some .directory then .error .isADirectory else .ok location

theorem writeText_eq_map (tree : FileTree) (here : Location) (path text : Text) :
    tree.writeText here path text =
      (tree.destination here path).map fun location => tree.put location (.file (.text text)) := by
  rw [writeText, destination]
  cases tree.locate here path with
  | error fault => rfl
  | ok location =>
    cases hnode : tree.node? location with
    | none => simp [hnode, Except.map]
    | some node => cases node <;> simp [hnode, Except.map]

theorem destination_eq_ok_iff {location : Location} :
    tree.destination here path = .ok location ↔
      tree.locate here path = .ok location ∧ tree.node? location ≠ some .directory := by
  rw [destination]
  cases tree.locate here path with
  | error fault => simp
  | ok found =>
    by_cases hnode : tree.node? found = some .directory
    · simp only [if_pos hnode, reduceCtorEq, Except.ok.injEq, false_iff, not_and, not_not]
      rintro rfl
      exact hnode
    · simp only [if_neg hnode, Except.ok.injEq]
      exact ⟨fun h => ⟨h, h ▸ hnode⟩, And.left⟩

/-- Texts are put at locations, one after another. -/
def putAll (tree : FileTree) (edits : List (Location × Text)) : FileTree :=
  edits.foldl (fun tree edit => tree.put edit.1 (.file (.text edit.2))) tree

theorem putAll_cons (tree : FileTree) (edit : Location × Text) (more : List (Location × Text)) :
    tree.putAll (edit :: more) = (tree.put edit.1 (.file (.text edit.2))).putAll more := rfl

theorem putAll_append (tree : FileTree) (edits more : List (Location × Text)) :
    tree.putAll (edits ++ more) = (tree.putAll edits).putAll more := List.foldl_append

section PutAll

variable {edits : List (Location × Text)}

theorem node?_putAll_of_notMem (h : ∀ edit ∈ edits, edit.1 ≠ []) {location : Location}
    (hother : ∀ edit ∈ edits, edit.1 ≠ location) :
    (tree.putAll edits).node? location = tree.node? location := by
  induction edits generalizing tree with
  | nil => rfl
  | cons edit more ih =>
    rw [putAll_cons, ih (fun e he => h e (List.mem_cons_of_mem _ he))
      (fun e he => hother e (List.mem_cons_of_mem _ he)), node?_put _ (h edit List.mem_cons_self),
      if_neg (Ne.symm (hother edit List.mem_cons_self))]

/-- What is at a location after some edits is what the last of them put there, whatever was there
before. -/
theorem node?_putAll_of_mem {edits : List (Location × Text)} (h : ∀ edit ∈ edits, edit.1 ≠ [])
    {edit : Location × Text} (hmem : edit ∈ edits) (tree other : FileTree) :
    (tree.putAll edits).node? edit.1 = (other.putAll edits).node? edit.1 := by
  induction edits generalizing edit tree other with
  | nil => cases hmem
  | cons first more ih =>
    have hmore : ∀ e ∈ more, e.1 ≠ [] := fun e he => h e (List.mem_cons_of_mem _ he)
    -- a later edit at the same location covers this one
    by_cases hagain : ∃ e ∈ more, e.1 = edit.1
    · obtain ⟨later, hlater, heq⟩ := hagain
      rw [putAll_cons, putAll_cons, ← heq]
      exact ih hmore hlater ..
    · have hlast : ∀ e ∈ more, e.1 ≠ edit.1 := fun e he heq => hagain ⟨e, he, heq⟩
      rw [putAll_cons, putAll_cons, node?_putAll_of_notMem hmore hlast,
        node?_putAll_of_notMem hmore hlast]
      obtain rfl : edit = first :=
        (List.mem_cons.mp hmem).resolve_right fun he => hlast edit he rfl
      rw [node?_put _ (h edit List.mem_cons_self), node?_put _ (h edit List.mem_cons_self),
        if_pos rfl, if_pos rfl]

/-- Making the same edits once more changes nothing. -/
theorem node?_putAll_again (h : ∀ edit ∈ edits, edit.1 ≠ []) (location : Location) :
    ((tree.putAll edits).putAll edits).node? location = (tree.putAll edits).node? location := by
  by_cases hmem : ∃ edit ∈ edits, edit.1 = location
  · obtain ⟨edit, hedit, rfl⟩ := hmem
    exact node?_putAll_of_mem h hedit ..
  · exact node?_putAll_of_notMem h fun edit hedit heq => hmem ⟨edit, hedit, heq⟩

/-- Each of some edits at different locations is there when all of them have been made. -/
theorem node?_putAll_eq_some (h : ∀ edit ∈ edits, edit.1 ≠ [])
    (hdistinct : (edits.map Prod.fst).Nodup) {edit : Location × Text} (hmem : edit ∈ edits) :
    (tree.putAll edits).node? edit.1 = some (.file (.text edit.2)) := by
  induction edits generalizing tree with
  | nil => cases hmem
  | cons first more ih =>
    have hmore : ∀ e ∈ more, e.1 ≠ [] := fun e he => h e (List.mem_cons_of_mem _ he)
    rw [List.map_cons, List.nodup_cons] at hdistinct
    rw [putAll_cons]
    rcases List.mem_cons.mp hmem with rfl | hmem
    · have hother : ∀ e ∈ more, e.1 ≠ edit.1 := fun e he heq =>
        hdistinct.1 (heq ▸ List.mem_map_of_mem he)
      rw [node?_putAll_of_notMem hmore hother, node?_put _ (h edit List.mem_cons_self), if_pos rfl]
    · exact ih hmore hdistinct.2 hmem

/-- The order in which edits at different locations are made does not matter. -/
theorem node?_putAll_of_perm {edits' : List (Location × Text)} (hperm : edits.Perm edits')
    (h : ∀ edit ∈ edits, edit.1 ≠ []) (hdistinct : (edits.map Prod.fst).Nodup)
    (location : Location) :
    (tree.putAll edits').node? location = (tree.putAll edits).node? location := by
  have h' : ∀ edit ∈ edits', edit.1 ≠ [] := fun edit hedit => h edit (hperm.mem_iff.mpr hedit)
  have hdistinct' := (hperm.map Prod.fst).nodup_iff.mp hdistinct
  by_cases hmem : ∃ edit ∈ edits, edit.1 = location
  · obtain ⟨edit, hedit, rfl⟩ := hmem
    rw [node?_putAll_eq_some h hdistinct hedit,
      node?_putAll_eq_some h' hdistinct' (hperm.mem_iff.mp hedit)]
  · have hother : ∀ edit ∈ edits, edit.1 ≠ location := fun edit hedit heq =>
      hmem ⟨edit, hedit, heq⟩
    rw [node?_putAll_of_notMem h hother,
      node?_putAll_of_notMem h' fun edit hedit => hother edit (hperm.mem_iff.mpr hedit)]

end PutAll

theorem has_eq_true_iff : tree.has here path = true ↔
    ∃ location node, tree.locate here path = .ok location ∧ tree.node? location = some node := by
  rw [has, exists_comm]
  simp only [← find_eq_ok_iff]
  cases tree.find here path <;> simp

/-- What a path leads to is still there when a text is put somewhere. -/
theorem has_put {location : Location} (hfree : tree.node? location ≠ some .directory)
    (contents : Contents) (h : tree.has here path = true) :
    (tree.put location (.file contents)).has here path = true := by
  have hne : location ≠ [] := by
    rintro rfl
    exact hfree rfl
  obtain ⟨there, node, hlocate, hnode⟩ := has_eq_true_iff.mp h
  have hlocate' := (SameDirectories.put hfree contents).locate_eq_ok hlocate
  -- it is there as it was, or it is the text
  by_cases heq : there = location
  · exact has_eq_true_iff.mpr ⟨there, _, hlocate', by rw [node?_put _ hne, if_pos heq]⟩
  · exact has_eq_true_iff.mpr ⟨there, node, hlocate', by rw [node?_put _ hne, if_neg heq, hnode]⟩

/-! ## Files that are the same -/

/-- A path leads to a file in one tree exactly if it leads to the same file in another one. -/
def SameFileAt (tree other : FileTree) (here : Location) (path : Text) : Prop :=
  ∀ contents, other.find here path = .ok (.file contents) ↔
    tree.find here path = .ok (.file contents)

namespace SameFileAt

variable {other third : FileTree}

theorem symm (h : SameFileAt tree other here path) : SameFileAt other tree here path :=
  fun contents => (h contents).symm

theorem trans (h : SameFileAt tree other here path) (h' : SameFileAt other third here path) :
    SameFileAt tree third here path :=
  fun contents => (h' contents).trans (h contents)

/-- It is enough that the two trees agree on where the path leads. -/
theorem of_node?_eq (hdirs : SameDirectories tree other)
    (h : ∀ location, tree.locate here path = .ok location →
      other.node? location = tree.node? location) : SameFileAt tree other here path := by
  intro contents
  rw [find_eq_ok_iff, find_eq_ok_iff]
  refine exists_congr fun location => ?_
  rw [← hdirs.locate_eq_ok_iff]
  exact and_congr_right fun hlocate => by rw [h location hlocate]

/-- Edits elsewhere do not change what a path leads to. -/
theorem putAll {edits : List (Location × Text)}
    (hdirs : SameDirectories tree (tree.putAll edits)) (hne : ∀ edit ∈ edits, edit.1 ≠ [])
    (hother : ∀ edit ∈ edits, tree.locate here path ≠ .ok edit.1) :
    SameFileAt tree (tree.putAll edits) here path := by
  refine .of_node?_eq hdirs fun location hlocate => node?_putAll_of_notMem hne ?_
  rintro edit hedit rfl
  exact hother edit hedit hlocate

theorem isFile_eq (h : SameFileAt tree other here path) :
    other.isFile here path = tree.isFile here path := by
  rw [Bool.eq_iff_iff, isFile_eq_true_iff, isFile_eq_true_iff]
  exact exists_congr h

theorem readText_eq (h : SameFileAt tree other here path) (hfile : tree.isFile here path = true) :
    other.readText here path = tree.readText here path := by
  obtain ⟨contents, hfind⟩ := isFile_eq_true_iff.mp hfile
  rw [readText, readText, hfind, (h contents).mpr hfind]

end SameFileAt

/-- A path is read alike where the directories are the same and where it leads to the same node. -/
theorem readText_eq_of_node?_eq {other : FileTree} (hdirs : SameDirectories tree other)
    {location : Location} (hlocate : tree.locate here path = .ok location)
    (hnode : other.node? location = tree.node? location) :
    other.readText here path = tree.readText here path := by
  rw [readText, readText, find, find, hdirs.locate_eq_ok hlocate, hlocate]
  dsimp only
  rw [hnode]

/-! ## Names in a directory -/

/-- The name of a file directly below a location, by its entry. -/
def childName? (base : Location) (entry : Location × Node) : Option Text :=
  match entry.2 with
  | .file _ => if entry.1.dropLast = base && !entry.1.isEmpty then entry.1.getLast? else none
  | .directory => none

/-- The names of the files directly below a location. -/
def childNames (tree : FileTree) (base : Location) : List Text :=
  tree.nodes.filterMap (childName? base)

theorem fileNames_of_directory {base : Location} (hlocate : tree.locate here path = .ok base)
    (hnode : tree.node? base = some .directory) :
    tree.fileNames here path = .ok (tree.childNames base) := by
  rw [fileNames, hlocate]
  dsimp only
  rw [hnode]
  rfl

theorem fileNames_of_not_directory {base : Location} (hlocate : tree.locate here path = .ok base)
    (hnode : tree.node? base ≠ some .directory) (hhas : tree.has here path = true) :
    tree.fileNames here path = .error .notADirectory := by
  rw [has, find, hlocate] at hhas
  rw [fileNames, hlocate]
  dsimp only at hhas ⊢
  cases hfound : tree.node? base with
  | none =>
    rw [hfound] at hhas
    cases hhas
  | some node =>
    cases node with
    | directory => exact absurd hfound hnode
    | file contents => rfl

theorem fileNames_congr {other : FileTree} {base : Location}
    (hlocate : tree.locate here path = .ok base) (hlocate' : other.locate here path = .ok base)
    (hnode : other.node? base = tree.node? base)
    (hnames : other.childNames base = tree.childNames base) :
    other.fileNames here path = tree.fileNames here path := by
  rw [fileNames, fileNames, hlocate, hlocate']
  dsimp only
  rw [hnode]
  cases tree.node? base with
  | none => rfl
  | some node =>
    cases node with
    | file contents => rfl
    | directory => exact congrArg Except.ok hnames

theorem of_childName?_eq_some {base : Location} {entry : Location × Node} {name : Text}
    (h : childName? base entry = some name) : entry.1 = base ++ [name] := by
  unfold childName? at h
  split at h
  · split at h
    · rename_i hbase
      rw [Bool.and_eq_true, decide_eq_true_eq] at hbase
      rw [← hbase.1]
      exact (List.dropLast_append_getLast? name h).symm
    · cases h
  · cases h

/-- Names with some property stay as they are when a text is put under a name without it. -/
theorem filter_childNames_put {p : Text → Bool} {base location : Location}
    (h : ∀ name, location = base ++ [name] → p name = false) (contents : Contents) :
    ((tree.put location (.file contents)).childNames base).filter p =
      (tree.childNames base).filter p := by
  -- no entry at the location passes the filter
  have hnone : ∀ entry : Location × Node, entry.1 = location →
      (childName? base entry).filter p = none := by
    rintro entry rfl
    rw [Option.filter_eq_none_iff]
    intro name hname
    rw [h name (of_childName?_eq_some hname)]
    exact Bool.false_ne_true
  rw [childNames, childNames, List.filter_filterMap, List.filter_filterMap, put]
  split
  · -- the entry that is replaced did not pass the filter either
    rw [List.filterMap_map]
    refine List.filterMap_congr fun entry _ => ?_
    rw [Function.comp_apply]
    split
    · rename_i heq
      exact (hnone _ rfl).trans (hnone entry heq).symm
    · rfl
  · have hlast : [(location, Node.file contents)].filterMap
        (fun entry => (childName? base entry).filter p) = [] :=
      List.filterMap_cons_none (hnone (location, _) rfl)
    rw [List.filterMap_append, hlast, List.append_nil]

/-! ## The children of a location -/

/-- The entries directly below a location. -/
def children (tree : FileTree) (base : Location) : List (Location × Node) :=
  tree.nodes.filter fun entry => entry.1.dropLast = base && !entry.1.isEmpty

theorem childNames_eq (tree : FileTree) (base : Location) :
    tree.childNames base = (tree.children base).filterMap (childName? base) := by
  rw [children, List.filterMap_filter, childNames]
  refine List.filterMap_congr fun entry _ => ?_
  split
  · rfl
  · rename_i hchild
    unfold childName?
    split
    · exact if_neg hchild
    · rfl

theorem node?_child (tree : FileTree) (base : Location) (name : Text) :
    tree.node? (base ++ [name]) =
      ((tree.children base).find? fun entry => entry.1 = base ++ [name]).map (·.2) := by
  rw [node?_of_ne_nil _ (by simp), children, List.find?_filter]
  congr 2
  funext entry
  by_cases heq : entry.1 = base ++ [name] <;> simp [heq]

/-- What is put below a location is put among its children. -/
theorem children_put (tree : FileTree) (base : Location) (name : Text) (node : Node) :
    (tree.put (base ++ [name]) node).children base =
      (put ⟨tree.children base⟩ (base ++ [name]) node).nodes := by
  have hany : ((tree.children base).any fun entry => entry.1 = base ++ [name]) =
      tree.nodes.any fun entry => entry.1 = base ++ [name] := by
    rw [children, List.any_filter]
    congr 1
    funext entry
    by_cases heq : entry.1 = base ++ [name] <;> simp [heq]
  -- whether an entry is replaced or added, it passes the filter
  rw [put, put, hany]
  split
  · rw [children, children, List.filter_map]
    congr 1
    refine List.filter_congr fun entry _ => ?_
    rw [Function.comp_apply]
    split
    · rename_i heq
      rw [heq]
    · rfl
  · rw [children, children, List.filter_append, List.filter_cons_of_pos (by simp), List.filter_nil]

theorem mem_childNames_put {base location : Location} {node : Node} {name : Text}
    (h : name ∈ (tree.put location node).childNames base) :
    name ∈ tree.childNames base ∨ location = base ++ [name] := by
  obtain ⟨entry, hentry, hname⟩ := List.mem_filterMap.mp h
  -- an entry was there before, or it is the one that was put
  have hput : entry ∈ tree.nodes ∨ entry = (location, node) := by
    rw [put] at hentry
    split at hentry
    · obtain ⟨old, hold, rfl⟩ := List.mem_map.mp hentry
      split
      · exact Or.inr rfl
      · exact Or.inl hold
    · exact (List.mem_append.mp hentry).imp_right List.mem_singleton.mp
  rcases hput with hold | rfl
  · exact Or.inl (List.mem_filterMap.mpr ⟨entry, hold, hname⟩)
  · exact Or.inr (of_childName?_eq_some hname)

/-- Two trees show the same in some folder: they have their directories at the same locations, and
the same entries directly below this one. -/
structure SameFolder (base : Location) (tree other : FileTree) : Prop where
  directories : SameDirectories tree other
  node?_eq : other.node? base = tree.node? base
  children_eq : other.children base = tree.children base

namespace SameFolder

variable {base : Location} {other : FileTree}

theorem childNames_eq (h : SameFolder base tree other) :
    other.childNames base = tree.childNames base := by
  rw [FileTree.childNames_eq, FileTree.childNames_eq, h.children_eq]

theorem node?_child_eq (h : SameFolder base tree other) (name : Text) :
    other.node? (base ++ [name]) = tree.node? (base ++ [name]) := by
  rw [node?_child, node?_child, h.children_eq]

/-- The same file is put into both folders. -/
theorem put (h : SameFolder base tree other) {name : Text}
    (hfree : tree.node? (base ++ [name]) ≠ some .directory) (contents : Contents) :
    SameFolder base (tree.put (base ++ [name]) (.file contents))
      (other.put (base ++ [name]) (.file contents)) where
  directories := by
    -- no directory is there in the other tree either
    have hfree' : other.node? (base ++ [name]) ≠ some .directory := by
      rwa [h.node?_child_eq]
    exact (SameDirectories.put hfree contents).symm.trans
      (h.directories.trans (.put hfree' contents))
  node?_eq := by
    rw [node?_put _ (by simp), node?_put _ (by simp), h.node?_eq]
  children_eq := by
    rw [children_put, children_put, h.children_eq]

end SameFolder

end Tangle.FileTree
