import Mathlib.Data.List.Nodup
import Tangle.Proofs.Order
import Tangle.Proofs.Places

/-!
# What directories list

A file system keeps one entry for each location, under names that can be stored, and writing a text
keeps it so. Then the order of the entries has no meaning: whatever it is, paths lead to the same
files and directories, and a directory lists the same names, each of them once.
-/

namespace Tangle.FileTree

/-! ## Trees of a file system -/

/-- A name that a directory can have an entry for. -/
structure IsStorable (name : Text) : Prop where
  isName : Path.IsName name
  zero : '\x00' ∉ name
  size : Utf8.size name ≤ nameBound

instance (name : Text) : Decidable (IsStorable name) :=
  decidable_of_iff (Path.IsName name ∧ '\x00' ∉ name ∧ Utf8.size name ≤ nameBound)
    ⟨fun ⟨isName, zero, size⟩ => ⟨isName, zero, size⟩,
      fun ⟨isName, zero, size⟩ => ⟨isName, zero, size⟩⟩

/-- A tree as a file system keeps it. -/
structure Proper (tree : FileTree) : Prop where
  /-- No location has two entries. -/
  distinct : (tree.nodes.map Prod.fst).Nodup
  storable : ∀ entry ∈ tree.nodes, ∀ name ∈ entry.1, IsStorable name

variable {tree other : FileTree} {here base location : Location}

/-- What is at a location is what its only entry says. -/
theorem Proper.node?_eq_some_iff (h : tree.Proper) (hne : location ≠ []) {node : Node} :
    tree.node? location = some node ↔ (location, node) ∈ tree.nodes := by
  rw [node?_of_ne_nil tree hne, Option.map_eq_some_iff]
  constructor
  · rintro ⟨entry, hfind, rfl⟩
    have heq : entry.1 = location := by simpa using List.find?_some hfind
    rw [← heq]
    exact List.mem_of_find?_eq_some hfind
  · intro hmem
    cases hfind : tree.nodes.find? fun entry => entry.1 = location with
    | none => simpa using List.find?_eq_none.mp hfind _ hmem
    | some entry =>
      have heq : entry.1 = location := by simpa using List.find?_some hfind
      have hsame := List.inj_on_of_nodup_map h.distinct (List.mem_of_find?_eq_some hfind) hmem heq
      exact ⟨entry, rfl, by rw [hsame]⟩

/-! ## Writing -/

theorem Proper.put (h : tree.Proper) (hlocation : ∀ name ∈ location, IsStorable name)
    (node : Node) : (tree.put location node).Proper := by
  unfold FileTree.put
  split
  · -- the entry that is there gets another node
    have hkeys : (tree.nodes.map fun entry =>
        if entry.1 = location then (location, node) else entry).map Prod.fst =
          tree.nodes.map Prod.fst := by
      rw [List.map_map]
      apply List.map_congr_left
      intro entry _
      rw [Function.comp_apply]
      split
      · rename_i heq
        exact heq.symm
      · rfl
    refine ⟨hkeys ▸ h.distinct, ?_⟩
    intro entry hentry
    have hkey : entry.1 ∈ tree.nodes.map Prod.fst := by
      rw [← hkeys]
      exact List.mem_map_of_mem hentry
    obtain ⟨old, hold, heq⟩ := List.mem_map.mp hkey
    rw [← heq]
    exact h.storable old hold
  · rename_i hnew
    have hnew : location ∉ tree.nodes.map Prod.fst := by
      simpa using hnew
    constructor
    · rw [List.map_append, List.map_singleton, ← List.concat_eq_append]
      exact List.Nodup.concat hnew h.distinct
    · intro entry hentry
      rcases List.mem_append.mp hentry with hold | hput
      · exact h.storable entry hold
      · rw [List.mem_singleton.mp hput]
        exact hlocation

/-- Names that are followed and found are names that can be stored. -/
theorem storable_of_follow (hhere : ∀ name ∈ here, IsStorable name) {names : List Text}
    (hnames : ∀ name ∈ names, '/' ∉ name ∧ '\x00' ∉ name)
    (h : tree.follow here names = .ok location) : ∀ name ∈ location, IsStorable name := by
  induction names generalizing here with
  | nil =>
    cases h
    exact hhere
  | cons name more ih =>
    have hmore : ∀ other ∈ more, '/' ∉ other ∧ '\x00' ∉ other := fun other hother =>
      hnames other (List.mem_cons_of_mem _ hother)
    obtain ⟨hslash, hzero⟩ := hnames name List.mem_cons_self
    rw [follow_cons (node?_of_follow_cons h)] at h
    split_ifs at h with hskip hdots hsize
    · exact ih hhere hmore h
    · exact ih (fun other hother => hhere other (List.dropLast_subset _ hother)) hmore h
    · -- a name is added that none of the other cases is about
      have hname : Path.IsName name := by
        simp only [Bool.or_eq_true, List.isEmpty_iff, decide_eq_true_eq, not_or] at hskip
        exact ⟨hskip.1, hskip.2, hdots, hslash⟩
      refine ih (fun other hother => ?_) hmore h
      rcases List.mem_append.mp hother with hold | hnew
      · exact hhere other hold
      · rw [List.mem_singleton.mp hnew]
        exact ⟨hname, hzero, Nat.not_lt.mp hsize⟩

/-- **Writing keeps a tree proper.** -/
theorem Proper.writeText (h : tree.Proper) (hhere : ∀ name ∈ here, IsStorable name)
    {path text : Text} {after : FileTree} (hwrite : tree.writeText here path text = .ok after) :
    after.Proper := by
  obtain ⟨location, hlocate, -, rfl⟩ := writeText_eq_ok_iff.mp hwrite
  obtain ⟨hempty, hzero⟩ := of_locate_eq_ok hlocate
  refine h.put ?_ _
  rw [locate, if_neg (by simpa using hempty), if_neg (by simpa using hzero)] at hlocate
  refine storable_of_follow ?_ ?_ hlocate
  · split
    · simp
    · exact hhere
  · intro name hname
    obtain ⟨hslash, hsubset⟩ := Text.of_mem_splitOn hname
    exact ⟨hslash, fun hmem => hzero (hsubset hmem)⟩

/-! ## Listing -/

/-- A directory lists the files in it. -/
theorem Proper.mem_childNames_iff (h : tree.Proper) {name : Text} :
    name ∈ tree.childNames base ↔
      ∃ contents, tree.node? (base ++ [name]) = some (.file contents) := by
  simp only [h.node?_eq_some_iff (List.concat_ne_nil name base)]
  rw [childNames, List.mem_filterMap]
  constructor
  · rintro ⟨⟨location, node⟩, hentry, hname⟩
    have heq : location = base ++ [name] := of_childName?_eq_some hname
    cases node with
    | directory => cases hname
    | file contents => exact ⟨contents, heq ▸ hentry⟩
  · rintro ⟨contents, hentry⟩
    exact ⟨_, hentry, by simp [childName?]⟩

/-- It lists each of them once. -/
theorem Proper.nodup_childNames (h : tree.Proper) : (tree.childNames base).Nodup := by
  rw [childNames, List.Nodup, List.pairwise_filterMap]
  refine (List.pairwise_map.mp h.distinct).imp ?_
  intro entry entry' hne name hname name' hname' heq
  apply hne
  rw [of_childName?_eq_some hname, of_childName?_eq_some hname', heq]

/-! ## The order of entries -/

section Perm

variable (h : tree.Proper) (perm : other.nodes.Perm tree.nodes)

include h perm

theorem Proper.of_perm : other.Proper :=
  ⟨(perm.map Prod.fst).nodup_iff.mpr h.distinct, fun entry hentry =>
    h.storable entry (perm.mem_iff.mp hentry)⟩

theorem Proper.node?_of_perm (location : Location) :
    other.node? location = tree.node? location := by
  by_cases hne : location = []
  · rw [hne]
    rfl
  · apply Option.ext
    intro node
    rw [(h.of_perm perm).node?_eq_some_iff hne, h.node?_eq_some_iff hne, perm.mem_iff]

theorem Proper.follow_of_perm (here : Location) (names : List Text) :
    other.follow here names = tree.follow here names := by
  induction names generalizing here with
  | nil => rfl
  | cons name more ih => simp only [follow, h.node?_of_perm perm, ih]

/-- Paths lead to the same places. -/
theorem Proper.locate_of_perm (here : Location) (path : Text) :
    other.locate here path = tree.locate here path := by
  simp only [locate, h.follow_of_perm perm]

theorem Proper.isFile_of_perm (here : Location) (path : Text) :
    other.isFile here path = tree.isFile here path := by
  simp only [isFile, find, h.locate_of_perm perm, h.node?_of_perm perm]

end Perm

end Tangle.FileTree
