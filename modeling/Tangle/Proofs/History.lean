import Mathlib
import Tangle.History

/-!
# Histories as chains of versions

A report takes the names in the order of their first fragments, and of each name one fragment for
each version: the first one that was declared. So several fragments of one version are told apart
before versions are put in order, and the steps of a history are those between neighbours in the
ascending list of its versions.
-/

namespace Tangle.History

/-! ## First members -/

section FirstBy

variable {α β : Type} [DecidableEq β] {key : α → β} {members : List α}

theorem firstBy_cons (key : α → β) (a : α) (rest : List α) :
    firstBy key (a :: rest) = a :: firstBy key (rest.filter fun b => key b ≠ key a) := by
  rw [firstBy]

/-- Induction over the members as they are passed: those with the key of the first one all at
once. -/
theorem firstBy_induction (key : α → β) {motive : List α → Prop} (nil : motive [])
    (cons : ∀ a rest, motive (rest.filter fun b => key b ≠ key a) → motive (a :: rest))
    (members : List α) : motive members := by
  induction members using firstBy.induct key with
  | case1 => exact nil
  | case2 a rest ih =>
    refine cons a rest ?_
    have hrest : (rest.attach.filter fun b => key b.1 ≠ key a).unattach =
        rest.filter fun b => key b ≠ key a := by
      rw [List.unattach_filter, List.unattach_attach]
      exact fun _ _ => rfl
    exact hrest ▸ ih

/-- What is kept are the members that are the first ones with their key. -/
theorem mem_firstBy_iff {a : α} :
    a ∈ firstBy key members ↔ members.find? (fun b => key b = key a) = some a := by
  induction members using firstBy_induction key with
  | nil => simp [firstBy]
  | cons first rest ih =>
    rw [firstBy_cons, List.mem_cons, ih, List.find?_filter]
    by_cases hkey : key first = key a
    · -- no later member has the key of the first one
      have hnone : rest.find? (fun b => decide (decide (key b ≠ key first) = true ∧
          decide (key b = key a) = true)) = none := by
        refine List.find?_eq_none.mpr fun b _ => ?_
        simp [hkey]
      rw [hnone, List.find?_cons_of_pos (by simpa using hkey)]
      simp [eq_comm]
    · have hne : a ≠ first := fun h => hkey (congrArg key h.symm)
      rw [List.find?_cons_of_neg (by simpa using hkey), or_iff_right hne]
      have hsame : (fun b => decide (decide (key b ≠ key first) = true ∧
          decide (key b = key a) = true)) = fun b => decide (key b = key a) := by
        funext b
        by_cases hb : key b = key a
        · simp [hb, Ne.symm hkey]
        · simp [hb]
      rw [hsame]

theorem mem_of_mem_firstBy {a : α} (h : a ∈ firstBy key members) : a ∈ members :=
  List.mem_of_find?_eq_some (mem_firstBy_iff.mp h)

theorem exists_mem_firstBy {b : α} (h : b ∈ members) :
    ∃ a ∈ firstBy key members, key a = key b := by
  cases hfind : members.find? (fun a => key a = key b) with
  | none =>
    have hne := List.find?_eq_none.mp hfind b h
    simp at hne
  | some a =>
    have hkey : key a = key b := by simpa using List.find?_some hfind
    refine ⟨a, mem_firstBy_iff.mpr ?_, hkey⟩
    rw [hkey]
    exact hfind

/-- No key is kept twice. -/
theorem nodup_map_firstBy : ((firstBy key members).map key).Nodup := by
  induction members using firstBy_induction key with
  | nil => simp [firstBy]
  | cons first rest ih =>
    rw [firstBy_cons, List.map_cons, List.nodup_cons]
    refine ⟨fun hmem => ?_, ih⟩
    obtain ⟨b, hb, hkey⟩ := List.mem_map.mp hmem
    have := (List.mem_filter.mp (mem_of_mem_firstBy hb)).2
    simp [hkey] at this

end FirstBy

section Appearance

variable {α β : Type} [BEq α] [LawfulBEq α] [DecidableEq β] {key : α → β} {members : List α}

/-- What comes first among some members comes first among all. -/
theorem idxOf_lt_of_idxOf_filter_lt {p : α → Bool} {a b : α} (hb : p b = true)
    (h : (members.filter p).idxOf a < (members.filter p).idxOf b) :
    members.idxOf a < members.idxOf b := by
  have hne : b ≠ a := by
    rintro rfl
    exact Nat.lt_irrefl _ h
  induction members with
  | nil => exact h
  | cons first rest ih =>
    by_cases hfirst : first = a
    · subst hfirst
      rw [List.idxOf_cons_self, List.idxOf_cons_ne _ hne.symm]
      exact Nat.succ_pos _
    · have hother : first ≠ b := by
        rintro rfl
        rw [List.filter_cons_of_pos hb, List.idxOf_cons_self] at h
        exact Nat.not_lt_zero _ h
      rw [List.idxOf_cons_ne _ hfirst, List.idxOf_cons_ne _ hother]
      refine Nat.succ_lt_succ (ih ?_)
      by_cases hkept : p first = true
      · rw [List.filter_cons_of_pos hkept, List.idxOf_cons_ne _ hfirst,
          List.idxOf_cons_ne _ hother] at h
        exact Nat.lt_of_succ_lt_succ h
      · rwa [List.filter_cons_of_neg hkept] at h

/-- Members are kept in the order of their first appearance. -/
theorem pairwise_firstBy :
    (firstBy key members).Pairwise fun a b => members.idxOf a < members.idxOf b := by
  induction members using firstBy_induction key with
  | nil => simp [firstBy]
  | cons first rest ih =>
    -- what is kept of the rest has another key than the first member
    have hrest {b : α} (hb : b ∈ firstBy key (rest.filter fun b => key b ≠ key first)) :
        key b ≠ key first :=
      of_decide_eq_true (List.mem_filter.mp (mem_of_mem_firstBy hb)).2
    have hne {b : α} (hb : b ∈ firstBy key (rest.filter fun b => key b ≠ key first)) :
        first ≠ b := by
      rintro rfl
      exact hrest hb rfl
    rw [firstBy_cons, List.pairwise_cons]
    constructor
    · intro b hb
      rw [List.idxOf_cons_self, List.idxOf_cons_ne _ (hne hb)]
      exact Nat.succ_pos _
    · refine ih.imp_of_mem fun {a b} ha hb hlt => ?_
      rw [List.idxOf_cons_ne _ (hne ha), List.idxOf_cons_ne _ (hne hb)]
      exact Nat.succ_lt_succ (idxOf_lt_of_idxOf_filter_lt (decide_eq_true (hrest hb)) hlt)

/-- What is kept comes before all other members with its key. -/
theorem idxOf_le_of_mem_firstBy {a b : α} (ha : a ∈ firstBy key members) (hkey : key b = key a) :
    members.idxOf a ≤ members.idxOf b := by
  obtain ⟨-, before, after, hmembers, hother⟩ :=
    List.find?_eq_some_iff_append.mp (mem_firstBy_iff.mp ha)
  have hnot {c : α} (hc : key c = key a) : c ∉ before := by
    intro hmem
    have hfalse := hother c hmem
    simp [hc] at hfalse
  rw [hmembers, List.idxOf_append_of_notMem (hnot rfl), List.idxOf_append_of_notMem (hnot hkey),
    List.idxOf_cons_self]
  exact Nat.add_le_add_left (Nat.zero_le _) _

end Appearance

/-! ## The versions of a name -/

section Versions

variable {fragments : List Fragment} {name : Text} {f : Fragment}

/-- The versions that a name has. -/
def versions (name : Text) (fragments : List Fragment) : Finset Nat :=
  ((fragments.filter fun f => f.name = name).map Fragment.version).toFinset

theorem mem_versions_iff {version : Nat} :
    version ∈ versions name fragments ↔ ∃ f ∈ fragments, f.name = name ∧ f.version = version := by
  simp [versions, and_assoc]

theorem one_lt_card_versions_iff :
    1 < (versions name fragments).card ↔
      ∃ f ∈ fragments, ∃ g ∈ fragments, f.name = name ∧ g.name = name ∧ f.version ≠ g.version := by
  rw [Finset.one_lt_card]
  simp only [mem_versions_iff]
  constructor
  · rintro ⟨_, ⟨f, hf, hname, rfl⟩, _, ⟨g, hg, hname', rfl⟩, hne⟩
    exact ⟨f, hf, g, hg, hname, hname', hne⟩
  · rintro ⟨f, hf, g, hg, hname, hname', hne⟩
    exact ⟨_, ⟨f, hf, hname, rfl⟩, _, ⟨g, hg, hname', rfl⟩, hne⟩

/-- The fragment that stands for a version is the first one with the name and the version. -/
theorem mem_versionsOf_iff :
    f ∈ versionsOf name fragments ↔
      fragments.find? (fun g => g.name = name ∧ g.version = f.version) = some f := by
  rw [versionsOf, List.mem_mergeSort, mem_firstBy_iff, List.find?_filter]
  simp

theorem versionsOf_perm :
    (versionsOf name fragments).Perm
      (firstBy Fragment.version (fragments.filter fun f => f.name = name)) :=
  List.mergeSort_perm ..

theorem nodup_map_versionsOf : ((versionsOf name fragments).map Fragment.version).Nodup :=
  (versionsOf_perm.map _).nodup_iff.mpr nodup_map_firstBy

/-- Versions are in ascending order, and none stands twice. -/
theorem pairwise_versionsOf :
    (versionsOf name fragments).Pairwise fun f g => f.version < g.version := by
  have hsorted : (versionsOf name fragments).Pairwise
      fun f g => decide (f.version ≤ g.version) = true := by
    refine List.pairwise_mergeSort (fun f g h hfg hgh => ?_) (fun f g => ?_) _
    · rw [decide_eq_true_eq] at hfg hgh ⊢
      exact Nat.le_trans hfg hgh
    · rw [Bool.or_eq_true, decide_eq_true_eq, decide_eq_true_eq]
      exact Nat.le_total ..
  have hdistinct : (versionsOf name fragments).Pairwise fun f g => f.version ≠ g.version :=
    List.pairwise_map.mp nodup_map_versionsOf
  exact hsorted.imp₂ (fun f g hle hne => Nat.lt_of_le_of_ne (of_decide_eq_true hle) hne) hdistinct

/-- Every version of the name has a fragment that stands for it. -/
theorem toFinset_versionsOf :
    ((versionsOf name fragments).map Fragment.version).toFinset = versions name fragments := by
  ext version
  rw [List.mem_toFinset, (versionsOf_perm.map _).mem_iff, versions, List.mem_toFinset,
    List.mem_map, List.mem_map]
  constructor
  · rintro ⟨f, hf, rfl⟩
    exact ⟨f, mem_of_mem_firstBy hf, rfl⟩
  · rintro ⟨f, hf, rfl⟩
    exact exists_mem_firstBy hf

theorem length_versionsOf :
    (versionsOf name fragments).length = (versions name fragments).card := by
  rw [← toFinset_versionsOf, List.toFinset_card_of_nodup nodup_map_versionsOf, List.length_map]

end Versions

/-! ## Reports -/

variable (compare : Text → Text → Text) (fragments : List Fragment)

theorem length_revisionsOf (versions : List Fragment) :
    (revisionsOf compare versions).length = versions.length - 1 := by
  rw [revisionsOf, List.length_zipWith, List.length_tail]
  omega

/-- The history of a name, whether or not it has any steps. -/
def historyOf (name : Text) : History :=
  { name, revisions := revisionsOf compare (versionsOf name fragments) }

theorem length_historyOf (name : Text) :
    (historyOf compare fragments name).revisions.length = (versions name fragments).card - 1 := by
  rw [historyOf, length_revisionsOf, length_versionsOf]

/-- A report holds the histories of the names that have at least two versions. -/
theorem report_eq :
    report compare fragments =
      ((names fragments).filter fun name => 1 < (versions name fragments).card).map
        (historyOf compare fragments) := by
  rw [report, List.filter_map]
  congr 1
  refine List.filter_congr fun name _ => ?_
  have hlength := length_historyOf compare fragments name
  show (!(historyOf compare fragments name).revisions.isEmpty) = _
  rw [Bool.eq_iff_iff, decide_eq_true_eq, Bool.not_eq_true', List.isEmpty_eq_false_iff,
    ← List.length_pos_iff, hlength]
  omega

/-- The report of two versions of one name has one step. -/
theorem report_pair {f g : Fragment} (hname : g.name = f.name) (hversion : f.version < g.version) :
    report compare [f, g] =
      [⟨f.name, [⟨f.version, g.version, compare f.content g.content⟩]⟩] := by
  have hnames : names [f, g] = [f.name] := by
    simp [names, firstBy_cons, hname, firstBy]
  have hversions : versionsOf f.name [f, g] = [f, g] := by
    have hfirst : firstBy Fragment.version ([f, g].filter fun h => h.name = f.name) = [f, g] := by
      simp [firstBy_cons, hname, hversion.ne', firstBy]
    -- the two versions are in order already
    rw [versionsOf, hfirst]
    apply List.mergeSort_of_pairwise
    simp [hversion.le]
  rw [report, hnames]
  simp [hversions, revisionsOf]

theorem mem_names_iff {name : Text} :
    name ∈ names fragments ↔ ∃ f ∈ fragments, f.name = name := by
  rw [← List.mem_map]
  constructor
  · exact mem_of_mem_firstBy
  · intro hmem
    obtain ⟨first, hfirst, heq⟩ :
        ∃ first ∈ firstBy id (fragments.map Fragment.name), id first = id name :=
      exists_mem_firstBy hmem
    rwa [show first = name from heq] at hfirst

/-- Names stand in the order of their first appearance. -/
theorem pairwise_names :
    (names fragments).Pairwise fun name other =>
      (fragments.map Fragment.name).idxOf name < (fragments.map Fragment.name).idxOf other :=
  pairwise_firstBy

theorem nodup_names : (names fragments).Nodup := by
  refine (pairwise_names fragments).imp fun {name other} hlt heq => ?_
  rw [heq] at hlt
  exact Nat.lt_irrefl _ hlt

theorem revisionCount_eq (histories : List History) :
    revisionCount histories = (histories.map fun h => h.revisions.length).sum := by
  induction histories with
  | nil => rfl
  | cons h more ih =>
    rw [List.map_cons, List.sum_cons, ← ih]
    rfl

/-- Names with one version add no step to a report. -/
theorem revisionCount_report :
    revisionCount (report compare fragments) =
      ∑ name ∈ (fragments.map Fragment.name).toFinset, ((versions name fragments).card - 1) := by
  have hnames : (names fragments).toFinset = (fragments.map Fragment.name).toFinset := by
    ext name
    rw [List.mem_toFinset, List.mem_toFinset, mem_names_iff, List.mem_map]
  have hlength : (fun h => h.revisions.length) ∘ historyOf compare fragments =
      fun name => (versions name fragments).card - 1 :=
    funext (length_historyOf compare fragments)
  rw [revisionCount_eq, report_eq, List.map_map, hlength,
    ← List.sum_toFinset _ ((nodup_names fragments).filter _), List.toFinset_filter, hnames]
  refine Finset.sum_filter_of_ne fun name _ hne => decide_eq_true ?_
  omega

/-- **A report is the chain of adjacent versions.** Its histories are those of the names that two
fragments with different versions have, in the order in which the names first appear. A history
takes for each version of its name the first fragment with both, in ascending order of versions, and
compares each of these with the next. So a report has as many steps as there are versions of names
that are not the lowest one. -/
theorem report_chains (compare : Text → Text → Text) (fragments : List Fragment) :
    let histories := report compare fragments
    (histories.map History.name).Pairwise (fun name other =>
      (fragments.map Fragment.name).idxOf name < (fragments.map Fragment.name).idxOf other) ∧
    (∀ name, name ∈ histories.map History.name ↔
      ∃ f ∈ fragments, ∃ g ∈ fragments, f.name = name ∧ g.name = name ∧ f.version ≠ g.version) ∧
    (∀ h ∈ histories, ∃ chain : List Fragment,
      chain.Pairwise (fun f g => f.version < g.version) ∧
      (∀ version, version ∈ chain.map Fragment.version ↔
        ∃ f ∈ fragments, f.name = h.name ∧ f.version = version) ∧
      (∀ f ∈ chain,
        fragments.find? (fun g => g.name = h.name ∧ g.version = f.version) = some f) ∧
      h.revisions = chain.zipWith
        (fun f g => ⟨f.version, g.version, compare f.content g.content⟩) chain.tail) ∧
    revisionCount histories =
      ∑ name ∈ (fragments.map Fragment.name).toFinset, ((versions name fragments).card - 1) := by
  intro histories
  have hmap : histories.map History.name =
      (names fragments).filter fun name => 1 < (versions name fragments).card := by
    rw [show histories = _ from report_eq compare fragments, List.map_map]
    exact List.map_id _
  refine ⟨?_, fun name => ?_, fun h hh => ?_, revisionCount_report compare fragments⟩
  · rw [hmap]
    exact (pairwise_names fragments).filter _
  · rw [hmap, List.mem_filter, mem_names_iff, decide_eq_true_eq, one_lt_card_versions_iff]
    -- a name with two versions is one of the names
    exact and_iff_right_of_imp fun ⟨f, hf, _, _, hname, _⟩ => ⟨f, hf, hname⟩
  · rw [show histories = _ from report_eq compare fragments] at hh
    obtain ⟨name, -, rfl⟩ := List.mem_map.mp hh
    -- the chain of a name is made of the fragments that stand for its versions
    refine ⟨versionsOf name fragments, pairwise_versionsOf, fun version => ?_,
      fun f hf => mem_versionsOf_iff.mp hf, rfl⟩
    rw [← List.mem_toFinset, toFinset_versionsOf, mem_versions_iff]
    rfl

end Tangle.History
