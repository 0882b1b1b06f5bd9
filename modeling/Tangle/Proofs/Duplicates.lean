import Mathlib.Data.List.Forall2
import Mathlib.Data.List.Nodup
import Tangle.Proofs.Reporting

/-!
# Duplicates

Of fragments with one key the first is accepted, and each later one is reported next to it. What is
accepted therefore has different keys, stays when it is gone through once more, and is not touched
by fragments that come later.

Accepted fragments can be looked up by their key, or by a place that is kept for the key. The second
way is that of the `Register`: its places always lie among the accepted fragments, and it comes to
the same result.
-/

namespace Tangle

/-! ## Going through fragments -/

/-- The report on a fragment whose key is taken by another one. -/
def duplication (existing skipped : Fragment) : Diagnostic where
  problem := .duplicateBlock existing skipped
  file := some skipped.file
  line := some skipped.line

section PruneAfter

variable {accepted fragments rest : List Fragment} {f : Fragment}

theorem pruneAfter_of_taken {existing : Fragment}
    (h : (accepted.find? fun g => g.key = f.key) = some existing) :
    pruneAfter accepted (f :: rest) =
      ⟨(pruneAfter accepted rest).fragments,
        duplication existing f :: (pruneAfter accepted rest).diagnostics⟩ := by
  rw [pruneAfter_cons_eq, h]
  rfl

theorem pruneAfter_of_free (h : (accepted.find? fun g => g.key = f.key) = none) :
    pruneAfter accepted (f :: rest) = pruneAfter (accepted ++ [f]) rest := by
  rw [pruneAfter_cons_eq, h]

theorem mem_of_taken {existing : Fragment}
    (h : (accepted.find? fun g => g.key = f.key) = some existing) :
    existing ∈ accepted ∧ existing.key = f.key :=
  ⟨List.mem_of_find?_eq_some h, by simpa using List.find?_some h⟩

theorem notMem_keys_of_free (h : (accepted.find? fun g => g.key = f.key) = none) :
    f.key ∉ accepted.map Fragment.key := by
  intro hmem
  obtain ⟨g, hg, hkey⟩ := List.mem_map.mp hmem
  exact List.find?_eq_none.mp h g hg (decide_eq_true hkey)

/-- What is accepted stays accepted. -/
theorem prefix_pruneAfter (accepted fragments : List Fragment) :
    accepted <+: (pruneAfter accepted fragments).fragments := by
  induction fragments generalizing accepted with
  | nil => exact List.prefix_rfl
  | cons f rest ih =>
    cases h : accepted.find? fun g => g.key = f.key with
    | some existing =>
      rw [pruneAfter_of_taken h]
      exact ih accepted
    | none =>
      rw [pruneAfter_of_free h]
      exact (List.prefix_append ..).trans (ih (accepted ++ [f]))

/-- Fragments that come later are gone through with what was accepted before. -/
theorem pruneAfter_append (accepted fragments more : List Fragment) :
    (pruneAfter accepted (fragments ++ more)).fragments =
      (pruneAfter (pruneAfter accepted fragments).fragments more).fragments := by
  induction fragments generalizing accepted with
  | nil => rfl
  | cons f rest ih =>
    rw [List.cons_append]
    cases h : accepted.find? fun g => g.key = f.key with
    | some existing =>
      rw [pruneAfter_of_taken h, pruneAfter_of_taken h]
      exact ih accepted
    | none =>
      rw [pruneAfter_of_free h, pruneAfter_of_free h]
      exact ih (accepted ++ [f])

/-- Different keys stay different. -/
theorem nodup_keys_pruneAfter (h : (accepted.map Fragment.key).Nodup) :
    ((pruneAfter accepted fragments).fragments.map Fragment.key).Nodup := by
  induction fragments generalizing accepted with
  | nil => exact h
  | cons f rest ih =>
    cases hfind : accepted.find? fun g => g.key = f.key with
    | some existing =>
      rw [pruneAfter_of_taken hfind]
      exact ih h
    | none =>
      rw [pruneAfter_of_free hfind]
      apply ih
      rw [List.map_append, List.map_singleton, ← List.concat_eq_append]
      exact List.Nodup.concat (notMem_keys_of_free hfind) h

/-- Fragments whose keys are new and different are all accepted. -/
theorem pruneAfter_of_nodup (h : ((accepted ++ fragments).map Fragment.key).Nodup) :
    pruneAfter accepted fragments = ⟨accepted ++ fragments, []⟩ := by
  induction fragments generalizing accepted with
  | nil => rw [pruneAfter_nil, List.append_nil]
  | cons f rest ih =>
    have hnew : (accepted.find? fun g => g.key = f.key) = none := by
      refine List.find?_eq_none.mpr fun g hg heq => ?_
      rw [List.map_append, List.nodup_append] at h
      exact h.2.2 g.key (List.mem_map_of_mem hg) f.key (List.mem_map_of_mem List.mem_cons_self)
        (of_decide_eq_true heq)
    rw [pruneAfter_of_free hnew, ih (by simpa using h), List.append_assoc, List.singleton_append]

/-- Nothing but duplicates is reported. -/
theorem exists_duplication_of_mem {d : Diagnostic}
    (h : d ∈ (pruneAfter accepted fragments).diagnostics) :
    ∃ existing skipped, d = duplication existing skipped := by
  induction fragments generalizing accepted with
  | nil => cases h
  | cons f rest ih =>
    cases hfind : accepted.find? fun g => g.key = f.key with
    | some existing =>
      rw [pruneAfter_of_taken hfind] at h
      rcases List.mem_cons.mp h with rfl | h
      · exact ⟨existing, f, rfl⟩
      · exact ih h
    | none =>
      rw [pruneAfter_of_free hfind] at h
      exact ih h

end PruneAfter

/-- Fragments with different keys are all kept. -/
theorem prune_of_nodup {fragments : List Fragment} (h : (fragments.map Fragment.key).Nodup) :
    prune fragments = ⟨fragments, []⟩ :=
  pruneAfter_of_nodup h

/-! ## First and later occurrences -/

/-- The members of a list, each with those that stand before it; `earlier` stand before them all. -/
def withEarlier (earlier : List Fragment) : List Fragment → List (List Fragment × Fragment)
  | [] => []
  | f :: rest => (earlier, f) :: withEarlier (earlier ++ [f]) rest

/-- A fragment stands behind one with the same key. -/
def isRepeated (entry : List Fragment × Fragment) : Bool :=
  entry.2.key ∈ entry.1.map Fragment.key

/-- The fragments whose key does not occur earlier. -/
def firsts (fragments : List Fragment) : List Fragment :=
  ((withEarlier [] fragments).filter fun entry => !isRepeated entry).map Prod.snd

/-- All others. -/
def repeats (fragments : List Fragment) : List Fragment :=
  ((withEarlier [] fragments).filter isRepeated).map Prod.snd

/-- A diagnostic reports a fragment: at the place of the fragment, and described next to an accepted
one with the same key. -/
structure Reports (accepted : List Fragment) (skipped : Fragment) (d : Diagnostic) : Prop where
  problem : ∃ existing ∈ accepted, existing.key = skipped.key ∧
    d.problem = .duplicateBlock existing skipped ∧
    d.problem.message =
      "found a duplicate block declaration, skipping; existing: ".toList ++ existing.describe ++
        ", skipping: ".toList ++ skipped.describe
  file : d.file = some skipped.file
  line : d.line = some skipped.line
  version : d.version = none

/-- Going through fragments accepts the first ones and reports the others, each once. What was
accepted before has the keys of the fragments that stand earlier. -/
theorem pruneAfter_withEarlier {accepted earlier : List Fragment} (fragments : List Fragment)
    (h : ∀ key, key ∈ accepted.map Fragment.key ↔ key ∈ earlier.map Fragment.key) :
    (pruneAfter accepted fragments).fragments = accepted ++
        ((withEarlier earlier fragments).filter fun entry => !isRepeated entry).map Prod.snd ∧
      List.Forall₂ (Reports (pruneAfter accepted fragments).fragments)
        (((withEarlier earlier fragments).filter isRepeated).map Prod.snd)
        (pruneAfter accepted fragments).diagnostics := by
  induction fragments generalizing accepted earlier with
  | nil => exact ⟨(List.append_nil _).symm, .nil⟩
  | cons f rest ih =>
    cases hfind : accepted.find? fun g => g.key = f.key with
    | some existing =>
      obtain ⟨hmem, hkey⟩ := mem_of_taken hfind
      have htaken : f.key ∈ accepted.map Fragment.key := List.mem_map.mpr ⟨existing, hmem, hkey⟩
      have hrepeated : isRepeated (earlier, f) = true := decide_eq_true ((h f.key).mp htaken)
      -- the key is no new one among those that stand earlier
      have hkeys : ∀ key, key ∈ accepted.map Fragment.key ↔
          key ∈ (earlier ++ [f]).map Fragment.key := by
        intro key
        rw [List.map_append, List.mem_append, List.map_singleton, List.mem_singleton, ← h]
        constructor
        · exact Or.inl
        · rintro (hold | rfl)
          · exact hold
          · exact htaken
      obtain ⟨hfragments, hdiagnostics⟩ := ih hkeys
      rw [pruneAfter_of_taken hfind, withEarlier, List.filter_cons_of_neg (by simpa using hrepeated),
        List.filter_cons_of_pos hrepeated]
      refine ⟨hfragments, .cons ?_ hdiagnostics⟩
      have haccepted := (prefix_pruneAfter accepted rest).subset hmem
      exact ⟨⟨existing, haccepted, hkey, rfl, rfl⟩, rfl, rfl, rfl⟩
    | none =>
      have hfree : isRepeated (earlier, f) = false :=
        decide_eq_false ((h f.key).not.mp (notMem_keys_of_free hfind))
      have hkeys : ∀ key, key ∈ (accepted ++ [f]).map Fragment.key ↔
          key ∈ (earlier ++ [f]).map Fragment.key := by
        simp [h]
      obtain ⟨hfragments, hdiagnostics⟩ := ih hkeys
      rw [pruneAfter_of_free hfind, withEarlier, List.filter_cons_of_pos (by simpa using hfree),
        List.filter_cons_of_neg (by simpa using hfree), List.map_cons]
      rw [List.append_assoc, List.singleton_append] at hfragments
      exact ⟨hfragments, hdiagnostics⟩

/-! ## Places of keys -/

/-- The fragments accepted so far, with the place among them that is kept for each key, and what was
reported. -/
structure Register where
  accepted : List Fragment
  place? : Text × Text × Nat → Option Nat
  diagnostics : List Diagnostic

namespace Register

/-- The register before the first fragment. -/
def empty : Register := ⟨[], fun _ => none, []⟩

/-- Accepts or reports a fragment. A place outside of the accepted fragments ends it all. -/
def enter (register : Register) (f : Fragment) : Option Register :=
  match register.place? f.key with
  | some place =>
    match register.accepted[place]? with
    | some existing =>
      some { register with diagnostics := register.diagnostics ++ [duplication existing f] }
    | none => none
  | none =>
    some { register with
      accepted := register.accepted ++ [f]
      place? := fun key =>
        if key = f.key then some register.accepted.length else register.place? key }

/-- The register after some fragments. -/
def of? (fragments : List Fragment) : Option Register := fragments.foldlM enter empty

/-- The place that is kept for a key is that of the accepted fragment with this key. -/
def Coherent (register : Register) : Prop :=
  ∀ key, register.place? key = register.accepted.findIdx? fun g => g.key = key

theorem coherent_empty : empty.Coherent := fun _ => rfl

section Coherent

variable {register : Register} {f : Fragment}

/-- The place of a key lies among the accepted fragments, and there is the one with the key. -/
theorem Coherent.exists_accepted (h : register.Coherent) {key : Text × Text × Nat} {place : Nat}
    (hplace : register.place? key = some place) :
    ∃ g, register.accepted[place]? = some g ∧ g.key = key := by
  rw [h key] at hplace
  obtain ⟨hlt, hkey, -⟩ := List.findIdx?_eq_some_iff_getElem.mp hplace
  exact ⟨_, List.getElem?_eq_getElem hlt, of_decide_eq_true hkey⟩

/-- A taken key leads to the fragment that has it, and the register only reports. -/
theorem Coherent.enter_of_taken (h : register.Coherent) {existing : Fragment}
    (htaken : (register.accepted.find? fun g => g.key = f.key) = some existing) :
    register.enter f =
      some { register with diagnostics := register.diagnostics ++ [duplication existing f] } := by
  rw [List.find?_eq_bind_findIdx?_getElem?, ← h f.key] at htaken
  obtain ⟨place, hplace, hexisting⟩ := Option.bind_eq_some_iff.mp htaken
  rw [enter, hplace]
  dsimp only
  rw [hexisting]

/-- A free key gets the place at the end. -/
theorem Coherent.exists_enter_of_free (h : register.Coherent)
    (hfree : (register.accepted.find? fun g => g.key = f.key) = none) :
    ∃ next, register.enter f = some next ∧ next.Coherent ∧
      next.accepted = register.accepted ++ [f] ∧ next.diagnostics = register.diagnostics := by
  have hplace : register.place? f.key = none := by
    rw [h f.key, List.findIdx?_eq_none_iff]
    intro g hg
    simpa using List.find?_eq_none.mp hfree g hg
  rw [enter, hplace]
  refine ⟨_, rfl, ?_, rfl, rfl⟩
  intro key
  dsimp only
  rw [List.findIdx?_append, ← h key]
  by_cases hkey : key = f.key
  · rw [if_pos hkey, hkey, hplace]
    simp
  · have hother : decide (f.key = key) = false := decide_eq_false (Ne.symm hkey)
    simp [hkey, hother]

/-- Going through fragments with a coherent register never ends early, and comes to what looking
keys up comes to. -/
theorem Coherent.exists_run (h : register.Coherent) (fragments : List Fragment) :
    ∃ last, fragments.foldlM enter register = some last ∧ last.Coherent ∧
      last.accepted = (pruneAfter register.accepted fragments).fragments ∧
      last.diagnostics =
        register.diagnostics ++ (pruneAfter register.accepted fragments).diagnostics := by
  induction fragments generalizing register with
  | nil => exact ⟨register, rfl, h, rfl, (List.append_nil _).symm⟩
  | cons f rest ih =>
    rw [List.foldlM_cons]
    cases hfind : register.accepted.find? fun g => g.key = f.key with
    | some existing =>
      have hcoherent : Coherent { register with
          diagnostics := register.diagnostics ++ [duplication existing f] } := h
      obtain ⟨last, hlast, hcoherent, haccepted, hdiagnostics⟩ := ih hcoherent
      rw [h.enter_of_taken hfind, pruneAfter_of_taken hfind]
      refine ⟨last, hlast, hcoherent, haccepted, ?_⟩
      rw [hdiagnostics, List.append_assoc, List.singleton_append]
    | none =>
      obtain ⟨next, hnext, hcoherent, hgrown, hsame⟩ := h.exists_enter_of_free hfind
      obtain ⟨last, hlast, hcoherent, haccepted, hdiagnostics⟩ := ih hcoherent
      rw [hnext, pruneAfter_of_free hfind, ← hgrown, ← hsame]
      exact ⟨last, hlast, hcoherent, haccepted, hdiagnostics⟩

end Coherent

end Register

/-! ## Pruning -/

/-- **The first of each key is accepted, and every other one is reported.** A register of places
comes to the same, and each of its places leads to the accepted fragment with the key. What is
accepted is kept as it is when it is pruned again, and fragments that are added behind the others
leave it in front. -/
theorem prune_accepts_firsts (fragments : List Fragment) :
    (prune fragments).fragments = firsts fragments ∧
    List.Forall₂ (Reports (prune fragments).fragments) (repeats fragments)
      (prune fragments).diagnostics ∧
    (∃ register, Register.of? fragments = some register ∧
      prune fragments = ⟨register.accepted, register.diagnostics⟩ ∧
      ∀ key place, register.place? key = some place →
        ∃ f, register.accepted[place]? = some f ∧ f.key = key) ∧
    prune (prune fragments).fragments = ⟨(prune fragments).fragments, []⟩ ∧
    ∀ more, (prune fragments).fragments <+: (prune (fragments ++ more)).fragments := by
  have hkeys : ∀ key, key ∈ ([] : List Fragment).map Fragment.key ↔
      key ∈ ([] : List Fragment).map Fragment.key := fun _ => Iff.rfl
  obtain ⟨haccepted, hreported⟩ := pruneAfter_withEarlier fragments hkeys
  refine ⟨haccepted, hreported, ?_, prune_of_nodup (nodup_keys_pruneAfter List.nodup_nil), ?_⟩
  · obtain ⟨register, hrun, hcoherent, hregister, hdiagnostics⟩ :=
      Register.coherent_empty.exists_run fragments
    refine ⟨register, hrun, ?_, fun key place hplace => hcoherent.exists_accepted hplace⟩
    rw [hregister, hdiagnostics]
    rfl
  · intro more
    rw [prune, prune, pruneAfter_append]
    exact prefix_pruneAfter _ more

end Tangle
