import Mathlib.Data.List.Nodup
import Tangle.Proofs.Order
import Tangle.Scope

/-!
# Lookup in scopes

What a scope answers after each of its operations. Its bindings stay in strict order of their names,
so that they are a map: a name is bound to a content exactly when the pair is among the bindings.
-/

namespace Tangle.Scope

/-! ## What is looked up -/

@[simp] theorem get?_setVersion (scope : Scope) (version : Nat) (name : Text) :
    (scope.setVersion version).get? name = scope.get? name := rfl

section Insert

variable {α : Type}

/-- Inserting a binding changes the lookup of its own name and of no other one. -/
theorem find?_insert (name : Text) (value : α) (other : Text) (bindings : List (Text × α)) :
    (insert name value bindings).find? (fun b => b.1 = other) =
      if name = other then some (name, value)
      else bindings.find? (fun b => b.1 = other) := by
  induction bindings with
  | nil =>
    by_cases h : name = other <;> simp [insert, h]
  | cons b more ih =>
    obtain ⟨first, bound⟩ := b
    rw [insert]
    by_cases hname : name = first
    · -- the first pair is replaced
      subst hname
      by_cases h : name = other <;> simp [h]
    · rw [if_neg hname]
      split
      · by_cases h : name = other <;> simp [h]
      · rw [List.find?_cons, List.find?_cons, ih]
        by_cases hfirst : first = other
        · have hother : name ≠ other := fun h => hname (h.trans hfirst.symm)
          simp [hfirst, hother]
        · simp [hfirst]

/-- Of bindings that are put into others those are found first that are put in. -/
theorem find?_insertAll (more bindings : List (Text × α)) (name : Text) :
    (insertAll more bindings).find? (fun b => b.1 = name) =
      (more.find? fun b => b.1 = name).or (bindings.find? fun b => b.1 = name) := by
  induction more with
  | nil => rfl
  | cons b more ih =>
    obtain ⟨other, value⟩ := b
    show (insert other value (insertAll more bindings)).find? _ = _
    rw [find?_insert, ih]
    by_cases h : other = name <;> simp [h]

end Insert

theorem get?_bind (scope : Scope) (name content other : Text) :
    (scope.bind name content).get? other =
      if name = other then some content else scope.get? other := by
  unfold get? bind
  rw [find?_insert]
  split <;> rfl

/-- After a merge a name has the content of the last of the fragments with that name, and if there
is none, the content that it had. -/
theorem get?_merge (scope : Scope) (fragments : List Fragment) (name : Text) :
    (scope.merge fragments).get? name =
      (((fragments.filter fun f => f.name = name).getLast?).map Fragment.content).or
        (scope.get? name) := by
  -- the scope changes with every fragment that is merged
  induction fragments generalizing scope with
  | nil => rfl
  | cons f more ih =>
    show ((scope.bind f.name f.content).merge more).get? name = _
    rw [ih, get?_bind]
    by_cases h : f.name = name
    · rw [List.filter_cons_of_pos (by simpa using h), List.getLast?_cons, if_pos h]
      cases (more.filter fun f => f.name = name).getLast? <;> rfl
    · rw [List.filter_cons_of_neg (by simpa using h), if_neg h]

/-! ## Bindings as a map -/

/-- A name that no binding has is looked up in vain. -/
theorem notMem_names_iff (scope : Scope) (name : Text) :
    name ∉ scope.bindings.map Prod.fst ↔ scope.get? name = none := by
  unfold get?
  rw [Option.map_eq_none_iff, List.find?_eq_none]
  simp only [List.mem_map, not_exists, not_and, decide_eq_true_eq]

section Order

variable {α : Type}

/-- One binding stands before another one: its name comes first in the order of texts and is a
different one. -/
def Before (a b : Text × α) : Prop := Text.precedes a.1 b.1 = true ∧ a.1 ≠ b.1

theorem Before.trans {a b c : Text × α} (hab : Before a b) (hbc : Before b c) : Before a c := by
  refine ⟨Text.precedes_trans hab.1 hbc.1, fun hac => hab.2 ?_⟩
  exact Text.precedes_antisymm hab.1 (hac ▸ hbc.1)

/-- Bindings in strict order of their names. -/
def Ordered (bindings : List (Text × α)) : Prop := bindings.Pairwise Before

theorem mem_insert_of_mem {name : Text} {value : α} {b : Text × α} {bindings : List (Text × α)}
    (h : b ∈ insert name value bindings) : b = (name, value) ∨ b ∈ bindings := by
  induction bindings with
  | nil => exact Or.inl (by simpa [insert] using h)
  | cons first more ih =>
    rw [insert] at h
    split at h
    · rcases List.mem_cons.mp h with rfl | h
      · exact Or.inl rfl
      · exact Or.inr (List.mem_cons_of_mem _ h)
    split at h
    · exact List.mem_cons.mp h
    · rcases List.mem_cons.mp h with rfl | h
      · exact Or.inr List.mem_cons_self
      · exact (ih h).imp_right (List.mem_cons_of_mem _)

theorem Ordered.insert {bindings : List (Text × α)} (h : Ordered bindings)
    (name : Text) (value : α) : Ordered (insert name value bindings) := by
  induction bindings with
  | nil => exact List.pairwise_singleton ..
  | cons b more ih =>
    obtain ⟨first, bound⟩ := b
    obtain ⟨hfirst, hmore⟩ := List.pairwise_cons.mp h
    rw [Scope.insert]
    by_cases hname : name = first
    · subst hname
      rw [if_pos rfl]
      exact List.pairwise_cons.mpr ⟨fun c hc => hfirst c hc, hmore⟩
    · rw [if_neg hname]
      split
      · rename_i hprec
        -- the new binding stands before the first one, and so before all of them
        have hbefore : Before (name, value) (first, bound) := ⟨hprec, hname⟩
        refine List.pairwise_cons.mpr ⟨fun c hc => ?_, h⟩
        rcases List.mem_cons.mp hc with rfl | hc
        · exact hbefore
        · exact hbefore.trans (hfirst c hc)
      · rename_i hprec
        have hafter : Before (first, bound) (name, value) :=
          ⟨(Text.precedes_total name first).resolve_left hprec, fun e => hname e.symm⟩
        refine List.pairwise_cons.mpr ⟨fun c hc => ?_, ih hmore⟩
        rcases mem_insert_of_mem hc with rfl | hc
        · exact hafter
        · exact hfirst c hc

theorem Ordered.insertAll {bindings : List (Text × α)} (h : Ordered bindings)
    (more : List (Text × α)) : Ordered (insertAll more bindings) := by
  induction more with
  | nil => exact h
  | cons b more ih => exact ih.insert b.1 b.2

theorem Ordered.nodup_names {bindings : List (Text × α)} (h : Ordered bindings) :
    (bindings.map Prod.fst).Nodup := by
  rw [List.nodup_iff_pairwise_ne, List.pairwise_map]
  exact h.imp And.right

end Order

theorem ordered_merge {scope : Scope} (h : Ordered scope.bindings) (fragments : List Fragment) :
    Ordered (scope.merge fragments).bindings := by
  induction fragments generalizing scope with
  | nil => exact h
  | cons f more ih =>
    have hbind : Ordered (scope.bind f.name f.content).bindings := h.insert f.name f.content
    exact ih hbind

/-- In ordered bindings the first pair with a name is the only one. -/
theorem Ordered.mem_iff {scope : Scope} (h : Ordered scope.bindings) (name content : Text) :
    (name, content) ∈ scope.bindings ↔ scope.get? name = some content := by
  obtain ⟨bindings, version⟩ := scope
  show _ ↔ (bindings.find? _).map _ = _
  induction bindings with
  | nil => simp
  | cons b more ih =>
    obtain ⟨first, bound⟩ := b
    obtain ⟨hfirst, hmore⟩ := List.pairwise_cons.mp h
    by_cases hname : first = name
    · subst hname
      -- no pair behind the first one has its name
      have habsent : (first, content) ∉ more := fun hmem => (hfirst _ hmem).2 rfl
      simp [habsent, eq_comm]
    · have hne : ¬ name = first := fun e => hname e.symm
      rw [List.mem_cons, List.find?_cons_of_neg (by simpa using hname)]
      simpa [hne] using ih hmore

/-- Ordered bindings that answer alike are the same. -/
theorem Ordered.eq_of_get? {scope other : Scope} (h : Ordered scope.bindings)
    (h' : Ordered other.bindings) (hget : ∀ name, scope.get? name = other.get? name) :
    scope.bindings = other.bindings := by
  have hperm : scope.bindings.Perm other.bindings := by
    refine (List.perm_ext_iff_of_nodup h.nodup_names.of_map h'.nodup_names.of_map).mpr ?_
    rintro ⟨name, content⟩
    rw [h.mem_iff, h'.mem_iff, hget]
  refine hperm.eq_of_pairwise (fun a b _ _ hab hba => ?_) h h'
  exact absurd (Text.precedes_antisymm hab.1 hba.1) hab.2

end Tangle.Scope
