import Tangle.Text

/-!
# Order of texts

`Text.precedes` is the order in which names are listed and bindings are kept. It is a total order:
reflexive, transitive, antisymmetric, and of two texts one precedes the other. The code points of
the first characters that differ decide.
-/

namespace Tangle.Text

@[simp] theorem precedes_nil (t : Text) : precedes [] t = true := by
  cases t <;> rfl

@[simp] theorem precedes_cons_nil (a : Char) (s : Text) : precedes (a :: s) [] = false := rfl

/-- Texts with the same first character are ordered by what follows it, all others by that
character. -/
theorem precedes_cons_cons (a b : Char) (s t : Text) :
    precedes (a :: s) (b :: t) = if a = b then precedes s t else decide (a < b) := rfl

theorem precedes_total (s t : Text) : precedes s t = true ∨ precedes t s = true := by
  induction s generalizing t with
  | nil => exact Or.inl (precedes_nil t)
  | cons a s ih =>
    cases t with
    | nil => exact Or.inr (precedes_nil _)
    | cons b t =>
      rw [precedes_cons_cons, precedes_cons_cons]
      by_cases h : a = b
      · subst h
        simpa using ih t
      · have hba : ¬ b = a := fun e => h e.symm
        rw [if_neg h, if_neg hba]
        rcases Nat.lt_trichotomy a.toNat b.toNat with hlt | heq | hgt
        · exact Or.inl (decide_eq_true hlt)
        · exact absurd (Char.toNat_inj.mp heq) h
        · exact Or.inr (decide_eq_true hgt)

theorem precedes_antisymm {s t : Text} (hst : precedes s t = true) (hts : precedes t s = true) :
    s = t := by
  induction s generalizing t with
  | nil =>
    cases t with
    | nil => rfl
    | cons b t => simp at hts
  | cons a s ih =>
    cases t with
    | nil => simp at hst
    | cons b t =>
      rw [precedes_cons_cons] at hst hts
      by_cases h : a = b
      · subst h
        rw [if_pos rfl] at hst hts
        rw [ih hst hts]
      · have hba : ¬ b = a := fun e => h e.symm
        rw [if_neg h] at hst
        rw [if_neg hba] at hts
        have hlt : a.toNat < b.toNat := of_decide_eq_true hst
        have hgt : b.toNat < a.toNat := of_decide_eq_true hts
        omega

theorem precedes_trans {s t u : Text} (hst : precedes s t = true) (htu : precedes t u = true) :
    precedes s u = true := by
  induction s generalizing t u with
  | nil => exact precedes_nil u
  | cons a s ih =>
    cases t with
    | nil => simp at hst
    | cons b t =>
      cases u with
      | nil => simp at htu
      | cons c u =>
        rw [precedes_cons_cons] at hst htu ⊢
        by_cases hab : a = b
        · subst hab
          rw [if_pos rfl] at hst
          by_cases hac : a = c
          · rw [if_pos hac] at htu ⊢
            exact ih hst htu
          · rw [if_neg hac] at htu ⊢
            exact htu
        · -- the first two texts differ here, and no later character counts for them
          rw [if_neg hab] at hst
          have hlt : a.toNat < b.toNat := of_decide_eq_true hst
          by_cases hbc : b = c
          · subst hbc
            rw [if_neg hab]
            exact hst
          · rw [if_neg hbc] at htu
            have hlt' : b.toNat < c.toNat := of_decide_eq_true htu
            have hac : a ≠ c := by
              rintro rfl
              omega
            rw [if_neg hac]
            exact decide_eq_true (show a.toNat < c.toNat by omega)

/-- It is the order of texts by the code points of their characters. -/
theorem precedes_iff {s t : Text} : precedes s t = true ↔ s = t ∨ s < t := by
  induction s generalizing t with
  | nil =>
    cases t with
    | nil => simp
    | cons b t => simp
  | cons a s ih =>
    cases t with
    | nil => simp
    | cons b t =>
      rw [precedes_cons_cons, List.cons_lt_cons_iff, List.cons.injEq]
      by_cases h : a = b
      · simp [h, ih]
      · simp [h]

/-- Texts that differ from each other are sorted in ascending order. -/
theorem ascending_mergeSort {texts : List Text} (h : texts.Nodup) :
    (texts.mergeSort precedes).Pairwise (· < ·) := by
  have hsorted : (texts.mergeSort precedes).Pairwise fun s t => precedes s t = true := by
    apply List.pairwise_mergeSort
    · intro s t u
      exact precedes_trans
    · intro s t
      rw [Bool.or_eq_true]
      exact precedes_total s t
  have hnodup : (texts.mergeSort precedes).Nodup :=
    (List.mergeSort_perm texts precedes).nodup_iff.mpr h
  refine hsorted.imp₂ ?_ hnodup
  intro s t hst hne
  exact (precedes_iff.mp hst).resolve_left hne

end Tangle.Text
