import Mathlib.Data.List.Nodup
import Tangle.Declaration

/-!
# The fields of a declaration

A field of a declaration holds the last value of its key that is not empty. Where no key occurs
twice, this is the one value of the key, and the order of the attributes does not matter.
-/

namespace Tangle.Declaration

/-! ## Last values -/

/-- A value that is not empty and after which its key has only empty ones. -/
def IsLastValue (attributes : List Attribute) (key value : Text) : Prop :=
  value ≠ [] ∧ ∃ before after, attributes = before ++ ⟨key, value⟩ :: after ∧
    ∀ a ∈ after, a.key = key → a.value = []

theorem valueOf_nil (key : Text) : valueOf key [] = none := rfl

/-- An attribute counts when no later one does. -/
theorem valueOf_cons (key : Text) (a : Attribute) (rest : List Attribute) :
    valueOf key (a :: rest) =
      (valueOf key rest).or (if a.key = key ∧ a.value ≠ [] then some a.value else none) := by
  unfold valueOf
  by_cases h : a.key = key ∧ a.value ≠ []
  · rw [List.filter_cons_of_pos (by simp [h]), List.getLast?_cons, if_pos h]
    cases (rest.filter fun a => a.key = key && !a.value.isEmpty).getLast? <;> rfl
  · rw [List.filter_cons_of_neg (by simpa using h), if_neg h, Option.or_none]

theorem valueOf_eq_none_iff (key : Text) (attributes : List Attribute) :
    valueOf key attributes = none ↔ ∀ a ∈ attributes, a.key = key → a.value = [] := by
  induction attributes with
  | nil => simp [valueOf_nil]
  | cons a rest ih =>
    have hhead : (if a.key = key ∧ a.value ≠ [] then some a.value else none) = none ↔
        (a.key = key → a.value = []) := by
      by_cases hkey : a.key = key <;> by_cases hvalue : a.value = [] <;> simp [hkey, hvalue]
    rw [valueOf_cons, Option.or_eq_none_iff, ih, List.forall_mem_cons, hhead, and_comm]

theorem valueOf_eq_some_iff (key : Text) (attributes : List Attribute) (value : Text) :
    valueOf key attributes = some value ↔ IsLastValue attributes key value := by
  constructor
  · intro h
    induction attributes with
    | nil => cases h
    | cons a rest ih =>
      rw [valueOf_cons, Option.or_eq_some_iff] at h
      rcases h with h | ⟨hnone, h⟩
      · obtain ⟨hvalue, before, after, rfl, hlast⟩ := ih h
        exact ⟨hvalue, a :: before, after, rfl, hlast⟩
      · split at h
        · rename_i hcounts
          cases h
          exact ⟨hcounts.2, [], rest, by rw [← hcounts.1]; rfl,
            (valueOf_eq_none_iff key rest).mp hnone⟩
        · cases h
  · rintro ⟨hvalue, before, after, rfl, hlast⟩
    induction before with
    | nil =>
      rw [List.nil_append, valueOf_cons, (valueOf_eq_none_iff key after).mpr hlast,
        if_pos ⟨rfl, hvalue⟩]
      rfl
    | cons a before ih => rw [List.cons_append, valueOf_cons, ih, Option.some_or]

/-- Where no key occurs twice, the values that count are those of the attributes that occur. -/
theorem isLastValue_iff_mem {attributes : List Attribute}
    (distinct : (attributes.map Attribute.key).Nodup) (key value : Text) :
    IsLastValue attributes key value ↔ value ≠ [] ∧ (⟨key, value⟩ : Attribute) ∈ attributes := by
  constructor
  · rintro ⟨hvalue, before, after, rfl, -⟩
    exact ⟨hvalue, List.mem_append_right _ List.mem_cons_self⟩
  · rintro ⟨hvalue, hmem⟩
    obtain ⟨before, after, rfl⟩ := List.append_of_mem hmem
    refine ⟨hvalue, before, after, rfl, fun a ha hkey => ?_⟩
    rw [List.map_append, List.map_cons, List.nodup_append] at distinct
    -- a later attribute with the key would be a second one
    have habsent := (List.nodup_cons.mp distinct.2.1).1
    have hmem := List.mem_map_of_mem (f := Attribute.key) ha
    rw [hkey] at hmem
    exact absurd hmem habsent

theorem valueOf_perm {first second : List Attribute} (h : first.Perm second)
    (distinct : (first.map Attribute.key).Nodup) (key : Text) :
    valueOf key first = valueOf key second := by
  have distinct' : (second.map Attribute.key).Nodup := (h.map Attribute.key).nodup_iff.mp distinct
  refine Option.ext fun value => ?_
  rw [valueOf_eq_some_iff, valueOf_eq_some_iff, isLastValue_iff_mem distinct,
    isLastValue_iff_mem distinct', h.mem_iff]

/-! ## Declarations -/

/-- The declaration that attributes give, if they give one. -/
def ofAttributes? (attributes : List Attribute) : Option Declaration :=
  (valueOf ['l', 'a', 'n', 'g'] attributes).map fun lang => {
    lang
    name := valueOf ['n', 'a', 'm', 'e'] attributes
    template := valueOf ['t', 'e', 'm', 'p', 'l', 'a', 't', 'e'] attributes
    version := valueOf ['v', 'e', 'r'] attributes }

theorem parse_eq (line : Text) : parse line = (attributes? line).bind ofAttributes? := by
  unfold parse ofAttributes?
  cases attributes? line with
  | none => rfl
  | some attributes =>
    show (valueOf ['l', 'a', 'n', 'g'] attributes).bind _ = (valueOf _ attributes).map _
    rw [Option.map_eq_bind]
    rfl

end Tangle.Declaration
