import Mathlib.Data.List.Basic
import Tangle.Pattern.Basic

/-!
# What patterns match

The matcher carries a set of positions through a pattern and gives up on a repetition as soon as no
position is new. Here the meaning of a pattern is said without sets and without that bound, as a
relation between the two ends of a match, and the matcher is shown to compute it.

Matches go forward. A copy that a repetition makes without moving can be left out, so that in a text
no repetition needs more copies than there are characters; this is what bounds the matcher.
-/

namespace Tangle.Pattern

/-! ## Matches -/

/-- A number of steps of a relation, one after the other. -/
def Copies (R : Nat → Nat → Prop) : Nat → Nat → Nat → Prop
  | 0, i, j => i = j
  | n + 1, i, j => ∃ k, R i k ∧ Copies R n k j

/-- A pattern matches the part of a text between two positions. -/
def Spans (text : Array Char) : Pattern → Nat → Nat → Prop
  | empty, i, j => i = j
  | char set, i, j => j = i + 1 ∧ ∃ c, text[i]? = some c ∧ set.has c = true
  | assertion condition, i, j => i = j ∧ condition.holds text i = true
  | seq first second, i, j => ∃ k, first.Spans text i k ∧ second.Spans text k j
  | either left right, i, j => left.Spans text i j ∨ right.Spans text i j
  | repeated inner least extra, i, j =>
    ∃ n, least ≤ n ∧ (∀ m ∈ extra, n ≤ least + m) ∧ Copies (inner.Spans text) n i j

/-! ## Copies -/

/-- A relation that goes forward and not beyond a bound. -/
structure Forward (bound : Nat) (R : Nat → Nat → Prop) : Prop where
  le {i j : Nat} : R i j → i ≤ j
  le_bound {i j : Nat} : R i j → i ≤ bound → j ≤ bound

section Copies

variable {R S : Nat → Nat → Prop} {bound : Nat}

theorem copies_map {f : Nat → Nat} (h : ∀ i j, R i j → S (f i) (f j)) {n i j : Nat}
    (hcopies : Copies R n i j) : Copies S n (f i) (f j) := by
  induction n generalizing i with
  | zero => exact congrArg f hcopies
  | succ n ih =>
    obtain ⟨k, hfirst, hrest⟩ := hcopies
    exact ⟨f k, h i k hfirst, ih hrest⟩

/-- Where steps can come to nothing there are fewer of them. -/
theorem exists_copies_map {f : Nat → Nat} (h : ∀ i j, R i j → f i = f j ∨ S (f i) (f j))
    {n i j : Nat} (hcopies : Copies R n i j) : ∃ m ≤ n, Copies S m (f i) (f j) := by
  induction n generalizing i with
  | zero => exact ⟨0, Nat.le_refl 0, congrArg f hcopies⟩
  | succ n ih =>
    obtain ⟨k, hfirst, hrest⟩ := hcopies
    obtain ⟨m, hm, hcopies⟩ := ih hrest
    rcases h i k hfirst with heq | hstep
    · rw [heq]
      exact ⟨m, Nat.le_succ_of_le hm, hcopies⟩
    · exact ⟨m + 1, Nat.succ_le_succ hm, f k, hstep, hcopies⟩

/-- Steps by one lead from each position to every later one. -/
theorem copies_of_forall_step {i : Nat} (n : Nat) (h : ∀ k, i ≤ k → k < i + n → R k (k + 1)) :
    Copies R n i (i + n) := by
  induction n generalizing i with
  | zero => rfl
  | succ n ih =>
    refine ⟨i + 1, h i (Nat.le_refl i) (by omega), ?_⟩
    have hlater : ∀ k, i + 1 ≤ k → k < i + 1 + n → R k (k + 1) := by
      intro k hk hlt
      exact h k (by omega) (by omega)
    rw [show i + (n + 1) = i + 1 + n by omega]
    exact ih hlater

theorem copies_add {m n i j : Nat} :
    Copies R (m + n) i j ↔ ∃ k, Copies R m i k ∧ Copies R n k j := by
  induction m generalizing i with
  | zero => simp [Copies]
  | succ m ih =>
    rw [Nat.add_right_comm]
    simp only [Copies, ih]
    constructor
    · rintro ⟨k, hfirst, l, hleft, hright⟩
      exact ⟨l, ⟨k, hfirst, hleft⟩, hright⟩
    · rintro ⟨l, ⟨k, hfirst, hleft⟩, hright⟩
      exact ⟨k, hfirst, l, hleft, hright⟩

theorem Forward.copies (h : Forward bound R) (n : Nat) : Forward bound (Copies R n) := by
  induction n with
  | zero =>
    constructor
    · rintro i j rfl
      exact Nat.le_refl i
    · rintro i j rfl hi
      exact hi
  | succ n ih =>
    constructor
    · rintro i j ⟨k, hfirst, hrest⟩
      exact Nat.le_trans (h.le hfirst) (ih.le hrest)
    · rintro i j ⟨k, hfirst, hrest⟩ hi
      exact ih.le_bound hrest (h.le_bound hfirst hi)

/-- Copies up to a position depend on the steps up to there. -/
theorem Forward.copies_of_le (h : Forward bound R) {top : Nat}
    (hsteps : ∀ i j, i ≤ top → j ≤ top → R i j → S i j) {n i j : Nat} (hj : j ≤ top)
    (hcopies : Copies R n i j) : Copies S n i j := by
  induction n generalizing i with
  | zero => exact hcopies
  | succ n ih =>
    obtain ⟨k, hfirst, hrest⟩ := hcopies
    have hk : k ≤ top := Nat.le_trans ((h.copies n).le hrest) hj
    exact ⟨k, hsteps i k (Nat.le_trans (h.le hfirst) hk) hk hfirst, ih hrest⟩

/-- Between two positions there are never more copies needed than characters. -/
theorem Forward.exists_copies_le (h : Forward bound R) {n i j : Nat} (hcopies : Copies R n i j) :
    ∃ m ≤ n, m ≤ j - i ∧ Copies R m i j := by
  induction n generalizing i with
  | zero => exact ⟨0, Nat.le_refl 0, Nat.zero_le _, hcopies⟩
  | succ n ih =>
    obtain ⟨k, hfirst, hrest⟩ := hcopies
    obtain ⟨m, hm, hlength, hcopies⟩ := ih hrest
    rcases Nat.eq_or_lt_of_le (h.le hfirst) with rfl | hlt
    · -- the first copy does not move and is left out
      exact ⟨m, Nat.le_succ_of_le hm, hlength, hcopies⟩
    · have hrest := (h.copies m).le hcopies
      exact ⟨m + 1, Nat.succ_le_succ hm, by omega, k, hfirst, hcopies⟩

end Copies

/-- A match goes forward and stays within the text. -/
theorem forward_spans (text : Array Char) (p : Pattern) : Forward text.size (p.Spans text) := by
  induction p with
  | empty =>
    constructor
    · rintro i j rfl
      exact Nat.le_refl i
    · rintro i j rfl hi
      exact hi
  | char set =>
    constructor
    · rintro i j ⟨rfl, -⟩
      exact Nat.le_succ i
    · rintro i j ⟨rfl, c, hc, -⟩ -
      exact (Array.getElem?_eq_some_iff.mp hc).1
  | assertion condition =>
    constructor
    · rintro i j ⟨rfl, -⟩
      exact Nat.le_refl i
    · rintro i j ⟨rfl, -⟩ hi
      exact hi
  | seq first second hfirst hsecond =>
    constructor
    · rintro i j ⟨k, hik, hkj⟩
      exact Nat.le_trans (hfirst.le hik) (hsecond.le hkj)
    · rintro i j ⟨k, hik, hkj⟩ hi
      exact hsecond.le_bound hkj (hfirst.le_bound hik hi)
  | either left right hleft hright =>
    constructor
    · rintro i j (hij | hij)
      · exact hleft.le hij
      · exact hright.le hij
    · rintro i j (hij | hij) hi
      · exact hleft.le_bound hij hi
      · exact hright.le_bound hij hi
  | repeated inner least extra hinner =>
    constructor
    · rintro i j ⟨n, -, -, hcopies⟩
      exact (hinner.copies n).le hcopies
    · rintro i j ⟨n, -, -, hcopies⟩ hi
      exact (hinner.copies n).le_bound hcopies hi

/-! ## Sets of positions -/

theorem mem_mergePositions (s t : List Nat) (j : Nat) : j ∈ mergePositions s t ↔ j ∈ s ∨ j ∈ t := by
  fun_induction mergePositions s t with
  | case1 t => simp
  | case2 s => simp
  | case3 i s k t hlt ih =>
    rw [List.mem_cons, ih, List.mem_cons (a := j) (b := i), or_assoc]
  | case4 i s k t _ hlt ih =>
    rw [List.mem_cons, ih, List.mem_cons (a := j) (b := k)]
    exact or_left_comm
  | case5 i s k t hle hge ih =>
    obtain rfl : i = k := by omega
    rw [List.mem_cons, ih, List.mem_cons, List.mem_cons]
    exact or_or_distrib_left

/-- The first of two merged lists is kept in its order. -/
theorem sublist_mergePositions (s t : List Nat) : s.Sublist (mergePositions s t) := by
  fun_induction mergePositions s t with
  | case1 t => exact List.nil_sublist t
  | case2 s => exact List.Sublist.refl s
  | case3 i s k t _ ih => exact ih.cons_cons i
  | case4 i s k t _ _ ih => exact ih.cons k
  | case5 i s k t _ _ ih => exact ih.cons_cons i

/-- A step on positions within a bound leads to all that a relation leads to. -/
def Computes (bound : Nat) (step : List Nat → List Nat) (R : Nat → Nat → Prop) : Prop :=
  ∀ positions, (∀ i ∈ positions, i ≤ bound) → ∀ j, j ∈ step positions ↔ ∃ i ∈ positions, R i j

section Steps

variable {bound : Nat} {step : List Nat → List Nat} {R : Nat → Nat → Prop} {positions : List Nat}

theorem Computes.le_bound (h : Computes bound step R) (hforward : Forward bound R)
    (hpositions : ∀ i ∈ positions, i ≤ bound) : ∀ j ∈ step positions, j ≤ bound := by
  intro j hj
  obtain ⟨i, hi, hij⟩ := (h positions hpositions j).mp hj
  exact hforward.le_bound hij (hpositions i hi)

theorem Computes.iterate (h : Computes bound step R) (hforward : Forward bound R) (n : Nat) :
    Computes bound (iterate step n) (Copies R n) := by
  induction n with
  | zero =>
    intro positions _ j
    simp [Pattern.iterate, Copies]
  | succ n ih =>
    intro positions hpositions j
    rw [Pattern.iterate]
    split
    · rename_i hempty
      rw [List.isEmpty_iff.mp hempty]
      simp
    · rw [ih _ (h.le_bound hforward hpositions)]
      simp only [h positions hpositions, Copies]
      constructor
      · rintro ⟨k, ⟨i, hi, hik⟩, hkj⟩
        exact ⟨i, hi, k, hik, hkj⟩
      · rintro ⟨i, hi, k, hik, hkj⟩
        exact ⟨k, ⟨i, hi, hik⟩, hkj⟩

/-- Copies do not leave positions that a single step does not leave. -/
theorem mem_of_copies (hclosed : ∀ i ∈ positions, ∀ j, R i j → j ∈ positions) {n i j : Nat}
    (hi : i ∈ positions) (h : Copies R n i j) : j ∈ positions := by
  induction n generalizing i with
  | zero =>
    obtain rfl : i = j := h
    exact hi
  | succ n ih =>
    obtain ⟨k, hik, hkj⟩ := h
    exact ih (hclosed i hi k hik) hkj

theorem Computes.reachable (h : Computes bound step R) (hforward : Forward bound R) (n : Nat) :
    Computes bound (reachable step n) fun i j => ∃ m ≤ n, Copies R m i j := by
  induction n with
  | zero =>
    intro positions _ j
    simp [Pattern.reachable, Copies]
  | succ n ih =>
    intro positions hpositions j
    have hmore (k : Nat) : k ∈ mergePositions positions (step positions) ↔
        k ∈ positions ∨ ∃ i ∈ positions, R i k := by
      rw [mem_mergePositions, h positions hpositions]
    rw [Pattern.reachable]
    split
    · rename_i hlength
      -- no position is new, and so no number of steps leads out of them
      have heq : positions = mergePositions positions (step positions) :=
        (sublist_mergePositions _ _).eq_of_length hlength.symm
      have hclosed : ∀ i ∈ positions, ∀ k, R i k → k ∈ positions := by
        intro i hi k hik
        rw [heq]
        exact (hmore k).mpr (Or.inr ⟨i, hi, hik⟩)
      constructor
      · intro hj
        exact ⟨j, hj, 0, Nat.zero_le _, rfl⟩
      · rintro ⟨i, hi, m, -, hij⟩
        exact mem_of_copies hclosed hi hij
    · have hbound : ∀ k ∈ mergePositions positions (step positions), k ≤ bound := by
        intro k hk
        rcases (mem_mergePositions _ _ k).mp hk with hk | hk
        · exact hpositions k hk
        · exact h.le_bound hforward hpositions k hk
      rw [ih _ hbound]
      constructor
      · rintro ⟨k, hk, m, hm, hkj⟩
        rcases (hmore k).mp hk with hk | ⟨i, hi, hik⟩
        · exact ⟨k, hk, m, Nat.le_succ_of_le hm, hkj⟩
        · exact ⟨i, hi, m + 1, Nat.succ_le_succ hm, k, hik, hkj⟩
      · rintro ⟨i, hi, m, hm, hij⟩
        cases m with
        | zero => exact ⟨i, (hmore i).mpr (Or.inl hi), 0, Nat.zero_le n, hij⟩
        | succ m =>
          obtain ⟨k, hik, hkj⟩ := hij
          exact ⟨k, (hmore k).mpr (Or.inr ⟨i, hi, hik⟩), m, Nat.le_of_succ_le_succ hm, hkj⟩

/-- Copies beyond the least number can be bounded by the length of a text. -/
theorem Forward.exists_copies_between_iff (h : Forward bound R) (least : Nat) (extra : Option Nat)
    {i j : Nat} (hi : i ≤ bound) :
    (∃ n, least ≤ n ∧ (∀ m ∈ extra, n ≤ least + m) ∧ Copies R n i j) ↔
      ∃ k, Copies R least i k ∧
        ∃ m ≤ (extra.getD (bound + 1)).min (bound + 1), Copies R m k j := by
  constructor
  · rintro ⟨n, hleast, hextra, hcopies⟩
    obtain ⟨more, rfl⟩ := Nat.exists_eq_add_of_le hleast
    -- the copies that are needed stay, and those beyond them are shortened
    obtain ⟨k, hfirst, hrest⟩ := copies_add.mp hcopies
    obtain ⟨m, hm, hlength, hrest⟩ := h.exists_copies_le hrest
    have hj : j ≤ bound := (h.copies m).le_bound hrest ((h.copies least).le_bound hfirst hi)
    refine ⟨k, hfirst, m, ?_, hrest⟩
    apply Nat.le_min.mpr
    constructor
    · cases extra with
      | none => exact (by omega : m ≤ bound + 1)
      | some extra =>
        have hmore : least + more ≤ least + extra := hextra extra rfl
        exact (by omega : m ≤ extra)
    · omega
  · rintro ⟨k, hfirst, m, hm, hrest⟩
    refine ⟨least + m, Nat.le_add_right least m, ?_, copies_add.mpr ⟨k, hfirst, hrest⟩⟩
    intro bounded hbounded
    obtain rfl : extra = some bounded := hbounded
    exact Nat.add_le_add_left (Nat.le_trans hm (Nat.min_le_left _ _)) least

end Steps

/-! ## The matcher -/

/-- **The matcher computes the meaning of patterns**: from given positions it leads to the ends of
all matches that start there. -/
theorem computes_ends (text : Array Char) (p : Pattern) :
    Computes text.size (p.ends text) (p.Spans text) := by
  induction p with
  | empty =>
    intro positions _ j
    simp [ends, Spans]
  | char set =>
    intro positions _ j
    rw [ends, List.mem_filterMap]
    -- a character is read at each position on its own
    apply exists_congr
    intro i
    apply and_congr_right
    intro _
    rw [Spans]
    cases text[i]? with
    | none => simp
    | some c =>
      by_cases hc : set.has c = true
      · simp [hc, eq_comm (a := j)]
      · simp [hc]
  | assertion condition =>
    intro positions _ j
    simp only [ends, List.mem_filter, Spans]
    constructor
    · rintro ⟨hj, hholds⟩
      exact ⟨j, hj, rfl, hholds⟩
    · rintro ⟨i, hi, rfl, hholds⟩
      exact ⟨hi, hholds⟩
  | seq first second hfirst hsecond =>
    intro positions hpositions j
    rw [ends, hsecond _ (hfirst.le_bound (forward_spans text first) hpositions)]
    simp only [hfirst positions hpositions, Spans]
    constructor
    · rintro ⟨k, ⟨i, hi, hik⟩, hkj⟩
      exact ⟨i, hi, k, hik, hkj⟩
    · rintro ⟨i, hi, k, hik, hkj⟩
      exact ⟨k, ⟨i, hi, hik⟩, hkj⟩
  | either left right hleft hright =>
    intro positions hpositions j
    rw [ends, mem_mergePositions, hleft positions hpositions, hright positions hpositions]
    simp only [Spans, and_or_left, exists_or]
  | repeated inner least extra hinner =>
    intro positions hpositions j
    have hforward := forward_spans text inner
    have hleast := hinner.iterate hforward least
    rw [ends]
    -- the matcher makes the copies that are needed, and then goes on while there is anything new
    show j ∈ Pattern.reachable _ _ _ ↔ _
    rw [hinner.reachable hforward _ _ (hleast.le_bound (hforward.copies least) hpositions)]
    simp only [hleast positions hpositions]
    constructor
    · rintro ⟨k, ⟨i, hi, hik⟩, hkj⟩
      exact ⟨i, hi, (hforward.exists_copies_between_iff least extra (hpositions i hi)).mpr
        ⟨k, hik, hkj⟩⟩
    · rintro ⟨i, hi, hij⟩
      obtain ⟨k, hik, hkj⟩ :=
        (hforward.exists_copies_between_iff least extra (hpositions i hi)).mp hij
      exact ⟨k, ⟨i, hi, hik⟩, hkj⟩

/-- A pattern occurs in a text exactly if it matches a part of it. -/
theorem occursIn_iff {p : Pattern} {text : Text} :
    p.occursIn text = true ↔ ∃ i j, i ≤ text.length ∧ p.Spans text.toArray i j := by
  have hpositions : ∀ i ∈ List.range (text.toArray.size + 1), i ≤ text.toArray.size := by
    intro i hi
    exact Nat.le_of_lt_succ (List.mem_range.mp hi)
  rw [occursIn, Bool.not_eq_true', List.isEmpty_eq_false_iff_exists_mem]
  have hends (j : Nat) : j ∈ p.ends text.toArray (List.range (text.toArray.size + 1)) ↔
      ∃ i, i ≤ text.length ∧ p.Spans text.toArray i j := by
    rw [computes_ends text.toArray p _ hpositions]
    simp only [List.mem_range, Nat.lt_succ_iff, List.size_toArray]
  simp only [hends]
  constructor
  · rintro ⟨j, i, hi, hij⟩
    exact ⟨i, j, hi, hij⟩
  · rintro ⟨i, j, hi, hij⟩
    exact ⟨j, i, hi, hij⟩

end Tangle.Pattern
