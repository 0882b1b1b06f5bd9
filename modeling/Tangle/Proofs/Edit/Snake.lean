import Mathlib.Data.List.Basic
import Tangle.Edit.Script

/-!
# Cutting within the grid

A search runs beyond the grid on its outer diagonals, since nothing stops it there. The point where
the lists are cut lies within the grid all the same, and is neither its origin nor the opposite
corner, so both halves are shorter than the whole. For a path leaves the grid only on a diagonal
next to one on which the round before it had come to the border; and where the two searches are
compared they have not met in the round before, so that neither had come to the border there.
-/

namespace Tangle.Edit

variable {α : Type} [DecidableEq α]

/-! ## One round -/

/-- A run along a diagonal stays in the grid and ends with equal entries. -/
theorem diagonalRun_cases (old new : Array α) (x y : Nat) :
    diagonalRun old new x y = 0 ∨
      ∃ run, diagonalRun old new x y = run + 1 ∧ x + run < old.size ∧ y + run < new.size ∧
        old[x + run]? = new[y + run]? := by
  fun_induction diagonalRun old new x y with
  | case1 x y hin heq ih =>
    right
    rcases ih with hzero | ⟨run, hrun, hx, hy, hlast⟩
    · exact ⟨0, by rw [hzero], hin.1, hin.2, by simp [hin, heq]⟩
    · refine ⟨run + 1, by rw [hrun], by omega, by omega, ?_⟩
      rw [show x + (run + 1) = x + 1 + run by omega, show y + (run + 1) = y + 1 + run by omega]
      exact hlast
  | case2 => exact Or.inl rfl
  | case3 => exact Or.inl rfl

theorem diagonalRun_zero {old new : Array α} (h : old[0]? ≠ new[0]?) :
    diagonalRun old new 0 0 = 0 := by
  rw [diagonalRun]
  split
  · rename_i hin
    rw [if_neg]
    intro heq
    exact h (by simp [hin, heq])
  · rfl

/-- Where a path of the next round starts: one step from the end of a path of the round before, and
beyond both of the ends that it could come from. -/
structure StartsAt (before : List Nat) (i s : Nat) : Prop where
  origin : (before = [] ∧ i = 0 ∧ s = 0) ∨ (∃ x, before[i]? = some x ∧ s = x + 1) ∨
    ∃ j, i = j + 1 ∧ before[j]? = some s
  right : ∀ x, before[i]? = some x → x < s
  down : ∀ j x, i = j + 1 → before[j]? = some x → x ≤ s

theorem length_innerStarts (before : List Nat) : (innerStarts before).length = before.length := by
  fun_induction innerStarts before with
  | case1 above below rest ih =>
    rw [List.length_cons, ih]
    rfl
  | case2 => rfl

theorem getElem?_innerStarts {before : List Nat} {i s : Nat}
    (h : (innerStarts before)[i]? = some s) :
    ((∃ x, before[i + 1]? = some x ∧ s = x + 1) ∨ before[i]? = some s) ∧
      (∀ x, before[i + 1]? = some x → x < s) ∧ ∀ x, before[i]? = some x → x ≤ s := by
  fun_induction innerStarts before generalizing i with
  | case1 above below rest ih =>
    cases i with
    | zero =>
      rw [List.getElem?_cons_zero, Option.some.injEq] at h
      simp only [List.getElem?_cons_succ, List.getElem?_cons_zero, Option.some.injEq]
      split at h
      · exact ⟨Or.inr h, by omega, by omega⟩
      · exact ⟨Or.inl ⟨below, rfl, h.symm⟩, by omega, by omega⟩
    | succ i =>
      rw [List.getElem?_cons_succ] at h
      exact ih h
  | case2 before hshort =>
    -- a single path goes on downwards, and there is none to its right
    have hnone : before[i + 1]? = none := by
      match before, hshort with
      | [], _ => rfl
      | [_], _ => rfl
      | above :: below :: rest, hshort => exact (hshort above below rest rfl).elim
    rw [hnone]
    refine ⟨Or.inr h, by simp, fun x hx => ?_⟩
    rw [h] at hx
    exact Nat.le_of_eq (Option.some.inj hx).symm

theorem length_starts (before : List Nat) : (starts before).length = before.length + 1 := by
  cases before with
  | nil => rfl
  | cons first rest => rw [starts, List.length_cons, length_innerStarts]

theorem startsAt_of_getElem? {before : List Nat} {i s : Nat} (h : (starts before)[i]? = some s) :
    StartsAt before i s := by
  cases before with
  | nil =>
    cases i with
    | zero =>
      cases h
      exact ⟨Or.inl ⟨rfl, rfl, rfl⟩, by simp, by simp⟩
    | succ i => cases h
  | cons first rest =>
    cases i with
    | zero =>
      cases h
      refine ⟨Or.inr (Or.inl ⟨first, rfl, rfl⟩), fun x hx => ?_, by simp⟩
      rw [List.getElem?_cons_zero, Option.some.injEq] at hx
      omega
    | succ i =>
      rw [starts, List.getElem?_cons_succ] at h
      obtain ⟨horigin, hright, hdown⟩ := getElem?_innerStarts h
      refine ⟨Or.inr (horigin.imp_right fun hx => ⟨i, rfl, hx⟩), hright, fun j x hj => ?_⟩
      obtain rfl := Nat.succ.inj hj
      exact hdown x

/-- A path of round `d`: it starts where those of the round before allow, and stays in the grid
while it runs along its diagonal. -/
theorem getElem?_advance {old new : Array α} {d i : Nat} {before : List Nat} {reach : Reach}
    (h : (advance old new d before)[i]? = some reach) :
    reach.diagonal = (d : Int) - 2 * i ∧ StartsAt before i reach.start ∧
      (reach.furthest = reach.start ∨
        reach.start < reach.furthest ∧ reach.furthest ≤ old.size ∧
        reach.furthest - reach.diagonal ≤ new.size ∧
        old[reach.furthest - 1]? = new[(reach.furthest - reach.diagonal).toNat - 1]?) := by
  rw [advance, List.getElem?_mapIdx] at h
  obtain ⟨s, hs, rfl⟩ := Option.map_eq_some_iff.mp h
  refine ⟨rfl, startsAt_of_getElem? hs, ?_⟩
  dsimp only
  split
  · rcases diagonalRun_cases old new s ((s : Int) - (d - 2 * i)).toNat with
      hzero | ⟨run, hrun, hx, hy, hlast⟩
    · exact Or.inl (by rw [hzero]; rfl)
    · right
      rw [hrun]
      refine ⟨by omega, by omega, by omega, ?_⟩
      rw [show s + (run + 1) - 1 = s + run by omega, hlast]
      congr 1
      omega
  · exact Or.inl rfl

theorem length_advance (old new : Array α) (d : Nat) (before : List Nat) :
    (advance old new d before).length = before.length + 1 := by
  rw [advance, List.length_mapIdx, length_starts]

/-- In the first round nothing is shared if the two lists begin differently. -/
theorem advance_zero {old new : Array α} (h : old[0]? ≠ new[0]?) :
    advance old new 0 [] = [⟨0, 0, 0⟩] := by
  simp [advance, starts, diagonalRun_zero h]

/-! ## The paths of a round -/

/-- How far the paths of the `d` rounds so far came in a grid of `n` by `m`: the path at index `i`
is on the diagonal `d - 1 - 2 * i`. Paths come no further than one step beyond the grid for each
round, and one that comes beyond it has a neighbour at the border. -/
structure Frontier (n m d : Nat) (paths : List Nat) : Prop where
  length_eq : paths.length = d
  onGrid : ∀ (i x : Nat), paths[i]? = some x → (d : Int) - 1 - 2 * i ≤ x
  beyondRight : ∀ (i x : Nat), paths[i]? = some x → (x : Int) ≤ n + (d - 1)
  beyondDown : ∀ (i x : Nat), paths[i]? = some x → (x : Int) - (d - 1 - 2 * i) ≤ m + (d - 1)
  right : ∀ (i x : Nat), paths[i]? = some x → n < x →
    ∃ below, paths[i + 1]? = some below ∧ n ≤ below
  down : ∀ (i x : Nat), paths[i]? = some x → (m : Int) < x - (d - 1 - 2 * i) →
    ∃ (j above : Nat), i = j + 1 ∧ paths[j]? = some above ∧ (m : Int) ≤ above - (d - 1 - 2 * j)

theorem Frontier.nil (n m : Nat) : Frontier n m 0 [] where
  length_eq := rfl
  onGrid := by simp
  beyondRight := by simp
  beyondDown := by simp
  right := by simp
  down := by simp

section Round

variable {n m d : Nat} {paths : List Nat} {i s : Nat}

theorem Frontier.lt_of_getElem? (h : Frontier n m d paths) {x : Nat} (hx : paths[i]? = some x) :
    i < d :=
  h.length_eq ▸ (List.getElem?_eq_some_iff.mp hx).1

/-- A path starts to the right of the grid only if the path to its left had come to the border. -/
theorem Frontier.exists_of_start_right (h : Frontier n m d paths) (hs : StartsAt paths i s)
    (hbeyond : n < s) : ∃ x, paths[i]? = some x ∧ n ≤ x := by
  rcases hs.origin with ⟨-, -, rfl⟩ | ⟨x, hx, rfl⟩ | ⟨j, rfl, hx⟩
  · omega
  · exact ⟨x, hx, by omega⟩
  · exact h.right j s hx hbeyond

/-- A path starts below the grid only if the path above it had come to the border. -/
theorem Frontier.exists_of_start_down (h : Frontier n m d paths) (hs : StartsAt paths i s)
    (hbeyond : (m : Int) < s - (d - 2 * i)) :
    ∃ (j x : Nat), i = j + 1 ∧ paths[j]? = some x ∧ (m : Int) ≤ x - (d - 1 - 2 * j) := by
  rcases hs.origin with ⟨hnil, rfl, rfl⟩ | ⟨x, hx, rfl⟩ | ⟨j, rfl, hx⟩
  · omega
  · exact h.down i x hx (by push_cast at hbeyond; omega)
  · exact ⟨j, s, rfl, hx, by push_cast at hbeyond; omega⟩

theorem Frontier.start_bounds (h : Frontier n m d paths) (hs : StartsAt paths i s) :
    (d : Int) - 2 * i ≤ s ∧ (s : Int) ≤ n + d ∧ (s : Int) - (d - 2 * i) ≤ m + d := by
  rcases hs.origin with ⟨hnil, rfl, rfl⟩ | ⟨x, hx, rfl⟩ | ⟨j, rfl, hx⟩
  · have := h.length_eq
    rw [hnil, List.length_nil] at this
    omega
  · have := h.onGrid i x hx
    have := h.beyondRight i x hx
    have := h.beyondDown i x hx
    omega
  · have := h.onGrid j s hx
    have := h.beyondRight j s hx
    have := h.beyondDown j s hx
    omega

/-- In the first round a search stands still, since the lists have no common beginning. -/
theorem Frontier.advance_eq_of_first {old new : Array α} (h : Frontier n m d paths)
    (hfront : old[0]? ≠ new[0]?) (hd : d = 0) : advance old new d paths = [⟨0, 0, 0⟩] := by
  subst hd
  rw [List.length_eq_zero_iff.mp h.length_eq]
  exact advance_zero hfront

theorem Frontier.lt_of_first {old new : Array α} (h : Frontier n m d paths)
    (hfront : old[0]? ≠ new[0]?) (hn : 0 < n) (hm : 0 < m) (hd : d = 0) {reach : Reach}
    (hreach : reach ∈ advance old new d paths) :
    reach.furthest < n ∧ reach.furthest - reach.diagonal < m := by
  rw [h.advance_eq_of_first hfront hd] at hreach
  obtain rfl := List.mem_singleton.mp hreach
  exact ⟨hn, by dsimp only; omega⟩

/-- One round leads from one frontier to the next. -/
theorem Frontier.next {old new : Array α} (hold : old.size = n) (hnew : new.size = m)
    (h : Frontier n m d paths) :
    Frontier n m (d + 1) ((advance old new d paths).map Reach.furthest) := by
  subst hold hnew
  have hreach {i x : Nat} (hx : ((advance old new d paths).map Reach.furthest)[i]? = some x) :
      ∃ reach, (advance old new d paths)[i]? = some reach ∧ reach.furthest = x := by
    rw [List.getElem?_map] at hx
    exact Option.map_eq_some_iff.mp hx
  have hnext {i x : Nat} (hx : paths[i]? = some x) {j : Nat} (hj : j ≤ i + 1) :
      ∃ reach, (advance old new d paths)[j]? = some reach ∧
        ((advance old new d paths).map Reach.furthest)[j]? = some reach.furthest := by
    have hi := (List.getElem?_eq_some_iff.mp hx).1
    have hlt : j < (advance old new d paths).length := by
      rw [length_advance]
      omega
    refine ⟨_, List.getElem?_eq_getElem hlt, ?_⟩
    rw [List.getElem?_map, List.getElem?_eq_getElem hlt]
    rfl
  have hbounds {i x : Nat} (hx : ((advance old new d paths).map Reach.furthest)[i]? = some x) :
      (d : Int) - 2 * i ≤ x ∧ (x : Int) ≤ old.size + d ∧
        (x : Int) - (d - 2 * i) ≤ new.size + d := by
    obtain ⟨reach, hreach, rfl⟩ := hreach hx
    obtain ⟨hdiagonal, hstarts, hruns⟩ := getElem?_advance hreach
    have := h.start_bounds hstarts
    omega
  refine {
    length_eq := ?_
    onGrid := fun i x hx => ?_
    beyondRight := fun i x hx => ?_
    beyondDown := fun i x hx => ?_
    right := ?_
    down := ?_ }
  · rw [List.length_map, length_advance, h.length_eq]
  · have := hbounds hx
    omega
  · have := hbounds hx
    omega
  · have := hbounds hx
    omega
  · intro i x hx hbeyond
    obtain ⟨reach, hreach, rfl⟩ := hreach hx
    obtain ⟨hdiagonal, hstarts, hruns⟩ := getElem?_advance hreach
    -- beyond the grid there is no run, so the path has started there
    obtain ⟨x, hx, hborder⟩ := h.exists_of_start_right hstarts (by omega)
    obtain ⟨below, hbelow, hfurthest⟩ := hnext hx (Nat.le_refl _)
    obtain ⟨-, hstarts', hruns'⟩ := getElem?_advance hbelow
    have := hstarts'.down i x rfl hx
    exact ⟨below.furthest, hfurthest, by omega⟩
  · intro i x hx hbeyond
    obtain ⟨reach, hreach, rfl⟩ := hreach hx
    obtain ⟨hdiagonal, hstarts, hruns⟩ := getElem?_advance hreach
    obtain ⟨j, x, rfl, hx, hborder⟩ := h.exists_of_start_down hstarts (by omega)
    obtain ⟨above, habove, hfurthest⟩ := hnext hx (Nat.le_succ _)
    obtain ⟨-, hstarts', hruns'⟩ := getElem?_advance habove
    have := hstarts'.right x hx
    exact ⟨j, above.furthest, rfl, hfurthest, by omega⟩

/-! ## Staying within -/

/-- The paths on the diagonals that the opposite search had reached, at most `r` of them away from
the last one, have not come to the border. The one path of the first round never has. -/
def Inside (n m d : Nat) (r : Int) (paths : List Nat) : Prop :=
  ∀ (i x : Nat), paths[i]? = some x →
    (-r ≤ (n : Int) - m - (d - 1 - 2 * i) ∧ (n : Int) - m - (d - 1 - 2 * i) ≤ r ∨ d = 1) →
      x < n ∧ (x : Int) - (d - 1 - 2 * i) < m

/-- A path on a diagonal that is compared starts within the grid, and not at its far corner. -/
theorem Frontier.start_within (h : Frontier n m d paths) {r : Int} (hinside : Inside n m d r paths)
    (hs : StartsAt paths i s) (hn : 0 < n) (hr : (d : Int) - 2 ≤ r)
    (hparity : ((n : Int) - m - d - r - 1) % 2 = 0)
    (hcompared : -(r + 1) ≤ (n : Int) - m - (d - 2 * i) ∧ (n : Int) - m - (d - 2 * i) ≤ r + 1) :
    s ≤ n ∧ (s : Int) - (d - 2 * i) ≤ m ∧ ¬ (s = n ∧ (s : Int) - (d - 2 * i) = m) := by
  -- it would come from a path at the border, and the compared ones among these are inside
  refine ⟨?_, ?_, ?_⟩
  · by_contra hbeyond
    obtain ⟨x, hx, hborder⟩ := h.exists_of_start_right hs (by omega)
    have hin := hinside i x hx
    have := h.beyondDown i x hx
    omega
  · by_contra hbeyond
    obtain ⟨j, x, rfl, hx, hborder⟩ := h.exists_of_start_down hs (by omega)
    have hin := hinside j x hx
    have := h.beyondRight j x hx
    push_cast at *
    omega
  · rintro ⟨hright, hdown⟩
    rcases hs.origin with ⟨-, -, rfl⟩ | ⟨x, hx, rfl⟩ | ⟨j, rfl, hx⟩
    · omega
    · have hi := h.lt_of_getElem? hx
      have hin := hinside i x hx
      omega
    · have hj := h.lt_of_getElem? hx
      have hin := hinside j s hx
      push_cast at *
      omega

/-- No path but the one of the first round starts at the origin. -/
theorem Frontier.start_pos (h : Frontier n m d paths) (hs : StartsAt paths i s) (hd : 0 < d)
    (hdiagonal : (d : Int) - 2 * i = 0) : 0 < s := by
  have hi : i < paths.length := by
    rw [h.length_eq]
    omega
  have := hs.right _ (List.getElem?_eq_getElem hi)
  omega

/-- Paths that do not meet the opposite search have not come to the border. -/
theorem inside_of_not_meets {old new : Array α} {opposite : List Nat} {bound : Nat}
    (hopposite : Frontier n m bound opposite)
    (hparity : ((n : Int) - m - d - (bound - 1)) % 2 = 0)
    (hfirst : d = 0 → ∀ reach ∈ advance old new d paths,
      reach.furthest < n ∧ reach.furthest - reach.diagonal < m)
    (hnone : ∀ reach ∈ advance old new d paths,
      ¬ meets n ((n : Int) - m) opposite ((bound : Int) - 1) reach = true) :
    Inside n m (d + 1) ((bound : Int) - 1) ((advance old new d paths).map Reach.furthest) := by
  intro i x hx hcompared
  rw [List.getElem?_map] at hx
  obtain ⟨reach, hreach, rfl⟩ := Option.map_eq_some_iff.mp hx
  obtain ⟨hdiagonal, -, -⟩ := getElem?_advance hreach
  have hmem := List.mem_of_getElem? hreach
  rcases hcompared with hcompared | hd
  · -- the opposite search has a path on the same diagonal
    have hnot := hnone reach hmem
    have hlt : (((bound : Int) - 1 - ((n : Int) - m - reach.diagonal)) / 2).toNat <
        opposite.length := by
      rw [hopposite.length_eq]
      omega
    have hsome := List.getElem?_eq_getElem hlt
    have hgrid := hopposite.onGrid _ _ hsome
    rw [meets, hsome] at hnot
    simp only [Bool.and_eq_true, decide_eq_true_eq] at hnot
    omega
  · have := hfirst (by omega) reach hmem
    omega

/-! ## Where the searches meet -/

omit [DecidableEq α] in
theorem of_meets {size : Nat} {delta bound : Int} {opposite : List Nat} {reach : Reach}
    (h : meets size delta opposite bound reach = true) :
    -bound ≤ delta - reach.diagonal ∧ delta - reach.diagonal ≤ bound ∧
      ∃ x ∈ opposite, size ≤ reach.furthest + x := by
  unfold meets at h
  dsimp only at h
  cases hx : opposite[((bound - (delta - reach.diagonal)) / 2).toNat]? with
  | none =>
    rw [hx] at h
    cases h
  | some x =>
    rw [hx] at h
    simp only [Bool.and_eq_true, decide_eq_true_eq] at h
    exact ⟨h.1.1, h.1.2, x, List.mem_of_getElem? hx, h.2⟩

/-- The forward search cuts where the path starts that meets the backward search. -/
theorem forward_within {old new : Array α} {opposite : List Nat} {reach : Reach}
    (h : Frontier n m d paths) (hn : 0 < n) (hodd : ((n : Int) - m) % 2 ≠ 0)
    (hinside : Inside n m d ((d : Int) - 2) paths) (hmem : reach ∈ advance old new d paths)
    (hmeets : meets n ((n : Int) - m) opposite ((d : Int) - 1) reach = true) :
    reach.start ≤ n ∧ reach.diagonal ≤ reach.start ∧ (reach.start : Int) - reach.diagonal ≤ m ∧
      0 < (reach.start : Int) + (reach.start - reach.diagonal) ∧
      (reach.start : Int) + (reach.start - reach.diagonal) < n + m := by
  obtain ⟨i, hreach⟩ := List.getElem?_of_mem hmem
  obtain ⟨hdiagonal, hstarts, -⟩ := getElem?_advance hreach
  obtain ⟨hleast, hmost, -⟩ := of_meets hmeets
  have hwithin := h.start_within hinside hstarts hn (Int.le_refl _) (by omega) (by omega)
  have hbounds := h.start_bounds hstarts
  have horigin := h.start_pos hstarts
  omega

/-- The backward search cuts where the path ends that meets the forward search. -/
theorem backward_within {old new : Array α} {opposite : List Nat} {reach : Reach}
    (hold : old.size = n) (hnew : new.size = m)
    (h : Frontier n m d paths) (hn : 0 < n) (heven : ((n : Int) - m) % 2 = 0)
    (hinside : Inside n m d ((d : Int) - 1) paths) (hfar : old[n - 1]? ≠ new[m - 1]?)
    (hfirst : d = 0 → reach.furthest = 0 ∧ ∀ x ∈ opposite, x = 0)
    (hmem : reach ∈ advance old new d paths)
    (hmeets : meets n ((n : Int) - m) opposite d reach = true) :
    reach.furthest ≤ n ∧ reach.diagonal ≤ reach.furthest ∧
      (reach.furthest : Int) - reach.diagonal ≤ m ∧
      0 < (reach.furthest : Int) + (reach.furthest - reach.diagonal) ∧
      (reach.furthest : Int) + (reach.furthest - reach.diagonal) < n + m := by
  subst hold hnew
  obtain ⟨i, hreach⟩ := List.getElem?_of_mem hmem
  obtain ⟨hdiagonal, hstarts, hruns⟩ := getElem?_advance hreach
  obtain ⟨hleast, hmost, x, hx, hsize⟩ := of_meets hmeets
  have hwithin := h.start_within hinside hstarts hn (by omega) (by omega) (by omega)
  have hbounds := h.start_bounds hstarts
  -- a run to the far corner would end with the last entries of both lists
  have hcorner : ¬ (reach.furthest = old.size ∧
      (reach.furthest : Int) - reach.diagonal = new.size) := by
    rintro ⟨hright, hdown⟩
    rcases hruns with hstart | ⟨-, -, -, hlast⟩
    · rw [hstart] at hright hdown
      exact hwithin.2.2 ⟨hright, hdiagonal ▸ hdown⟩
    · rw [hright, ← hright, hdown, hright] at hlast
      exact hfar hlast
  have hd : 0 < d := by
    by_contra hd
    have hzero := hfirst (by omega)
    have hx := hzero.2 x hx
    omega
  have horigin := h.start_pos hstarts hd
  omega

section Search

variable {old new oldBack newBack : Array α} {forward backward : List Nat} {rounds : Nat}

/-- When the lengths differ by an odd number, only the forward search is compared. -/
theorem searchFrom_odd (hold : old.size = n) (hnew : new.size = m)
    (hodd : ((n : Int) - m) % 2 ≠ 0) :
    searchFrom old new oldBack newBack d forward backward (rounds + 1) =
      match (advance old new d forward).find?
          (meets n ((n : Int) - m) backward ((d : Int) - 1)) with
      | some reach => some (reach.start, ((reach.start : Int) - reach.diagonal).toNat)
      | none =>
        searchFrom old new oldBack newBack (d + 1)
          ((advance old new d forward).map Reach.furthest)
          ((advance oldBack newBack d backward).map Reach.furthest) rounds := by
  subst hold hnew
  rw [searchFrom]
  cases (advance old new d forward).find?
      (meets old.size ((old.size : Int) - new.size) backward ((d : Int) - 1)) with
  | none => simp only [ne_eq, if_pos hodd]
  | some reach => simp only [ne_eq, if_pos hodd]

/-- When they differ by an even number, only the backward search is. -/
theorem searchFrom_even (hold : old.size = n) (hnew : new.size = m)
    (heven : ((n : Int) - m) % 2 = 0) :
    searchFrom old new oldBack newBack d forward backward (rounds + 1) =
      match (advance oldBack newBack d backward).find?
          (meets n ((n : Int) - m) ((advance old new d forward).map Reach.furthest) d) with
      | some reach =>
        some (n - reach.furthest, ((m : Int) - ((reach.furthest : Int) - reach.diagonal)).toNat)
      | none =>
        searchFrom old new oldBack newBack (d + 1)
          ((advance old new d forward).map Reach.furthest)
          ((advance oldBack newBack d backward).map Reach.furthest) rounds := by
  subst hold hnew
  rw [searchFrom]
  cases hfind : (advance oldBack newBack d backward).find?
      (meets old.size ((old.size : Int) - new.size) ((advance old new d forward).map Reach.furthest)
        d) with
  | none => simp only [ne_eq, heven, not_true_eq_false, if_false, hfind]
  | some reach => simp only [ne_eq, heven, not_true_eq_false, if_false, hfind]

/-- **The lists are cut within the grid**, and not at its corners. -/
theorem searchFrom_within (hold : old.size = n) (hnew : new.size = m)
    (holdBack : oldBack.size = n) (hnewBack : newBack.size = m) (hn : 0 < n) (hm : 0 < m)
    (hfront : old[0]? ≠ new[0]?) (hback : oldBack[0]? ≠ newBack[0]?)
    (hfar : oldBack[n - 1]? ≠ newBack[m - 1]?)
    (hforward : Frontier n m d forward) (hbackward : Frontier n m d backward)
    (hodd : ((n : Int) - m) % 2 ≠ 0 → Inside n m d ((d : Int) - 2) forward)
    (heven : ((n : Int) - m) % 2 = 0 → Inside n m d ((d : Int) - 1) backward)
    {x y : Nat}
    (h : searchFrom old new oldBack newBack d forward backward rounds = some (x, y)) :
    x ≤ n ∧ y ≤ m ∧ 0 < x + y ∧ x + y < n + m := by
  -- both frontiers are kept by a round, and the search that is compared stays inside until it
  -- meets the other one
  induction rounds generalizing d forward backward with
  | zero => cases h
  | succ rounds ih =>
    have hahead := hforward.next hold hnew
    have hbehind := hbackward.next holdBack hnewBack
    by_cases hparity : ((n : Int) - m) % 2 = 0
    · rw [searchFrom_even hold hnew hparity] at h
      cases hfind : (advance oldBack newBack d backward).find?
          (meets n ((n : Int) - m) ((advance old new d forward).map Reach.furthest) d) with
      | some reach =>
        rw [hfind] at h
        cases h
        have hmem := List.mem_of_find?_eq_some hfind
        have horigin (hd : d = 0) : reach.furthest = 0 ∧
            ∀ x ∈ (advance old new d forward).map Reach.furthest, x = 0 := by
          rw [hbackward.advance_eq_of_first hback hd] at hmem
          rw [hforward.advance_eq_of_first hfront hd, List.mem_singleton.mp hmem]
          exact ⟨rfl, fun x hx => List.mem_singleton.mp hx⟩
        have hwithin := backward_within holdBack hnewBack hbackward hn hparity (heven hparity) hfar
          horigin hmem (List.find?_some hfind)
        omega
      | none =>
        rw [hfind] at h
        refine ih hahead hbehind (fun hodd => absurd hparity hodd) (fun _ => ?_) h
        refine inside_of_not_meets hahead (by push_cast; omega)
          (fun hd _ => hbackward.lt_of_first hback hn hm hd) ?_
        rw [show ((d + 1 : Nat) : Int) - 1 = (d : Int) by omega]
        exact List.find?_eq_none.mp hfind
    · rw [searchFrom_odd hold hnew hparity] at h
      cases hfind : (advance old new d forward).find?
          (meets n ((n : Int) - m) backward ((d : Int) - 1)) with
      | some reach =>
        rw [hfind] at h
        cases h
        have hwithin := forward_within hforward hn hparity (hodd hparity)
          (List.mem_of_find?_eq_some hfind) (List.find?_some hfind)
        omega
      | none =>
        rw [hfind] at h
        refine ih hahead hbehind (fun _ => ?_) (fun heven => absurd heven hparity) h
        rw [show ((d + 1 : Nat) : Int) - 2 = (d : Int) - 1 by omega]
        exact inside_of_not_meets hbackward (by omega)
          (fun hd _ => hforward.lt_of_first hfront hn hm hd) (List.find?_eq_none.mp hfind)

end Search

end Round

/-! ## Scripts without a guard -/

/-- The middle of two lists that differ at both ends lies within their grid, and not at its
corners. -/
theorem middle?_within {old new : List α} (hold : old ≠ []) (hnew : new ≠ [])
    (hfront : old.head? ≠ new.head?) (hback : old.getLast? ≠ new.getLast?) {x y : Nat}
    (h : middle? old new = some (x, y)) :
    x ≤ old.length ∧ y ≤ new.length ∧ 0 < x + y ∧ x + y < old.length + new.length := by
  have hn := List.length_pos_of_ne_nil hold
  have hm := List.length_pos_of_ne_nil hnew
  refine searchFrom_within rfl rfl (by simp) (by simp) hn hm ?_ ?_ ?_ (.nil _ _) (.nil _ _)
    (fun _ i x hx => by simp at hx) (fun _ i x hx => by simp at hx) h
  · simpa [List.head?_eq_getElem?] using hfront
  · simpa [← List.head?_eq_getElem?] using hback
  · rw [List.size_toArray, List.size_toArray, List.getElem?_toArray, List.getElem?_toArray,
      List.getElem?_reverse (by omega), List.getElem?_reverse (by omega),
      Nat.sub_self, Nat.sub_self]
    simpa [List.head?_eq_getElem?] using hfront

theorem head?_splitCommon (s t : List α) (hs : (splitCommon s t).2.1 ≠ [])
    (ht : (splitCommon s t).2.2 ≠ []) :
    (splitCommon s t).2.1.head? ≠ (splitCommon s t).2.2.head? := by
  induction s generalizing t with
  | nil => exact (hs rfl).elim
  | cons a s ih =>
    cases t with
    | nil => exact (ht rfl).elim
    | cons b t =>
      by_cases h : a = b
      · subst h
        simp only [splitCommon, if_true] at hs ht ⊢
        exact ih t hs ht
      · simp [splitCommon, h]

/-- The parts between the common ends differ at both ends. -/
theorem ends_trimmed {old new : List α} (hold : (trimmed old new).old ≠ [])
    (hnew : (trimmed old new).new ≠ []) :
    (trimmed old new).old.head? ≠ (trimmed old new).new.head? ∧
      (trimmed old new).old.getLast? ≠ (trimmed old new).new.getLast? := by
  have hfront := head?_splitCommon old new
  have happend := splitCommon_append (splitCommon old new).2.1.reverse
    (splitCommon old new).2.2.reverse
  have hback := head?_splitCommon (splitCommon old new).2.1.reverse
    (splitCommon old new).2.2.reverse
  dsimp only [trimmed] at hold hnew ⊢
  generalize splitCommon (splitCommon old new).2.1.reverse (splitCommon old new).2.2.reverse = back
    at hold hnew happend hback ⊢
  rw [ne_eq, List.reverse_eq_nil_iff] at hold hnew
  -- both parts begin as the lists do behind their common beginning
  have hhead {rest part : List α} (h : back.1 ++ part = rest.reverse) (hne : part ≠ []) :
      rest ≠ [] ∧ part.reverse.head? = rest.head? := by
    have hrest : rest = part.reverse ++ back.1.reverse := by
      rw [← List.reverse_append, h, List.reverse_reverse]
    rw [hrest, List.head?_append_of_ne_nil _ (by simpa using hne)]
    exact ⟨by simp [hne], rfl⟩
  obtain ⟨hne, heq⟩ := hhead happend.1 hold
  obtain ⟨hne', heq'⟩ := hhead happend.2 hnew
  rw [heq, heq', List.getLast?_reverse, List.getLast?_reverse]
  exact ⟨hfront hne hne', hback hold hnew⟩

/-- One step towards a script: what the two lists share at both ends is set aside, and of the parts
between them, if none is empty, the halves on both sides of the middle are left to `recurse`. -/
def conquer (recurse : List α → List α → List (Piece α)) (old new : List α) : List (Piece α) :=
  let parts := trimmed old new
  kept parts.front ++
    (if parts.old.isEmpty && parts.new.isEmpty then []
    else if parts.new.isEmpty then [.edit .old parts.old]
    else if parts.old.isEmpty then [.edit .new parts.new]
    else
      match middle? parts.old parts.new with
      | none => [.edit .old parts.old, .edit .new parts.new]
      | some (x, y) =>
        recurse (parts.old.take x) (parts.new.take y) ++
          recurse (parts.old.drop x) (parts.new.drop y)) ++
    kept parts.back

/-- **Scripts are made by cutting alone**: the test whether a cut makes both halves shorter never
fails. -/
theorem script_eq (old new : List α) : script old new = conquer script old new := by
  rw [script, conquer]
  congr 2
  split_ifs with _ hnew hold
  · rfl
  · rfl
  · rfl
  · rw [List.isEmpty_iff] at hnew hold
    cases hmiddle : middle? (trimmed old new).old (trimmed old new).new with
    | none => rfl
    | some point =>
      obtain ⟨x, y⟩ := point
      obtain ⟨hhead, hlast⟩ := ends_trimmed hold hnew
      have hwithin := middle?_within hold hnew hhead hlast hmiddle
      have hn := List.length_pos_of_ne_nil hold
      have hm := List.length_pos_of_ne_nil hnew
      dsimp only
      rw [dif_pos (by omega)]

end Tangle.Edit
