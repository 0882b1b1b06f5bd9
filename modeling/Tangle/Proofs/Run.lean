import Tangle.Run

/-!
# Reasoning about runs

A run is a function of the world, and a sequence of two runs ends with a fault exactly when one of
them does. Most steps of a run only look at the file tree or add to the log: these keep the files.
-/

namespace Tangle.Run

variable {α β : Type}

/-- The second of two runs starts in the world that the first one leaves, unless that one ends with
a fault. -/
theorem bind_apply (first : Run α) (next : α → Run β) (world : World) :
    (first >>= next) world =
      match first world with
      | (.ok a, after) => next a after
      | (.error fault, after) => (.error fault, after) := by
  have hbind : (first >>= next) world =
      ExceptT.bindCont next (first world).1 (first world).2 := rfl
  rw [hbind]
  cases first world with
  | mk result after =>
    cases result with
    | ok a => rfl
    | error fault => rfl

theorem pure_apply (a : α) (world : World) : (pure a : Run α) world = (.ok a, world) := rfl

theorem raiseAll_apply (diagnostics : List Diagnostic) (world : World) :
    raiseAll diagnostics world =
      (.ok (), { world with log := world.log ++ diagnostics.map .raised }) := rfl

/-- To raise diagnostics one after another is to raise them all. -/
theorem forM_raise (diagnostics : List Diagnostic) :
    diagnostics.forM raise = raiseAll diagnostics := by
  funext world
  induction diagnostics generalizing world with
  | nil => simp [raiseAll_apply, pure_apply]
  | cons d more ih =>
    show (raise d >>= fun _ => more.forM raise) world = _
    rw [bind_apply, raise, report]
    dsimp only
    rw [ih, raiseAll_apply, raiseAll_apply]
    simp

/-- A sequence of two runs that ends well consists of two runs that do. -/
theorem ok_of_bind {first : Run α} {next : α → Run β} {world after : World} {b : β}
    (h : (first >>= next) world = (.ok b, after)) :
    ∃ a between, first world = (.ok a, between) ∧ next a between = (.ok b, after) := by
  rw [bind_apply] at h
  cases hfirst : first world with
  | mk result between =>
    rw [hfirst] at h
    cases result with
    | ok a => exact ⟨a, between, rfl, h⟩
    | error fault => cases h

/-- A sequence of two runs that ends with a fault has it from one of the two. -/
theorem error_of_bind {first : Run α} {next : α → Run β} {world after : World} {fault : Fault}
    (h : (first >>= next) world = (.error fault, after)) :
    first world = (.error fault, after) ∨
      ∃ a between, first world = (.ok a, between) ∧ next a between = (.error fault, after) := by
  rw [bind_apply] at h
  cases hfirst : first world with
  | mk result between =>
    rw [hfirst] at h
    cases result with
    | ok a => exact Or.inr ⟨a, between, rfl, h⟩
    | error other =>
      cases h
      exact Or.inl rfl

/-- A run of which a part of the result is known has a result. -/
theorem exists_of_map_eq_ok (run : Run α) (world : World) (part : α → β) {b : β}
    (h : (run world).1.map part = .ok b) :
    ∃ a after, run world = (.ok a, after) ∧ part a = b := by
  cases hrun : run world with
  | mk result after =>
    rw [hrun] at h
    cases result with
    | ok a => exact ⟨a, after, rfl, Except.ok.inj h⟩
    | error fault => cases h

/-! ## Runs that keep the files -/

/-- Whatever the world, its files and its working directory are afterwards what they were. -/
def KeepsFiles (run : Run α) : Prop :=
  ∀ world, (run world).2.files = world.files ∧ (run world).2.here = world.here

namespace KeepsFiles

theorem pure (a : α) : KeepsFiles (Pure.pure a : Run α) := fun _ => ⟨rfl, rfl⟩

theorem raiseAll (diagnostics : List Diagnostic) : KeepsFiles (Run.raiseAll diagnostics) :=
  fun _ => ⟨rfl, rfl⟩

theorem bind {first : Run α} {next : α → Run β} (hfirst : KeepsFiles first)
    (hnext : ∀ a, KeepsFiles (next a)) : KeepsFiles (first >>= next) := by
  intro world
  obtain ⟨hfiles, hhere⟩ := hfirst world
  rw [bind_apply]
  cases h : first world with
  | mk result after =>
    rw [h] at hfiles hhere
    cases result with
    | error fault => exact ⟨hfiles, hhere⟩
    | ok a =>
      obtain ⟨hfiles', hhere'⟩ := hnext a after
      exact ⟨hfiles'.trans hfiles, hhere'.trans hhere⟩

theorem readText (path : Text) : KeepsFiles (Run.readText path) := by
  intro world
  unfold Run.readText
  split <;> exact ⟨rfl, rfl⟩

theorem mapM {run : β → Run α} (hrun : ∀ b, KeepsFiles (run b)) (list : List β) :
    KeepsFiles (list.mapM run) := by
  induction list with
  | nil =>
    rw [List.mapM_nil]
    exact pure []
  | cons b more ih =>
    rw [List.mapM_cons]
    exact bind (hrun b) fun _ => bind ih fun _ => pure _

/-- Runs for the members of a list that end with a fault have it from one of them, which saw the
files as they were. -/
theorem exists_of_mapM_eq_error {run : β → Run α} (hrun : ∀ b, KeepsFiles (run b)) {list : List β}
    {world after : World} {fault : Fault} (h : list.mapM run world = (.error fault, after)) :
    ∃ b ∈ list, ∃ between last, between.files = world.files ∧ between.here = world.here ∧
      run b between = (.error fault, last) := by
  induction list generalizing world with
  | nil =>
    rw [List.mapM_nil] at h
    cases h
  | cons b more ih =>
    rw [List.mapM_cons] at h
    rcases error_of_bind h with hfirst | ⟨a, between, hfirst, h⟩
    · exact ⟨b, List.mem_cons_self, world, after, rfl, rfl, hfirst⟩
    · -- a later member fails, after the first one has kept the files
      have hkept := hrun b world
      rw [hfirst] at hkept
      rcases error_of_bind h with hmore | ⟨rest, last, -, hlast⟩
      · obtain ⟨c, hc, start, last, hfiles, hhere, hfault⟩ := ih hmore
        exact ⟨c, List.mem_cons_of_mem _ hc, start, last, hfiles.trans hkept.1,
          hhere.trans hkept.2, hfault⟩
      · cases hlast

/-- Runs for the members of a list that end well all saw the files as they were. -/
theorem of_mapM_eq_ok {run : β → Run α} (hrun : ∀ b, KeepsFiles (run b)) {list : List β}
    {world after : World} {all : List α} (h : list.mapM run world = (.ok all, after)) :
    ∀ b ∈ list, ∃ a between last, between.files = world.files ∧ between.here = world.here ∧
      run b between = (.ok a, last) := by
  induction list generalizing world after all with
  | nil =>
    intro b hb
    cases hb
  | cons first more ih =>
    rw [List.mapM_cons] at h
    obtain ⟨a, between, hfirst, h⟩ := ok_of_bind h
    obtain ⟨rest, last, hrest, h⟩ := ok_of_bind h
    have hkept := hrun first world
    rw [hfirst] at hkept
    intro b hb
    rcases List.mem_cons.mp hb with rfl | hb
    · exact ⟨a, world, between, rfl, rfl, hfirst⟩
    · obtain ⟨c, start, last, hfiles, hhere, hok⟩ := ih hrest b hb
      exact ⟨c, start, last, hfiles.trans hkept.1, hhere.trans hkept.2, hok⟩

end KeepsFiles

/-! ## Runs that cannot tell two file trees apart -/

/-- Seen from one place, a run ends in the same way whichever of two file trees it works on. -/
def Alike (here : Location) (tree other : FileTree) (run : Run α) : Prop :=
  ∀ world world', world.files = tree → world.here = here → world'.files = other →
    world'.here = here → (run world').1 = (run world).1

namespace Alike

variable {here : Location} {tree other : FileTree}

/-- What a run yields on one tree it yields on the other one. -/
theorem exists_apply_eq {run : Run α} (h : Alike here tree other run) {world world' after : World}
    {result : Except Fault α} (hrun : run world = (result, after)) (hfiles : world.files = tree)
    (hhere : world.here = here) (hfiles' : world'.files = other) (hhere' : world'.here = here) :
    ∃ after', run world' = (result, after') := by
  have hsame := h world world' hfiles hhere hfiles' hhere'
  rw [hrun] at hsame
  exact ⟨(run world').2, Prod.ext hsame rfl⟩

theorem pure (a : α) : Alike here tree other (Pure.pure a : Run α) := fun _ _ _ _ _ _ => rfl

theorem raiseAll (diagnostics : List Diagnostic) :
    Alike here tree other (Run.raiseAll diagnostics) := fun _ _ _ _ _ _ => rfl

theorem readText {path : Text} (h : other.readText here path = tree.readText here path) :
    Alike here tree other (Run.readText path) := by
  rintro world world' rfl rfl rfl hhere
  unfold Run.readText
  rw [hhere, h]
  split <;> rfl

/-- The second of two runs need only be alike on what the first one can yield. -/
theorem bind {first : Run α} {next : α → Run β} (hkeeps : KeepsFiles first)
    (hfirst : Alike here tree other first)
    (hnext : ∀ a world after, world.files = tree → world.here = here →
      first world = (.ok a, after) → Alike here tree other (next a)) :
    Alike here tree other (first >>= next) := by
  intro world world' hfiles hhere hfiles' hhere'
  have hsame := hfirst world world' hfiles hhere hfiles' hhere'
  obtain ⟨hkept, hkeptHere⟩ := hkeeps world
  obtain ⟨hkept', hkeptHere'⟩ := hkeeps world'
  rw [bind_apply, bind_apply]
  -- both runs of the first step end in the same way, and keep the files for the next one
  cases hone : first world with
  | mk result after =>
    cases htwo : first world' with
    | mk result' after' =>
      rw [hone] at hsame hkept hkeptHere
      rw [htwo] at hsame hkept' hkeptHere'
      obtain rfl : result' = result := hsame
      cases result' with
      | error fault => rfl
      | ok a =>
        exact hnext a world after hfiles hhere hone after after' (hkept.trans hfiles)
          (hkeptHere.trans hhere) (hkept'.trans hfiles') (hkeptHere'.trans hhere')

theorem mapM {run : β → Run α} {list : List β} (hkeeps : ∀ b, KeepsFiles (run b))
    (hrun : ∀ b ∈ list, Alike here tree other (run b)) :
    Alike here tree other (list.mapM run) := by
  induction list with
  | nil =>
    rw [List.mapM_nil]
    exact pure []
  | cons b more ih =>
    rw [List.mapM_cons]
    refine bind (hkeeps b) (hrun b List.mem_cons_self) fun _ _ _ _ _ _ => ?_
    refine bind (.mapM hkeeps more) (ih fun c hc => hrun c (List.mem_cons_of_mem _ hc)) ?_
    exact fun _ _ _ _ _ _ => pure _

end Alike

end Tangle.Run
