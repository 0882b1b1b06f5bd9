import Mathlib.Data.List.Nodup
import Tangle.Proofs.Rendering.Stops
import Tangle.Proofs.Scope

/-!
# The meaning of versions

A name means, in a template at a version, the content of the fragment with that template and name
and the greatest version that is not above it. A run never searches for that fragment: it keeps one
scope for each identifier and binds only the fragments of the version at hand. That both agree is
the invariant `Current` of the scopes, which `Current.advance` carries from one version to the next.
-/

namespace Tangle

namespace Fragment

/-- The fragment that a name means in a template at a version. -/
structure IsLatest (fragments : List Fragment) (template name : Text) (version : Nat)
    (f : Fragment) : Prop where
  mem : f ∈ fragments
  template_eq : f.template = template
  name_eq : f.name = name
  version_le : f.version ≤ version
  greatest : ∀ g ∈ fragments, g.template = template → g.name = name → g.version ≤ version →
    g.version ≤ f.version

/-- No two fragments with different keys can both be the latest. -/
theorem IsLatest.unique {fragments : List Fragment} (distinct : (fragments.map key).Nodup)
    {template name : Text} {version : Nat} {f g : Fragment}
    (hf : IsLatest fragments template name version f)
    (hg : IsLatest fragments template name version g) : f = g := by
  -- each version is at most the other one, and equal versions make equal keys
  have hversion : f.version = g.version :=
    Nat.le_antisymm (hg.greatest f hf.mem hf.template_eq hf.name_eq hf.version_le)
      (hf.greatest g hg.mem hg.template_eq hg.name_eq hg.version_le)
  have hkey : f.key = g.key := by
    simp only [key, hf.name_eq, hg.name_eq, hf.template_eq, hg.template_eq, hversion]
  exact List.inj_on_of_nodup_map distinct hf.mem hg.mem hkey

/-- The last of the fragments with a template, a name and a version. -/
def declaredAt? (fragments : List Fragment) (template name : Text) (version : Nat) :
    Option Fragment :=
  (((fragments.filter fun f => f.version = version).filter fun f => f.template = template).filter
    fun f => f.name = name).getLast?

/-- The same at the greatest version below a bound that has such a fragment. -/
def latestBelow? (fragments : List Fragment) (template name : Text) : Nat → Option Fragment
  | 0 => none
  | version + 1 =>
    (declaredAt? fragments template name version).or (latestBelow? fragments template name version)

section Latest

variable {fragments : List Fragment} {template name : Text}

theorem of_declaredAt? {version : Nat} {f : Fragment}
    (h : declaredAt? fragments template name version = some f) :
    f ∈ fragments ∧ f.template = template ∧ f.name = name ∧ f.version = version := by
  have hmem := List.mem_of_getLast? h
  simp only [List.mem_filter, decide_eq_true_eq] at hmem
  exact ⟨hmem.1.1.1, hmem.1.2, hmem.2, hmem.1.1.2⟩

theorem declaredAt?_eq_none {version : Nat}
    (h : declaredAt? fragments template name version = none) {f : Fragment} (hmem : f ∈ fragments)
    (htemplate : f.template = template) (hname : f.name = name) : f.version ≠ version := by
  rintro rfl
  rw [declaredAt?, List.getLast?_eq_none_iff] at h
  have : f ∈ (((fragments.filter fun g => g.version = f.version).filter
      fun g => g.template = template).filter fun g => g.name = name) := by
    simp [hmem, htemplate, hname]
  rw [h] at this
  cases this

theorem latestBelow?_eq_none_iff {bound : Nat} :
    latestBelow? fragments template name bound = none ↔
      ∀ f ∈ fragments, f.template = template → f.name = name → bound ≤ f.version := by
  induction bound with
  | zero => simp [latestBelow?]
  | succ version ih =>
    rw [latestBelow?, Option.or_eq_none_iff, ih]
    constructor
    · rintro ⟨hnone, hbelow⟩ f hmem htemplate hname
      have := hbelow f hmem htemplate hname
      have := declaredAt?_eq_none hnone hmem htemplate hname
      omega
    · intro h
      refine ⟨?_, fun f hmem htemplate hname => Nat.le_of_succ_le (h f hmem htemplate hname)⟩
      cases hat : declaredAt? fragments template name version with
      | none => rfl
      | some f =>
        obtain ⟨hmem, htemplate, hname, hversion⟩ := of_declaredAt? hat
        have := h f hmem htemplate hname
        omega

/-- A fragment of the version itself is the latest. -/
theorem isLatest_of_declaredAt? {version : Nat} {f : Fragment}
    (h : declaredAt? fragments template name version = some f) :
    IsLatest fragments template name version f := by
  obtain ⟨hmem, htemplate, hname, hversion⟩ := of_declaredAt? h
  exact ⟨hmem, htemplate, hname, Nat.le_of_eq hversion, fun g _ _ _ hle => hversion ▸ hle⟩

/-- What is the latest stays so at a version without such a fragment. -/
theorem IsLatest.succ {version : Nat} {f : Fragment}
    (hf : IsLatest fragments template name version f)
    (hnone : declaredAt? fragments template name (version + 1) = none) :
    IsLatest fragments template name (version + 1) f := by
  refine ⟨hf.mem, hf.template_eq, hf.name_eq, Nat.le_succ_of_le hf.version_le,
    fun g hg htemplate hname hle => hf.greatest g hg htemplate hname ?_⟩
  have hne := declaredAt?_eq_none hnone hg htemplate hname
  exact Nat.le_of_lt_succ (Nat.lt_of_le_of_ne hle hne)

theorem isLatest_of_latestBelow? {version : Nat} {f : Fragment}
    (h : latestBelow? fragments template name (version + 1) = some f) :
    IsLatest fragments template name version f := by
  induction version with
  | zero =>
    rw [latestBelow?, Option.or_eq_some_iff] at h
    rcases h with hat | ⟨-, h⟩
    · exact isLatest_of_declaredAt? hat
    · cases h
  | succ version ih =>
    rw [latestBelow?, Option.or_eq_some_iff] at h
    rcases h with hat | ⟨hnone, h⟩
    · exact isLatest_of_declaredAt? hat
    · exact (ih h).succ hnone

/-- Among fragments with different keys the search finds the latest one. -/
theorem latestBelow?_eq_some_iff (distinct : (fragments.map key).Nodup) {version : Nat}
    {f : Fragment} :
    latestBelow? fragments template name (version + 1) = some f ↔
      IsLatest fragments template name version f := by
  refine ⟨isLatest_of_latestBelow?, fun hf => ?_⟩
  cases h : latestBelow? fragments template name (version + 1) with
  | none =>
    have := latestBelow?_eq_none_iff.mp h f hf.mem hf.template_eq hf.name_eq
    have := hf.version_le
    omega
  | some g => rw [IsLatest.unique distinct hf (isLatest_of_latestBelow? h)]

end Latest

end Fragment

namespace Rendering

/-! ## The scopes of a walk -/

/-- The scopes are those of all versions below a bound: each answers with the latest fragments below
it, and every template that such a fragment is for has one. -/
structure Current (fragments : List Fragment) (bound : Nat) (scopes : Scopes) : Prop where
  lookup : ∀ entry ∈ scopes, ∀ name, entry.2.get? name =
    (Fragment.latestBelow? fragments entry.1 name bound).map Fragment.content
  ordered : ∀ entry ∈ scopes, Scope.Ordered entry.2.bindings
  referenced : ∀ f ∈ fragments, f.version < bound → ∃ entry ∈ scopes, entry.1 = f.template

theorem current_nil {fragments : List Fragment} {least : Nat}
    (h : ∀ f ∈ fragments, least ≤ f.version) : Current fragments least [] where
  lookup := by simp
  ordered := by simp
  referenced f hf hlt := absurd (h f hf) (Nat.not_le.mpr hlt)

section Reference

variable {scopes : Scopes} {active : List Fragment}

/-- Adds one identifier if no scope has it. -/
def referenceOne (scopes : Scopes) (identifier : Text) : Scopes :=
  if scopes.any fun entry => entry.1 = identifier then scopes
  else scopes ++ [(identifier, Scope.empty)]

theorem reference_cons (scopes : Scopes) (f : Fragment) (more : List Fragment) :
    reference scopes (f :: more) = reference (referenceOne scopes f.template) more := rfl

theorem subset_referenceOne (identifier : Text) : scopes ⊆ referenceOne scopes identifier := by
  unfold referenceOne
  split
  · exact List.Subset.refl _
  · exact List.subset_append_left ..

theorem mem_referenceOne {identifier : Text} {entry : Text × Scope}
    (h : entry ∈ referenceOne scopes identifier) :
    entry ∈ scopes ∨ (entry.2 = Scope.empty ∧ ∀ other ∈ scopes, other.1 ≠ entry.1) := by
  unfold referenceOne at h
  split at h
  · exact Or.inl h
  · rename_i hany
    rcases List.mem_append.mp h with h | h
    · exact Or.inl h
    · rw [List.mem_singleton] at h
      subst h
      refine Or.inr ⟨rfl, fun other hother he => hany ?_⟩
      exact List.any_eq_true.mpr ⟨other, hother, decide_eq_true he⟩

theorem exists_mem_referenceOne (identifier : Text) :
    ∃ entry ∈ referenceOne scopes identifier, entry.1 = identifier := by
  unfold referenceOne
  split
  · rename_i hany
    obtain ⟨entry, hmem, he⟩ := List.any_eq_true.mp hany
    exact ⟨entry, hmem, of_decide_eq_true he⟩
  · exact ⟨_, List.mem_append_right _ (List.mem_singleton.mpr rfl), rfl⟩

theorem subset_reference : scopes ⊆ reference scopes active := by
  induction active generalizing scopes with
  | nil => exact List.Subset.refl _
  | cons f more ih => exact List.Subset.trans (subset_referenceOne f.template) ih

/-- What a reference adds has the empty scope and an identifier that no scope had before. -/
theorem mem_reference {entry : Text × Scope} (h : entry ∈ reference scopes active) :
    entry ∈ scopes ∨ (entry.2 = Scope.empty ∧ ∀ other ∈ scopes, other.1 ≠ entry.1) := by
  induction active generalizing scopes with
  | nil => exact Or.inl h
  | cons f more ih =>
    rcases ih h with h | ⟨hempty, hnew⟩
    · exact mem_referenceOne h
    · exact Or.inr ⟨hempty, fun other hother => hnew other (subset_referenceOne f.template hother)⟩

theorem exists_mem_reference {f : Fragment} (hf : f ∈ active) :
    ∃ entry ∈ reference scopes active, entry.1 = f.template := by
  induction active generalizing scopes with
  | nil => cases hf
  | cons g more ih =>
    rcases List.mem_cons.mp hf with rfl | hf
    · -- the scope is there from the first fragment on
      have hfirst : ∃ entry ∈ referenceOne scopes f.template, entry.1 = f.template :=
        exists_mem_referenceOne f.template
      obtain ⟨entry, hmem, he⟩ := hfirst
      refine ⟨entry, ?_, he⟩
      rw [reference_cons]
      exact subset_reference hmem
    · exact ih hf

end Reference

/-- Binding the fragments of one version takes scopes that are current below it to scopes that are
current below the next one. -/
theorem Current.advance {fragments : List Fragment} {version : Nat} {scopes : Scopes}
    (h : Current fragments version scopes) :
    Current fragments (version + 1)
      (advance scopes (fragments.filter fun f => f.version = version) version) := by
  have hreference : ∀ entry ∈ reference scopes (fragments.filter fun f => f.version = version),
      Scope.Ordered entry.2.bindings ∧ ∀ name, entry.2.get? name =
        (Fragment.latestBelow? fragments entry.1 name version).map Fragment.content := by
    intro entry hentry
    rcases mem_reference hentry with hold | ⟨hempty, hnew⟩
    · exact ⟨h.ordered entry hold, h.lookup entry hold⟩
    · -- a template that is referenced for the first time has no fragment below this version
      refine ⟨hempty ▸ List.Pairwise.nil, fun name => ?_⟩
      have hnone : Fragment.latestBelow? fragments entry.1 name version = none := by
        refine Fragment.latestBelow?_eq_none_iff.mpr fun f hf htemplate _ => ?_
        by_contra hlt
        obtain ⟨other, hother, he⟩ := h.referenced f hf (Nat.not_le.mp hlt)
        exact hnew other hother (he.trans htemplate)
      rw [hempty, hnone]
      rfl
  constructor
  case lookup =>
    rintro _ hentry name
    obtain ⟨entry, hmem, rfl⟩ := List.mem_map.mp hentry
    -- a merge puts the fragments of this version before what the scope answered so far
    rw [Scope.get?_setVersion, Scope.get?_merge, (hreference entry hmem).2,
      Fragment.latestBelow?, Option.map_or]
    rfl
  case ordered =>
    rintro _ hentry
    obtain ⟨entry, hmem, rfl⟩ := List.mem_map.mp hentry
    exact Scope.ordered_merge (hreference entry hmem).1 _
  case referenced =>
    intro f hf hlt
    -- a fragment below the next version is below this one or active now
    have hentry : ∃ entry ∈ reference scopes (fragments.filter fun f => f.version = version),
        entry.1 = f.template := by
      rcases Nat.lt_succ_iff_lt_or_eq.mp hlt with hlt | heq
      · obtain ⟨entry, hmem, he⟩ := h.referenced f hf hlt
        exact ⟨entry, subset_reference hmem, he⟩
      · exact exists_mem_reference (List.mem_filter.mpr ⟨hf, decide_eq_true heq⟩)
    obtain ⟨entry, hmem, he⟩ := hentry
    exact ⟨_, List.mem_map_of_mem hmem, he⟩

/-- The scope of a visit that a walk makes: it carries the version of the visit, keeps its bindings
in order, and answers with the latest fragments. -/
structure Visit.Faithful (fragments : List Fragment) (visit : Visit) : Prop where
  version_eq : visit.scope.version = some visit.version
  ordered : Scope.Ordered visit.scope.bindings
  lookup : ∀ name, visit.scope.get? name =
    (Fragment.latestBelow? fragments visit.identifier name (visit.version + 1)).map
      Fragment.content

theorem version_of_mem_advance {scopes : Scopes} {active : List Fragment} {version : Nat}
    {entry : Text × Scope} (h : entry ∈ advance scopes active version) :
    entry.2.version = some version := by
  obtain ⟨old, -, rfl⟩ := List.mem_map.mp h
  rfl

theorem faithful_of_mem_tourFrom {fragments : List Fragment} {count version : Nat}
    {scopes : Scopes} (hcurrent : Current fragments version scopes) {visit : Visit}
    (h : visit ∈ tourFrom fragments count version scopes) : visit.Faithful fragments := by
  induction count generalizing version scopes with
  | zero => cases h
  | succ count ih =>
    have hnext := hcurrent.advance
    -- the visit is made at this version or at a later one
    rcases List.mem_append.mp h with h | h
    · obtain ⟨entry, hmem, rfl⟩ := List.mem_map.mp h
      exact ⟨version_of_mem_advance hmem, hnext.ordered entry hmem, hnext.lookup entry hmem⟩
    · exact ih hnext h

/-- The range of versions reaches from the lowest to the highest one. -/
theorem of_versionRange_eq_some {fragments : List Fragment} {least greatest : Nat}
    (h : versionRange fragments = some (least, greatest)) :
    (∃ f ∈ fragments, f.version = least) ∧ (∃ f ∈ fragments, f.version = greatest) ∧
      ∀ f ∈ fragments, least ≤ f.version ∧ f.version ≤ greatest := by
  obtain ⟨smallest, hmin, h⟩ := Option.bind_eq_some_iff.mp h
  obtain ⟨largest, hmax, h⟩ := Option.bind_eq_some_iff.mp h
  cases h
  obtain ⟨hleast, hle⟩ := List.min?_eq_some_iff.mp hmin
  obtain ⟨hgreatest, hge⟩ := List.max?_eq_some_iff.mp hmax
  exact ⟨List.mem_map.mp hleast, List.mem_map.mp hgreatest, fun f hf =>
    ⟨hle _ (List.mem_map_of_mem hf), hge _ (List.mem_map_of_mem hf)⟩⟩

theorem faithful_of_mem_tour {fragments : List Fragment} {visit : Visit}
    (h : visit ∈ tour fragments) : visit.Faithful fragments := by
  unfold tour at h
  split at h
  · cases h
  · rename_i least greatest hrange
    obtain ⟨-, -, hbetween⟩ := of_versionRange_eq_some hrange
    exact faithful_of_mem_tourFrom (current_nil fun f hf => (hbetween f hf).1) h

/-! ## What a run renders -/

/-- **Every file is rendered from the latest fragments.** A run makes the visits of its tour and
nothing else; it tells of the writings in the journal, and only they change the files. Each of them
was rendered in a scope with the version of the visit, whose bindings are a map that sends a name to
the content of the latest fragment with that name and template, and has no other names; what is
written is the text that the renderer made of the source of the template in this scope, with one
line feed more exactly if it does not end in one. -/
theorem written_from_latest (fragments : List Fragment)
    (distinct : (fragments.map Fragment.key).Nodup) (directory : TemplateDirectory)
    (renderer : Renderer) (world : World) :
    renderFragments fragments directory renderer = (do
      let result ← follow directory renderer (tour fragments)
      pure { result with versions := versionRange fragments }) ∧
    (∀ result after, renderFragments fragments directory renderer world = (.ok result, after) →
      result.written = (journal directory renderer (tour fragments) world).map Writing.entry) ∧
    (renderFragments fragments directory renderer world).2.files =
      (journal directory renderer (tour fragments) world).foldl (fun _ w => w.after) world.files ∧
    ∀ w ∈ journal directory renderer (tour fragments) world,
      w.visit.scope.version = some w.visit.version ∧
      (w.visit.scope.bindings.map Prod.fst).Nodup ∧
      (∀ name content, (name, content) ∈ w.visit.scope.bindings ↔
        ∃ f, Fragment.IsLatest fragments w.visit.identifier name w.visit.version f ∧
          f.content = content) ∧
      (∀ name, name ∉ w.visit.scope.bindings.map Prod.fst ↔
        ∀ f ∈ fragments, f.template = w.visit.identifier → f.name = name →
          w.visit.version < f.version) ∧
      ∃ (file : TemplateFile) (source text : Text),
        w.path = file.outputPath w.visit.version ∧
        w.before.readText world.here file.path = .ok source ∧
        renderer w.visit.identifier source w.visit.scope = some text ∧
        w.before.writeText world.here w.path
          (if text.getLast? = some '\n' then text else text ++ ['\n']) = .ok w.after := by
  have hrun := renderFragments_eq_follow directory renderer fragments
  refine ⟨hrun, fun result after h => ?_, ?_, fun w hw => ?_⟩
  · rw [hrun] at h
    obtain ⟨followed, between, hfollow, h⟩ := Run.ok_of_bind h
    cases h
    show followed.written = _
    exact written_of_follow directory renderer hfollow
  · rw [hrun, ← files_of_follow directory renderer (tour fragments) world, Run.bind_apply]
    cases follow directory renderer (tour fragments) world with
    | mk result after => cases result <;> rfl
  · obtain ⟨hvisit, hrenders⟩ := of_mem_journal directory renderer hw
    have hfaithful := faithful_of_mem_tour hvisit
    -- ordered bindings are what lookup answers, and the lookups are known from the visit
    have hbound (name content : Text) : (name, content) ∈ w.visit.scope.bindings ↔
        ∃ f, Fragment.IsLatest fragments w.visit.identifier name w.visit.version f ∧
          f.content = content := by
      rw [hfaithful.ordered.mem_iff, hfaithful.lookup, Option.map_eq_some_iff]
      simp only [Fragment.latestBelow?_eq_some_iff distinct]
    refine ⟨hfaithful.version_eq, hfaithful.ordered.nodup_names, hbound, fun name => ?_, hrenders⟩
    rw [Scope.notMem_names_iff, hfaithful.lookup, Option.map_eq_none_iff,
      Fragment.latestBelow?_eq_none_iff]
    rfl

/-- Two names at version 1, of which one is declared again at version 3. -/
def gapFragments : List Fragment :=
  [⟨[['x', '\n']], ['a'], ['p', '.', 'c', '.', 'j'], 1, 1, ['f']⟩,
    ⟨[['z', '\n']], ['b'], ['p', '.', 'c', '.', 'j'], 1, 3, ['f']⟩,
    ⟨[['y', '\n']], ['a'], ['p', '.', 'c', '.', 'j'], 3, 5, ['f']⟩]

/-- A directory with the template of these fragments. -/
def gapWorld : World where
  files := ⟨[([['d']], .directory), ([['d'], ['p', '.', 'c', '.', 'j']], .file (.text ['s']))]⟩
  here := []

/-- Shows the source and all contents of the scope. -/
def showScope : Renderer := fun _ source scope =>
  some (source ++ (scope.bindings.map Prod.snd).flatten)

/-- The three versions are written, and at version 2, which has no fragment of its own, both names
have the contents of version 1. -/
theorem written_from_latest_at_gap :
    (gapFragments.map Fragment.key).Nodup ∧
    (journal ⟨['d'], ['j']⟩ showScope (tour gapFragments) gapWorld).map
        (fun w => (w.path, w.visit.scope.bindings)) =
      [(['d', '/', 'p', '-', '1', '.', 'c'], [(['a'], ['x', '\n']), (['b'], ['z', '\n'])]),
        (['d', '/', 'p', '-', '2', '.', 'c'], [(['a'], ['x', '\n']), (['b'], ['z', '\n'])]),
        (['d', '/', 'p', '-', '3', '.', 'c'], [(['a'], ['y', '\n']), (['b'], ['z', '\n'])])] ∧
    ∀ w ∈ journal ⟨['d'], ['j']⟩ showScope (tour gapFragments) gapWorld, ∀ name content,
      (name, content) ∈ w.visit.scope.bindings ↔
        ∃ f, Fragment.IsLatest gapFragments w.visit.identifier name w.visit.version f ∧
          f.content = content := by
  refine ⟨by decide, by decide +kernel, fun w hw => ?_⟩
  obtain ⟨-, -, -, hwritings⟩ :=
    written_from_latest gapFragments (by decide) ⟨['d'], ['j']⟩ showScope gapWorld
  exact (hwritings w hw).2.2.1

end Rendering

end Tangle
