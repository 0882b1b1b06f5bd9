import Mathlib.Data.Nat.Find
import Tangle.Proofs.Rendering.Stops
import Tangle.Proofs.Rendering.Versions

/-!
# The schedule of a rendering run

A run goes through all versions from the lowest to the highest, and at each of them through the
templates that have a fragment at this version or a lower one. Templates keep the order of their
debuts: by the version of the first fragment, and then by its position. The run never computes this
order. It keeps a list of identifiers and appends to it, and `Scheduled` is the invariant that makes
that list the right one at every version.
-/

namespace Tangle

namespace Rendering

variable {fragments : List Fragment}

/-! ## Debuts -/

/-- Where a template is referenced first, in the order of versions: `version` is the lowest of its
fragments, and the one at `position` is the first with that version. -/
structure IsDebut (fragments : List Fragment) (template : Text) (version position : Nat) :
    Prop where
  atPosition : ∃ f, fragments[position]? = some f ∧ f.template = template ∧ f.version = version
  least : ∀ f ∈ fragments, f.template = template → version ≤ f.version
  first : ∀ earlier < position, ∀ f, fragments[earlier]? = some f → f.template = template →
    f.version ≠ version

/-- One template has its debut before another one. -/
def DebutsBefore (fragments : List Fragment) (template other : Text) : Prop :=
  ∃ version position version' position', IsDebut fragments template version position ∧
    IsDebut fragments other version' position' ∧
    (version < version' ∨ version = version' ∧ position < position')

/-- Every template that has a fragment has a debut. -/
theorem exists_isDebut {f : Fragment} (hf : f ∈ fragments) :
    ∃ version position, IsDebut fragments f.template version position := by
  classical
  have hversion : ∃ version, ∃ g ∈ fragments, g.template = f.template ∧ g.version = version :=
    ⟨f.version, f, hf, rfl, rfl⟩
  obtain ⟨g, hg, htemplate, hleast⟩ := Nat.find_spec hversion
  -- the lowest version first, and then the first position among its fragments
  have hposition : ∃ position : Nat, ∃ g : Fragment, fragments[position]? = some g ∧
      g.template = f.template ∧ g.version = Nat.find hversion := by
    obtain ⟨position, hposition⟩ := List.mem_iff_getElem?.mp hg
    exact ⟨position, g, hposition, htemplate, hleast⟩
  refine ⟨Nat.find hversion, Nat.find hposition, Nat.find_spec hposition, ?_, ?_⟩
  · intro g hg htemplate
    exact Nat.find_min' hversion ⟨g, hg, htemplate, rfl⟩
  · intro earlier hearlier g hg htemplate hversion
    exact Nat.find_min hposition hearlier ⟨g, hg, htemplate, hversion⟩

theorem IsDebut.unique {template : Text} {version version' position position' : Nat}
    (h : IsDebut fragments template version position)
    (h' : IsDebut fragments template version' position') :
    version = version' ∧ position = position' := by
  obtain ⟨f, hf, htemplate, hversion⟩ := h.atPosition
  obtain ⟨g, hg, htemplate', hversion'⟩ := h'.atPosition
  -- each of the two versions is that of a fragment, which bounds the other
  have hle := h.least g (List.mem_of_getElem? hg) htemplate'
  have hle' := h'.least f (List.mem_of_getElem? hf) htemplate
  have heq : version = version' := by omega
  refine ⟨heq, Nat.le_antisymm ?_ ?_⟩
  · refine Nat.le_of_not_lt fun hlt => ?_
    exact h.first position' hlt g hg htemplate' (hversion'.trans heq.symm)
  · refine Nat.le_of_not_lt fun hlt => ?_
    exact h'.first position hlt f hf htemplate (hversion.trans heq)

/-- No template has its debut before itself. -/
theorem not_debutsBefore_self (template : Text) : ¬ DebutsBefore fragments template template := by
  rintro ⟨version, position, version', position', h, h', hlt⟩
  obtain ⟨rfl, rfl⟩ := h.unique h'
  omega

/-! ## The identifiers of a walk -/

/-- The identifiers that scopes belong to. -/
def identifiers (scopes : Scopes) : List Text := scopes.map Prod.fst

theorem identifiers_advance (scopes : Scopes) (active : List Fragment) (version : Nat) :
    identifiers (advance scopes active version) = identifiers (reference scopes active) := by
  rw [identifiers, advance, List.map_map]
  rfl

theorem identifiers_referenceOne (scopes : Scopes) (identifier : Text) :
    identifiers (referenceOne scopes identifier) =
      if identifier ∈ identifiers scopes then identifiers scopes
      else identifiers scopes ++ [identifier] := by
  have hany : (scopes.any fun entry => entry.1 = identifier) = true ↔
      identifier ∈ identifiers scopes := by
    rw [List.any_eq_true, identifiers, List.mem_map]
    simp only [decide_eq_true_eq]
  rw [referenceOne]
  by_cases h : identifier ∈ identifiers scopes
  · rw [if_pos (hany.mpr h), if_pos h]
  · rw [if_neg fun hscopes => h (hany.mp hscopes), if_neg h]
    exact List.map_append

/-- The identifiers are those of all templates with a fragment below a bound, in the order of their
debuts. -/
structure Scheduled (fragments : List Fragment) (bound : Nat) (ids : List Text) : Prop where
  mem_iff : ∀ template, template ∈ ids ↔
    ∃ f ∈ fragments, f.template = template ∧ f.version < bound
  ordered : ids.Pairwise (DebutsBefore fragments)

/-- The same in the middle of a version, when the fragments before `position` have been seen. -/
structure ScheduledAt (fragments : List Fragment) (version position : Nat) (ids : List Text) :
    Prop where
  mem_iff : ∀ template, template ∈ ids ↔ ∃ i f, fragments[i]? = some f ∧ f.template = template ∧
    (f.version < version ∨ f.version = version ∧ i < position)
  ordered : ids.Pairwise (DebutsBefore fragments)

/-- A template that was seen has its debut before what comes next. -/
theorem ScheduledAt.debutsBefore {version position : Nat} {ids : List Text}
    (h : ScheduledAt fragments version position ids) {template other : Text}
    (hmem : template ∈ ids) (hother : IsDebut fragments other version position) :
    DebutsBefore fragments template other := by
  obtain ⟨i, f, hf, rfl, hseen⟩ := (h.mem_iff template).mp hmem
  have hmemf : f ∈ fragments := List.mem_of_getElem? hf
  obtain ⟨first, place, hdebut⟩ := exists_isDebut hmemf
  refine ⟨first, place, version, position, hdebut, hother, ?_⟩
  have hle := hdebut.least f hmemf rfl
  rcases hseen with hlt | ⟨heq, hi⟩
  · exact Or.inl (Nat.lt_of_le_of_lt hle hlt)
  · rcases Nat.lt_or_eq_of_le (heq ▸ hle) with hlt | hfirst
    · exact Or.inl hlt
    · -- no fragment before the debut has its version, so the debut is not behind this one
      refine Or.inr ⟨hfirst, Nat.lt_of_le_of_lt (Nat.le_of_not_lt fun hplace => ?_) hi⟩
      exact hdebut.first i hplace f hf rfl (heq.trans hfirst.symm)

/-- Seeing one more fragment of the version adds its template unless it is there. -/
theorem ScheduledAt.step {version position : Nat} {scopes : Scopes}
    (h : ScheduledAt fragments version position (identifiers scopes)) {f : Fragment}
    (hf : fragments[position]? = some f) (hversion : f.version = version) :
    ScheduledAt fragments version (position + 1)
      (identifiers (referenceOne scopes f.template)) := by
  -- what was seen then was seen before, or is this fragment
  have hseen (template : Text) :
      (∃ i g, fragments[i]? = some g ∧ g.template = template ∧
        (g.version < version ∨ g.version = version ∧ i < position + 1)) ↔
      template ∈ identifiers scopes ∨ template = f.template := by
    rw [h.mem_iff]
    constructor
    · rintro ⟨i, g, hg, htemplate, hlt | ⟨heq, hi⟩⟩
      · exact Or.inl ⟨i, g, hg, htemplate, Or.inl hlt⟩
      · rcases Nat.lt_succ_iff_lt_or_eq.mp hi with hi | rfl
        · exact Or.inl ⟨i, g, hg, htemplate, Or.inr ⟨heq, hi⟩⟩
        · cases hf.symm.trans hg
          exact Or.inr htemplate.symm
    · rintro (⟨i, g, hg, htemplate, hlt | ⟨heq, hi⟩⟩ | rfl)
      · exact ⟨i, g, hg, htemplate, Or.inl hlt⟩
      · exact ⟨i, g, hg, htemplate, Or.inr ⟨heq, Nat.lt_succ_of_lt hi⟩⟩
      · exact ⟨position, f, hf, rfl, Or.inr ⟨hversion, Nat.lt_succ_self position⟩⟩
  rw [identifiers_referenceOne]
  split
  · rename_i hmem
    refine ⟨fun template => ?_, h.ordered⟩
    rw [hseen]
    exact ⟨Or.inl, fun hor => hor.elim id fun heq => heq ▸ hmem⟩
  · rename_i hnew
    -- an earlier fragment of the template would have brought the identifier in before
    have hdebut : IsDebut fragments f.template version position := by
      refine ⟨⟨f, hf, rfl, hversion⟩, fun g hg htemplate => ?_, fun i hi g hg htemplate heq => ?_⟩
      · by_contra hlt
        obtain ⟨i, hi⟩ := List.mem_iff_getElem?.mp hg
        exact hnew ((h.mem_iff _).mpr ⟨i, g, hi, htemplate, Or.inl (Nat.not_le.mp hlt)⟩)
      · exact hnew ((h.mem_iff _).mpr ⟨i, g, hg, htemplate, Or.inr ⟨heq, hi⟩⟩)
    refine ⟨fun template => ?_,
      List.pairwise_append.mpr ⟨h.ordered, List.pairwise_singleton .., ?_⟩⟩
    · rw [hseen, List.mem_append, List.mem_singleton]
    · intro template hmem other hother
      obtain rfl := List.mem_singleton.mp hother
      exact h.debutsBefore hmem hdebut

/-- A fragment of another version changes nothing. -/
theorem ScheduledAt.skip {version position : Nat} {ids : List Text}
    (h : ScheduledAt fragments version position ids) {f : Fragment}
    (hf : fragments[position]? = some f) (hversion : f.version ≠ version) :
    ScheduledAt fragments version (position + 1) ids := by
  refine ⟨fun template => ?_, h.ordered⟩
  rw [h.mem_iff]
  constructor
  · rintro ⟨i, g, hg, htemplate, hlt | ⟨heq, hi⟩⟩
    · exact ⟨i, g, hg, htemplate, Or.inl hlt⟩
    · exact ⟨i, g, hg, htemplate, Or.inr ⟨heq, Nat.lt_succ_of_lt hi⟩⟩
  · rintro ⟨i, g, hg, htemplate, hlt | ⟨heq, hi⟩⟩
    · exact ⟨i, g, hg, htemplate, Or.inl hlt⟩
    · rcases Nat.lt_succ_iff_lt_or_eq.mp hi with hi | rfl
      · exact ⟨i, g, hg, htemplate, Or.inr ⟨heq, hi⟩⟩
      · cases hf.symm.trans hg
        exact absurd heq hversion

/-- From any position on, referencing the active fragments sees all that are left. -/
theorem ScheduledAt.reference {version position : Nat} {scopes : Scopes} {rest : List Fragment}
    (h : ScheduledAt fragments version position (identifiers scopes))
    (hrest : fragments.drop position = rest) :
    ScheduledAt fragments version fragments.length
      (identifiers (reference scopes (rest.filter fun f => f.version = version))) := by
  -- the position moves on with each fragment of the rest
  induction rest generalizing position scopes with
  | nil =>
    -- past the last fragment, all have been seen
    have hlength : fragments.length ≤ position := List.drop_eq_nil_iff.mp hrest
    refine ⟨fun template => ?_, h.ordered⟩
    rw [List.filter_nil]
    refine (h.mem_iff template).trans ⟨?_, ?_⟩
    · rintro ⟨i, f, hf, htemplate, hlt | ⟨heq, -⟩⟩
      · exact ⟨i, f, hf, htemplate, Or.inl hlt⟩
      · exact ⟨i, f, hf, htemplate, Or.inr ⟨heq, (List.getElem?_eq_some_iff.mp hf).1⟩⟩
    · rintro ⟨i, f, hf, htemplate, hlt | ⟨heq, hi⟩⟩
      · exact ⟨i, f, hf, htemplate, Or.inl hlt⟩
      · exact ⟨i, f, hf, htemplate, Or.inr ⟨heq, Nat.lt_of_lt_of_le hi hlength⟩⟩
  | cons f more ih =>
    have hf : fragments[position]? = some f := by
      rw [← List.head?_drop, hrest]
      rfl
    have hmore : fragments.drop (position + 1) = more := by
      rw [← List.tail_drop, hrest]
      rfl
    -- the filter passes a fragment of the version on, and the others are skipped
    by_cases hversion : f.version = version
    · rw [List.filter_cons_of_pos (by simpa using hversion), reference_cons]
      exact ih (h.step hf hversion) hmore
    · rw [List.filter_cons_of_neg (by simpa using hversion)]
      exact ih (h.skip hf hversion) hmore

/-- **Step.** Advancing by one version keeps the identifiers as they should be. -/
theorem Scheduled.advance {version : Nat} {scopes : Scopes}
    (h : Scheduled fragments version (identifiers scopes)) :
    Scheduled fragments (version + 1)
      (identifiers (advance scopes (fragments.filter fun f => f.version = version) version)) := by
  have hstart : ScheduledAt fragments version 0 (identifiers scopes) := by
    refine ⟨fun template => ?_, h.ordered⟩
    rw [h.mem_iff]
    constructor
    · rintro ⟨f, hf, htemplate, hlt⟩
      obtain ⟨i, hi⟩ := List.mem_iff_getElem?.mp hf
      exact ⟨i, f, hi, htemplate, Or.inl hlt⟩
    · rintro ⟨i, f, hf, htemplate, hlt | ⟨-, hi⟩⟩
      · exact ⟨f, List.mem_of_getElem? hf, htemplate, hlt⟩
      · exact absurd hi (Nat.not_lt_zero i)
  have hend := hstart.reference List.drop_zero
  -- advancing the scopes does not touch their identifiers
  rw [identifiers_advance]
  refine ⟨fun template => ?_, hend.ordered⟩
  rw [hend.mem_iff]
  constructor
  · rintro ⟨i, f, hf, htemplate, hseen⟩
    refine ⟨f, List.mem_of_getElem? hf, htemplate, ?_⟩
    rcases hseen with hlt | ⟨heq, -⟩ <;> omega
  · rintro ⟨f, hf, htemplate, hlt⟩
    obtain ⟨i, hi⟩ := List.mem_iff_getElem?.mp hf
    refine ⟨i, f, hi, htemplate, ?_⟩
    rcases Nat.lt_succ_iff_lt_or_eq.mp hlt with hlt | heq
    · exact Or.inl hlt
    · exact Or.inr ⟨heq, (List.getElem?_eq_some_iff.mp hi).1⟩

/-! ## The slots of a tour -/

/-- What a visit is scheduled for: a template and a version. -/
def Visit.slot (visit : Visit) : Text × Nat := (visit.identifier, visit.version)

/-- The order of the schedule: by versions, and at one version by the debuts of the templates. -/
def Earlier (fragments : List Fragment) (slot other : Text × Nat) : Prop :=
  slot.2 < other.2 ∨ slot.2 = other.2 ∧ DebutsBefore fragments slot.1 other.1

theorem nodup_of_earlier {slots : List (Text × Nat)} (h : slots.Pairwise (Earlier fragments)) :
    slots.Nodup := by
  refine h.imp ?_
  rintro slot _ (hlt | ⟨-, hbefore⟩) rfl
  · exact Nat.lt_irrefl _ hlt
  · exact not_debutsBefore_self _ hbefore

theorem slots_tourFrom {count version : Nat} {scopes : Scopes}
    (h : Scheduled fragments version (identifiers scopes)) :
    ((tourFrom fragments count version scopes).map Visit.slot).Pairwise (Earlier fragments) ∧
      ∀ template v, (template, v) ∈ (tourFrom fragments count version scopes).map Visit.slot ↔
        version ≤ v ∧ v < version + count ∧
          ∃ f ∈ fragments, f.template = template ∧ f.version ≤ v := by
  -- the tour goes on from the identifiers of the next version, which are scheduled again
  induction count generalizing version scopes with
  | zero =>
    refine ⟨List.Pairwise.nil, fun template v => ?_⟩
    simp only [tourFrom, List.map_nil, List.not_mem_nil, false_iff]
    omega
  | succ count ih =>
    have hnext := h.advance
    obtain ⟨hlater, hmem⟩ := ih hnext
    have hslots : (tourFrom fragments (count + 1) version scopes).map Visit.slot =
        (identifiers (Rendering.advance scopes (fragments.filter fun f => f.version = version)
          version)).map (fun template => (template, version)) ++
        (tourFrom fragments count (version + 1) (Rendering.advance scopes
          (fragments.filter fun f => f.version = version) version)).map Visit.slot := by
      rw [tourFrom, List.map_append, List.map_map, identifiers, List.map_map]
      rfl
    rw [hslots]
    constructor
    · refine List.pairwise_append.mpr ⟨?_, hlater, ?_⟩
      · rw [List.pairwise_map]
        exact hnext.ordered.imp fun hbefore => Or.inr ⟨rfl, hbefore⟩
      · rintro slot hslot ⟨template, v⟩ hother
        obtain ⟨first, -, rfl⟩ := List.mem_map.mp hslot
        exact Or.inl ((hmem template v).mp hother).1
    · -- a slot is of this version or of a later one
      intro template v
      rw [List.mem_append, hmem]
      have hhere : (template, v) ∈ (identifiers (Rendering.advance scopes
          (fragments.filter fun f => f.version = version) version)).map
            (fun template => (template, version)) ↔
          v = version ∧ ∃ f ∈ fragments, f.template = template ∧ f.version < version + 1 := by
        rw [← hnext.mem_iff, List.mem_map]
        constructor
        · rintro ⟨first, hfirst, heq⟩
          cases heq
          exact ⟨rfl, hfirst⟩
        · rintro ⟨rfl, hfirst⟩
          exact ⟨template, hfirst, rfl⟩
      rw [hhere]
      constructor
      · rintro (⟨rfl, f, hf, htemplate, hlt⟩ | ⟨hle, hlt, hf⟩)
        · exact ⟨Nat.le_refl _, by omega, f, hf, htemplate, Nat.le_of_lt_succ hlt⟩
        · exact ⟨by omega, by omega, hf⟩
      · rintro ⟨hle, hlt, f, hf, htemplate, hversion⟩
        rcases Nat.eq_or_lt_of_le hle with rfl | hgt
        · exact Or.inl ⟨rfl, f, hf, htemplate, Nat.lt_succ_of_le hversion⟩
        · exact Or.inr ⟨hgt, by omega, f, hf, htemplate, hversion⟩

/-! ## The range of versions -/

/-- Where there are fragments, there is a range. -/
theorem exists_versionRange (h : fragments ≠ []) :
    ∃ least greatest, versionRange fragments = some (least, greatest) := by
  have hne : fragments.map Fragment.version ≠ [] := fun he => h (List.map_eq_nil_iff.mp he)
  obtain ⟨least, hleast⟩ := Option.ne_none_iff_exists'.mp
    fun he : (fragments.map Fragment.version).min? = none => hne (List.min?_eq_none_iff.mp he)
  obtain ⟨greatest, hgreatest⟩ := Option.ne_none_iff_exists'.mp
    fun he : (fragments.map Fragment.version).max? = none => hne (List.max?_eq_none_iff.mp he)
  refine ⟨least, greatest, ?_⟩
  rw [versionRange, hleast, hgreatest]
  rfl

/-! ## The slots of a run -/

theorem slots_tour {least greatest : Nat} (h : versionRange fragments = some (least, greatest)) :
    ((tour fragments).map Visit.slot).Pairwise (Earlier fragments) ∧
      ∀ template version, (template, version) ∈ (tour fragments).map Visit.slot ↔
        least ≤ version ∧ version ≤ greatest ∧
          ∃ f ∈ fragments, f.template = template ∧ f.version ≤ version := by
  obtain ⟨-, ⟨f, hf, hgreatest⟩, hbetween⟩ := of_versionRange_eq_some h
  have hle := (hbetween f hf).1
  -- below the lowest version there is nothing
  have hstart : Scheduled fragments least (identifiers []) := by
    refine ⟨fun template => ⟨fun hmem => (List.not_mem_nil hmem).elim, ?_⟩, List.Pairwise.nil⟩
    rintro ⟨g, hg, -, hlt⟩
    exact absurd (hbetween g hg).1 (Nat.not_le.mpr hlt)
  have htour : tour fragments = tourFrom fragments (greatest - least + 1) least [] := by
    rw [tour, h]
  rw [htour]
  obtain ⟨hordered, hmem⟩ := slots_tourFrom hstart
  refine ⟨hordered, fun template version => ?_⟩
  rw [hmem]
  exact and_congr_right fun _ => and_congr_left fun _ => by omega

/-- A tour only visits templates of the fragments. -/
theorem exists_fragment_of_mem_tour {visit : Visit} (h : visit ∈ tour fragments) :
    ∃ f ∈ fragments, f.template = visit.identifier := by
  cases hrange : versionRange fragments with
  | none =>
    rw [tour, hrange] at h
    cases h
  | some range =>
    have hslot := ((slots_tour hrange).2 visit.identifier visit.version).mp (List.mem_map_of_mem h)
    obtain ⟨-, -, f, hf, htemplate, -⟩ := hslot
    exact ⟨f, hf, htemplate⟩

theorem identifier_mem_of_mem_tour {visit : Visit} (h : visit ∈ tour fragments) :
    visit.identifier ∈ fragments.map Fragment.template :=
  List.mem_map.mpr (exists_fragment_of_mem_tour h)

theorem earlier_tour (fragments : List Fragment) :
    ((tour fragments).map Visit.slot).Pairwise (Earlier fragments) := by
  cases hrange : versionRange fragments with
  | none =>
    rw [tour, hrange]
    exact List.Pairwise.nil
  | some range => exact (slots_tour hrange).1

theorem nodup_tour (fragments : List Fragment) : (tour fragments).Nodup :=
  (nodup_of_earlier (earlier_tour fragments)).of_map

/-- There is one faithful visit for each template and version. -/
theorem Visit.Faithful.unique {visit other : Visit} (h : visit.Faithful fragments)
    (h' : other.Faithful fragments) (hslot : visit.slot = other.slot) : visit = other := by
  obtain ⟨identifier, version, bindings, set⟩ := visit
  obtain ⟨identifier', version', bindings', set'⟩ := other
  obtain ⟨rfl, rfl⟩ := Prod.mk.inj hslot
  obtain rfl : set = set' := h.version_eq.trans h'.version_eq.symm
  obtain rfl : bindings = bindings' := h.ordered.eq_of_get? h'.ordered fun name =>
    (h.lookup name).trans (h'.lookup name).symm
  rfl

/-- A tour makes the faithful visits for all templates and versions that are to be visited. -/
theorem mem_tour_iff {least greatest : Nat}
    (hrange : versionRange fragments = some (least, greatest)) {visit : Visit} :
    visit ∈ tour fragments ↔
      (least ≤ visit.version ∧ visit.version ≤ greatest ∧
        ∃ f ∈ fragments, f.template = visit.identifier ∧ f.version ≤ visit.version) ∧
      visit.Faithful fragments := by
  rw [← (slots_tour hrange).2 visit.identifier visit.version]
  constructor
  · exact fun h => ⟨List.mem_map_of_mem h, faithful_of_mem_tour h⟩
  · rintro ⟨hslot, hfaithful⟩
    obtain ⟨other, hother, heq⟩ := List.mem_map.mp hslot
    rwa [hfaithful.unique (faithful_of_mem_tour hother) heq.symm]

/-! ## What a run records -/

/-- What a stop records that could choose among some names: a warning if there are several, and
then one file, or one error about a missing template. All of it carries the version. -/
def Stop.Records (directory : TemplateDirectory) (s : Stop) (names : List Text) : Prop :=
  let warning : List Diagnostic :=
    if 1 < names.length then
      [{ problem := .ambiguousTemplate s.visit.identifier names, version := some s.visit.version }]
    else []
  (∃ path file, directory.firstPath? names = some path ∧
    TemplateFile.ofPath path directory.suffix = .ok file ∧
    s.result.written =
      [⟨s.visit.identifier, s.visit.version, file.outputPath s.visit.version⟩] ∧
    s.result.diagnostics = warning) ∨
  (s.result.written = [] ∧
    s.result.diagnostics = warning ++ [{
      problem := .missingTemplate s.visit.identifier
        ((directory.firstPath? names).getD directory.root)
      version := some s.visit.version }])

theorem Stop.records (directory : TemplateDirectory) (renderer : Renderer) {s : Stop}
    (h : s.visit.render directory renderer s.before = (.ok s.result, s.after)) :
    ∃ names, directory.namesIn s.visit.identifier s.before.files s.before.here = .ok names ∧
      s.Records directory names := by
  obtain ⟨-, names, hnames, houtcome⟩ := outcome_of_render directory renderer h
  refine ⟨names, hnames, ?_⟩
  have hwarning : (TemplateDirectory.ambiguity s.visit.identifier names).map
      (Diagnostic.during s.visit.version) =
      if 1 < names.length then
        [{ problem := .ambiguousTemplate s.visit.identifier names,
           version := some s.visit.version }]
      else [] := by
    rw [TemplateDirectory.ambiguity]
    split <;> rfl
  -- the outcome tells the result of the stop, so that must be free for its cases
  generalize hresult : s.result = result at houtcome
  generalize s.after.files = files at houtcome
  unfold Stop.Records
  rw [← hwarning, hresult]
  cases houtcome with
  | missing =>
    refine Or.inr ⟨rfl, ?_⟩
    rw [List.map_append]
    rfl
  | wrote first named read rendered written => exact Or.inl ⟨_, _, first, named, rfl, rfl⟩

/-- **The schedule of a run.** A run that ends well tells the range of versions from the lowest to
the highest. It makes one stop for every version in this range and every template with a fragment at
this version or a lower one, none twice, in the order of versions and then of debuts. Its files and
its diagnostics are those of the stops, in this order, and each stop records one file or one error
about a missing template, after a warning exactly if there were several files to choose from. -/
theorem recorded_as_scheduled (nonempty : fragments ≠ []) (directory : TemplateDirectory)
    (renderer : Renderer) {world after : World} {result : Rendering}
    (h : renderFragments fragments directory renderer world = (.ok result, after)) :
    ∃ least greatest, result.versions = some (least, greatest) ∧
      (∃ f ∈ fragments, f.version = least) ∧ (∃ f ∈ fragments, f.version = greatest) ∧
      (∀ f ∈ fragments, least ≤ f.version ∧ f.version ≤ greatest) ∧
      let made := stops directory renderer (tour fragments) world
      (∀ template version, (template, version) ∈ made.map (fun s => s.visit.slot) ↔
        least ≤ version ∧ version ≤ greatest ∧
          ∃ f ∈ fragments, f.template = template ∧ f.version ≤ version) ∧
      (made.map fun s => s.visit.slot).Pairwise (Earlier fragments) ∧
      (made.map fun s => s.visit.slot).Nodup ∧
      result.written = made.flatMap (·.result.written) ∧
      result.diagnostics = made.flatMap (·.result.diagnostics) ∧
      ∀ s ∈ made, ∃ names,
        directory.namesIn s.visit.identifier s.before.files s.before.here = .ok names ∧
          s.Records directory names := by
  obtain ⟨least, greatest, hrange⟩ := exists_versionRange nonempty
  obtain ⟨hleast, hgreatest, hbetween⟩ := of_versionRange_eq_some hrange
  obtain ⟨hfollow, hversions⟩ := result_of_renderFragments directory renderer h
  obtain ⟨hvisits, hwritten, hdiagnostics⟩ := result_of_follow directory renderer hfollow
  -- the slots of the stops are those of the tour
  have hslots : (stops directory renderer (tour fragments) world).map (fun s => s.visit.slot) =
      (tour fragments).map Visit.slot := by
    conv_rhs => rw [← hvisits, List.map_map]
    rfl
  obtain ⟨hordered, hmem⟩ := slots_tour hrange
  rw [← hslots] at hordered hmem
  exact ⟨least, greatest, hversions.trans hrange, hleast, hgreatest, hbetween, hmem, hordered,
    nodup_of_earlier hordered, hwritten, hdiagnostics, fun s hs =>
      s.records directory renderer (of_mem_stops directory renderer hs).2.2⟩

/-- Three templates, of which one has its debut at the last version although its fragment stands
first, and one is missing. No fragment has the version between. -/
def lateFragments : List Fragment :=
  [⟨[['z', '\n']], ['a'], ['q', '.', 'c', '.', 'j'], 3, 1, ['f']⟩,
    ⟨[['x', '\n']], ['a'], ['p', '.', 'c', '.', 'j'], 1, 3, ['f']⟩,
    ⟨[['y', '\n']], ['a'], ['m', '.', 'j'], 1, 5, ['f']⟩,
    ⟨[['w', '\n']], ['b'], ['p', '.', 'c', '.', 'j'], 3, 7, ['f']⟩]

/-- A directory with two of the templates. -/
def lateWorld : World where
  files := ⟨[([['d']], .directory), ([['d'], ['p', '.', 'c', '.', 'j']], .file (.text ['s'])),
    ([['d'], ['q', '.', 'c', '.', 'j']], .file (.text ['t']))]⟩
  here := []

/-- At the last version the template of the lowest versions comes first, and the missing one is
reported at every version. -/
theorem recorded_as_scheduled_at_late_debut :
    ∃ result after,
      renderFragments lateFragments ⟨['d'], ['j']⟩ showScope lateWorld = (.ok result, after) ∧
      result.written.map (fun r => (r.template.take 1, r.version)) =
        [(['p'], 1), (['p'], 2), (['p'], 3), (['q'], 3)] ∧
      result.diagnostics.map Diagnostic.version = [some 1, some 2, some 3] ∧
      ∃ least greatest, result.versions = some (least, greatest) ∧
        ∀ template version, (template, version) ∈
            (stops ⟨['d'], ['j']⟩ showScope (tour lateFragments) lateWorld).map
              (fun s => s.visit.slot) ↔
          least ≤ version ∧ version ≤ greatest ∧
            ∃ f ∈ lateFragments, f.template = template ∧ f.version ≤ version := by
  have hrun : ((renderFragments lateFragments ⟨['d'], ['j']⟩ showScope lateWorld).1.toOption.map
      fun result => (result.written.map (fun r => (r.template.take 1, r.version)),
        result.diagnostics.map Diagnostic.version)) =
      some ([(['p'], 1), (['p'], 2), (['p'], 3), (['q'], 3)], [some 1, some 2, some 3]) := by
    decide +kernel
  cases h : renderFragments lateFragments ⟨['d'], ['j']⟩ showScope lateWorld with
  | mk ending after =>
    rw [h] at hrun
    cases ending with
    | error fault => cases hrun
    | ok result =>
      obtain ⟨hwritten, hdiagnostics⟩ := Prod.mk.inj (Option.some.inj hrun)
      obtain ⟨least, greatest, hversions, -, -, -, hmem, -⟩ :=
        recorded_as_scheduled (by decide) ⟨['d'], ['j']⟩ showScope h
      exact ⟨result, after, rfl, hwritten, hdiagnostics, least, greatest, hversions, hmem⟩

end Rendering

end Tangle
