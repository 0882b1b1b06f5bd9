import Tangle.Proofs.OutputNames

/-!
# Names of templates

A path leads to a template if its last name is written as a stem, an extension and the suffix, with
dots between them. A name can be read so in one way at most, whatever dots the stem and the suffix
have, since an extension has none. The outputs of a template have its path, but for the last name.
-/

namespace Tangle.TemplateFile

/-- The way in which the name of a template is written. -/
structure IsWritten (suffix name stem extension : Text) : Prop where
  name_eq : name = stem ++ '.' :: extension ++ '.' :: suffix
  extension_ne_nil : extension ≠ []
  extension_parts : ∀ c ∈ extension, isExtensionPart c = true

section Names

variable {suffix name stem extension : Text}

theorem isWritten_iff :
    IsWritten suffix name stem extension ↔ parts? suffix name = some (stem, extension) := by
  rw [parts?_eq_some_iff]
  constructor
  · rintro ⟨hname, hne, hparts⟩
    exact ⟨hname, hne, hparts⟩
  · rintro ⟨hname, hne, hparts⟩
    exact ⟨hname, hne, hparts⟩

/-- A name is written in one way. -/
theorem IsWritten.unique (h : IsWritten suffix name stem extension) {stem' extension' : Text} :
    IsWritten suffix name stem' extension' ↔ stem' = stem ∧ extension' = extension := by
  constructor
  · intro h'
    have hparts := (isWritten_iff.mp h').symm.trans (isWritten_iff.mp h)
    exact Prod.mk.inj (Option.some.inj hparts)
  · rintro ⟨rfl, rfl⟩
    exact h

end Names

section Paths

variable {path suffix name : Text}

/-- The parts of the name are those of the file. -/
theorem ofPath_eq_ok_iff_isWritten (hname : Path.fileName? path = some name)
    {file : TemplateFile} :
    ofPath path suffix = .ok file ↔
      file.path = path ∧ IsWritten suffix name file.stem file.extension := by
  rw [ofPath_eq_ok_iff, hname]
  constructor
  · rintro ⟨hpath, hfull, hextension⟩
    exact ⟨hpath, Option.some.inj hfull, hextension.1, hextension.2⟩
  · rintro ⟨hpath, hwritten⟩
    exact ⟨hpath, congrArg some hwritten.name_eq, hwritten.extension_ne_nil,
      hwritten.extension_parts⟩

theorem exists_ofPath_eq_ok_iff (hname : Path.fileName? path = some name) :
    (∃ file, ofPath path suffix = .ok file) ↔
      ∃ stem extension, IsWritten suffix name stem extension := by
  constructor
  · rintro ⟨file, hfile⟩
    exact ⟨_, _, ((ofPath_eq_ok_iff_isWritten hname).mp hfile).2⟩
  · rintro ⟨stem, extension, hwritten⟩
    exact ⟨⟨path, stem, extension⟩, (ofPath_eq_ok_iff_isWritten hname).mpr ⟨rfl, hwritten⟩⟩

/-- What is taken for no template is reported with the path and the suffix. -/
theorem ofPath_eq_error (h : ¬ ∃ file, ofPath path suffix = .ok file) :
    ofPath path suffix = .error (.invalidTemplateExtension path suffix) := by
  unfold ofPath at h ⊢
  split
  · rename_i stem extension hparts
    rw [hparts] at h
    exact absurd ⟨_, rfl⟩ h
  · rfl

theorem not_ofPath_eq_ok (hnone : Path.fileName? path = none) :
    ¬ ∃ file, ofPath path suffix = .ok file := by
  rintro ⟨file, hfile⟩
  obtain ⟨-, hname, -⟩ := ofPath_eq_ok_iff.mp hfile
  rw [hnone] at hname
  cases hname

end Paths

/-- **A path leads to a template exactly if its last name is written as one.** The last of the names
of a path counts as its last name unless it is two dots. The stem and the extension are then those
of the only way in which the name is written, and at every version the output has the path of the
template with the stem, a hyphen, the version and the extension as its last name. Any other path is
reported, and so is one without a last name. -/
theorem ofPath_reads (path suffix : Text) :
    ((¬ ∃ folder name, Path.names path = folder ++ [name] ∧ name ≠ ['.', '.']) →
      ofPath path suffix = .error (.invalidTemplateExtension path suffix)) ∧
    ∀ folder name, Path.names path = folder ++ [name] → name ≠ ['.', '.'] →
      ((∃ file, ofPath path suffix = .ok file) ↔
        ∃ stem extension, IsWritten suffix name stem extension) ∧
      ((¬ ∃ stem extension, IsWritten suffix name stem extension) →
        ofPath path suffix = .error (.invalidTemplateExtension path suffix)) ∧
      ∀ file, ofPath path suffix = .ok file →
        file.path = path ∧
        (∀ stem extension, IsWritten suffix name stem extension ↔
          stem = file.stem ∧ extension = file.extension) ∧
        ∀ version, Path.head (file.outputPath version) = Path.head path ∧
          Path.names (file.outputPath version) =
            folder ++ [file.stem ++ '-' :: Text.ofNat version ++ '.' :: file.extension] := by
  constructor
  · intro hnone
    apply ofPath_eq_error
    apply not_ofPath_eq_ok
    apply Option.eq_none_iff_forall_ne_some.mpr
    intro name hname
    obtain ⟨hdots, folder, hnames⟩ := Path.fileName?_eq_some_iff.mp hname
    exact hnone ⟨folder, name, hnames, hdots⟩
  · intro folder name hnames hdots
    have hname : Path.fileName? path = some name :=
      Path.fileName?_eq_some_iff.mpr ⟨hdots, folder, hnames⟩
    refine ⟨exists_ofPath_eq_ok_iff hname, ?_, ?_⟩
    · intro hwritten
      exact ofPath_eq_error (mt (exists_ofPath_eq_ok_iff hname).mp hwritten)
    · intro file hfile
      obtain ⟨hpath, hwritten⟩ := (ofPath_eq_ok_iff_isWritten hname).mp hfile
      refine ⟨hpath, fun stem extension => hwritten.unique, ?_⟩
      -- the folder of the output is that of the template
      obtain ⟨folder', hnames', houtput⟩ := exists_folder hfile
      rw [hnames] at hnames'
      obtain ⟨rfl, -⟩ := List.append_inj' hnames' rfl
      exact houtput

/-- A stem that ends in a dot, and an extension like the suffix. -/
theorem ofPath_reads_at_doubled_dot :
    (∃ file, ofPath ['t', '/', 'a', '.', '.', 'j', '.', 'j'] ['j'] = .ok file ∧
      (∀ stem extension,
        IsWritten ['j'] ['a', '.', '.', 'j', '.', 'j'] stem extension ↔
          stem = file.stem ∧ extension = file.extension) ∧
      ∀ version, Path.names (file.outputPath version) =
        [['t'], ['a', '.', '-'] ++ Text.ofNat version ++ ['.', 'j']]) ∧
    ofPath ['t', '/', '.', '.'] ['j'] =
      .error (.invalidTemplateExtension ['t', '/', '.', '.'] ['j']) := by
  have hwritten : IsWritten ['j'] ['a', '.', '.', 'j', '.', 'j'] ['a', '.'] ['j'] :=
    ⟨rfl, by decide, List.forall_mem_singleton.mpr (by decide)⟩
  constructor
  · obtain ⟨hiff, -, hfile⟩ :=
      (ofPath_reads ['t', '/', 'a', '.', '.', 'j', '.', 'j'] ['j']).2 [['t']] _ rfl (by decide)
    obtain ⟨file, hok⟩ := hiff.mpr ⟨_, _, hwritten⟩
    obtain ⟨-, hunique, houtput⟩ := hfile file hok
    obtain ⟨hstem, hextension⟩ := (hunique _ _).mp hwritten
    refine ⟨file, hok, hunique, ?_⟩
    intro version
    rw [(houtput version).2, ← hstem, ← hextension]
    rfl
  · apply (ofPath_reads ['t', '/', '.', '.'] ['j']).1
    rintro ⟨folder, name, hnames, hdots⟩
    have htwo : [['t']] ++ [['.', '.']] = folder ++ [name] := hnames
    obtain ⟨-, hlast⟩ := List.append_inj' htwo rfl
    exact hdots (List.singleton_inj.mp hlast).symm

/-- The stem can be empty, and the suffix as well, but not the extension. -/
example :
    ofPath ['.', 'c', '.'] [] = .ok ⟨['.', 'c', '.'], [], ['c']⟩ ∧
      ofPath ['a', '.', '.', 'j'] ['j'] =
        .error (.invalidTemplateExtension ['a', '.', '.', 'j'] ['j']) :=
  ⟨rfl, rfl⟩

end Tangle.TemplateFile
