import Tangle.Proofs.Template

/-!
# Names of outputs

An output lies beside its template. Its path tells the template and the version, so that no two
outputs meet. With a suffix that has no dot, no output can be taken for a template either: before
the last dot of a template's name stands an extension, and before that of an output's name a hyphen
and digits.
-/

namespace Tangle.TemplateFile

variable {path path' suffix : Text} {file file' : TemplateFile}

/-! ## Paths -/

/-- The paths of a template and of its outputs differ in the last name alone. -/
theorem exists_folder (h : ofPath path suffix = .ok file) :
    ∃ folder, Path.names path = folder ++ [file.fullName suffix] ∧
      ∀ version, Path.head (file.outputPath version) = Path.head path ∧
        Path.names (file.outputPath version) = folder ++ [file.outputName version] := by
  obtain ⟨hpath, hfileName, -⟩ := of_ofPath_eq_ok h
  obtain ⟨hname, base, hbase, hhead, hnames, -⟩ := Path.exists_parent hfileName
  refine ⟨Path.names base, hnames, ?_⟩
  intro version
  have houtput : file.outputPath version = Path.join base (file.outputName version) := by
    rw [outputPath, hpath, hbase]
  have hisName := isName_outputName hname.slash version
  rw [houtput, Path.head_join base hisName, Path.names_join base hisName]
  exact ⟨hhead, rfl⟩

/-- The path of an output tells the path of its template and the version. -/
theorem same_outputPath_iff (h : ofPath path suffix = .ok file)
    (h' : ofPath path' suffix = .ok file') {version version' : Nat} :
    Path.Same (file.outputPath version) (file'.outputPath version') ↔
      Path.Same path path' ∧ version = version' := by
  obtain ⟨folder, hnames, houtput⟩ := exists_folder h
  obtain ⟨folder', hnames', houtput'⟩ := exists_folder h'
  obtain ⟨-, -, hdot⟩ := of_ofPath_eq_ok h
  obtain ⟨-, -, hdot'⟩ := of_ofPath_eq_ok h'
  unfold Path.Same
  rw [(houtput version).1, (houtput version).2, (houtput' version').1, (houtput' version').2,
    append_outputName_eq_iff hdot hdot' suffix, hnames, hnames']
  constructor
  · rintro ⟨hhead, hversion, hfolder⟩
    exact ⟨⟨hhead, hfolder⟩, hversion⟩
  · rintro ⟨⟨hhead, hfolder⟩, hversion⟩
    exact ⟨hhead, hversion, hfolder⟩

/-- Where both templates are files, this is so for the places that the paths lead to. -/
theorem samePlace_outputPath (h : ofPath path suffix = .ok file)
    (h' : ofPath path' suffix = .ok file') {tree : FileTree} {here : Location}
    (hisFile : tree.isFile here path = true) (hisFile' : tree.isFile here path' = true)
    {version version' : Nat}
    (hsame : tree.SamePlace here (file.outputPath version) (file'.outputPath version')) :
    tree.SamePlace here path path' ∧ version = version' := by
  obtain ⟨contents, hfind⟩ := FileTree.isFile_eq_true_iff.mp hisFile
  obtain ⟨contents', hfind'⟩ := FileTree.isFile_eq_true_iff.mp hisFile'
  obtain ⟨folder, hlies⟩ := exists_liesIn hfind h
  obtain ⟨folder', hlies'⟩ := exists_liesIn hfind' h'
  obtain ⟨-, -, hdot⟩ := of_ofPath_eq_ok h
  obtain ⟨-, -, hdot'⟩ := of_ofPath_eq_ok h'
  obtain ⟨location, hlocate, hlocate'⟩ := hsame
  obtain ⟨hname, -⟩ := hlies.of_locate_outputPath hlocate
  obtain ⟨hname', -⟩ := hlies'.of_locate_outputPath hlocate'
  obtain ⟨hversion, hfolder⟩ :=
    (append_outputName_eq_iff hdot hdot' suffix).mp (hname.symm.trans hname')
  refine ⟨?_, hversion⟩
  exact (FileTree.samePlace_iff_eq hlies.locate hlies'.locate).mpr hfolder

/-! ## Outputs and templates -/

section Dotless

variable (hsuffix : '.' ∉ suffix) (version : Nat)

include hsuffix

/-- A name put together from other parts is never that of an output. -/
theorem outputName_ne (hfile : '.' ∉ file.extension) {stem extension : Text}
    (hextension : ∀ c ∈ extension, isExtensionPart c = true) :
    file.outputName version ≠ stem ++ '.' :: extension ++ '.' :: suffix := by
  intro heq
  obtain ⟨hfront, -⟩ := Text.append_cons_inj_of_notMem hfile hsuffix heq
  -- the hyphen would stand in the extension, or the dot in the version
  rcases Text.mem_or_mem_of_append_cons_eq (by decide) hfront with hmem | hmem
  · exact Text.notMem_ofNat (by decide) version hmem
  · have hhyphen := hextension '-' hmem
    revert hhyphen
    decide

theorem parts?_outputName (hfile : '.' ∉ file.extension) :
    parts? suffix (file.outputName version) = none := by
  cases hparts : parts? suffix (file.outputName version) with
  | none => rfl
  | some parts =>
    obtain ⟨stem, extension⟩ := parts
    obtain ⟨heq, -, hextension⟩ := parts?_eq_some_iff.mp hparts
    exact absurd heq (outputName_ne hsuffix version hfile hextension)

/-- No output is taken for a template. -/
theorem ofPath_outputPath (h : ofPath path suffix = .ok file) :
    ofPath (file.outputPath version) suffix =
      .error (.invalidTemplateExtension (file.outputPath version) suffix) := by
  obtain ⟨-, hfileName, hdot⟩ := of_ofPath_eq_ok h
  obtain ⟨hname, -⟩ := Path.exists_parent hfileName
  rw [ofPath, fileName?_outputPath hname.slash version, Option.bind_some,
    parts?_outputName hsuffix version hdot]

/-- No output has the path of a template. -/
theorem not_same_outputPath (h : ofPath path suffix = .ok file)
    (h' : ofPath path' suffix = .ok file') : ¬ Path.Same (file.outputPath version) path' := by
  rintro ⟨-, hnames⟩
  obtain ⟨folder, -, houtput⟩ := exists_folder h
  obtain ⟨folder', hnames', -⟩ := exists_folder h'
  obtain ⟨-, -, hdot⟩ := of_ofPath_eq_ok h
  obtain ⟨-, -, -, hextension'⟩ := ofPath_eq_ok_iff.mp h'
  rw [(houtput version).2, hnames'] at hnames
  obtain ⟨-, hlast⟩ := List.append_inj' hnames rfl
  exact outputName_ne hsuffix version hdot hextension' (List.singleton_inj.mp hlast)

/-- No output comes to lie where a template is. -/
theorem not_samePlace_outputPath (h : ofPath path suffix = .ok file)
    (h' : ofPath path' suffix = .ok file') {tree : FileTree} {here : Location}
    (hisFile : tree.isFile here path' = true) :
    ¬ tree.SamePlace here (file.outputPath version) path' := by
  rintro ⟨location, hlocate, hlocate'⟩
  obtain ⟨-, hfileName, hdot⟩ := of_ofPath_eq_ok h
  obtain ⟨-, hfileName', -, hextension'⟩ := ofPath_eq_ok_iff.mp h'
  obtain ⟨hname, -⟩ := Path.exists_parent hfileName
  obtain ⟨contents, hfind'⟩ := FileTree.isFile_eq_true_iff.mp hisFile
  -- the path of the output would lead to the same file
  have hfind : tree.find here (file.outputPath version) = .ok (.file contents) := by
    obtain ⟨place, hplace, hnode⟩ := FileTree.find_eq_ok_iff.mp hfind'
    cases hlocate'.symm.trans hplace
    exact FileTree.find_eq_ok_iff.mpr ⟨location, hlocate, hnode⟩
  obtain ⟨folder, hfolder⟩ :=
    FileTree.exists_folder_of_find hfind (fileName?_outputPath hname.slash version)
  obtain ⟨folder', hfolder'⟩ := FileTree.exists_folder_of_find hfind' hfileName'
  have heq : folder ++ [file.outputName version] = folder' ++ [file'.fullName suffix] := by
    rw [← Except.ok.inj (hlocate.symm.trans hfolder),
      ← Except.ok.inj (hlocate'.symm.trans hfolder')]
  obtain ⟨-, hlast⟩ := List.append_inj' heq rfl
  exact outputName_ne hsuffix version hdot hextension' (List.singleton_inj.mp hlast)

end Dotless

/-- **Outputs meet neither each other nor templates.** Two outputs have the same path only if they
are made from the same template at the same version, and come to lie at the same place only then.
With a suffix that has no dot, no output is taken for a template or lies where one is. -/
theorem outputs_apart (h : ofPath path suffix = .ok file) (h' : ofPath path' suffix = .ok file') :
    (∀ version version', Path.Same (file.outputPath version) (file'.outputPath version') ↔
      Path.Same path path' ∧ version = version') ∧
    (∀ (tree : FileTree) (here : Location),
      tree.isFile here path = true → tree.isFile here path' = true →
      ∀ version version',
        tree.SamePlace here (file.outputPath version) (file'.outputPath version') →
        tree.SamePlace here path path' ∧ version = version') ∧
    ('.' ∉ suffix → ∀ version,
      ofPath (file.outputPath version) suffix =
        .error (.invalidTemplateExtension (file.outputPath version) suffix) ∧
      ¬ Path.Same (file.outputPath version) path' ∧
      ∀ (tree : FileTree) (here : Location), tree.isFile here path' = true →
        ¬ tree.SamePlace here (file.outputPath version) path') := by
  refine ⟨?_, ?_, ?_⟩
  · intro version version'
    exact same_outputPath_iff h h'
  · intro tree here hisFile hisFile' version version' hsame
    exact samePlace_outputPath h h' hisFile hisFile' hsame
  · intro hsuffix version
    refine ⟨ofPath_outputPath hsuffix version h, not_same_outputPath hsuffix version h h', ?_⟩
    intro tree here hisFile
    exact not_samePlace_outputPath hsuffix version h h' hisFile

/-- A template whose stem ends like that of an output. -/
def hyphenated : TemplateFile :=
  ⟨['d', '/', 'a', '-', '1', '.', 'c', '.', 'j'], ['a', '-', '1'], ['c']⟩

/-- The template with this output. -/
def unhyphenated : TemplateFile := ⟨['d', '/', 'a', '.', 'c', '.', 'j'], ['a'], ['c']⟩

/-- A directory with both. -/
def shelf : FileTree :=
  ⟨[([['d']], .directory), ([['d'], ['a', '-', '1', '.', 'c', '.', 'j']], .file (.text [])),
    ([['d'], ['a', '.', 'c', '.', 'j']], .file (.text []))]⟩

theorem outputs_apart_at_hyphens :
    ofPath hyphenated.path ['j'] = .ok hyphenated ∧
    ofPath unhyphenated.path ['j'] = .ok unhyphenated ∧
    ∀ version, (∀ version',
        ¬ Path.Same (hyphenated.outputPath version) (unhyphenated.outputPath version') ∧
        ¬ shelf.SamePlace [] (hyphenated.outputPath version) (unhyphenated.outputPath version')) ∧
      ofPath (hyphenated.outputPath version) ['j'] =
        .error (.invalidTemplateExtension (hyphenated.outputPath version) ['j']) ∧
      ¬ shelf.SamePlace [] (hyphenated.outputPath version) unhyphenated.path := by
  have h : ofPath hyphenated.path ['j'] = .ok hyphenated := rfl
  have h' : ofPath unhyphenated.path ['j'] = .ok unhyphenated := rfl
  have hisFile : shelf.isFile [] hyphenated.path = true := by decide
  have hisFile' : shelf.isFile [] unhyphenated.path = true := by decide
  obtain ⟨hpaths, hplaces, htemplates⟩ := outputs_apart h h'
  refine ⟨h, h', ?_⟩
  intro version
  obtain ⟨herror, -, hapart⟩ := htemplates (by decide) version
  refine ⟨?_, herror, hapart shelf [] hisFile'⟩
  intro version'
  constructor
  · intro hsame
    have hpath := ((hpaths version version').mp hsame).1
    revert hpath
    decide
  · intro hsame
    have hplace := (hplaces shelf [] hisFile hisFile' version version' hsame).1
    revert hplace
    decide

/-- With dots in the suffix an output can be a template: `x.y.b.c.b-1.c` renders to
`x.y.b-1.c`. -/
example :
    let suffix : Text := ['b', '-', '1', '.', 'c']
    let file : TemplateFile :=
      ⟨['x', '.', 'y', '.', 'b', '.', 'c', '.'] ++ suffix, ['x', '.', 'y', '.', 'b'], ['c']⟩
    ofPath file.path suffix = .ok file ∧
      ofPath (file.outputPath 1) suffix = .ok ⟨file.outputPath 1, ['x'], ['y']⟩ :=
  ⟨rfl, rfl⟩

end Tangle.TemplateFile
