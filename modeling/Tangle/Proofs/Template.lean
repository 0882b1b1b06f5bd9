import Tangle.Proofs.Glob
import Tangle.Proofs.Places
import Tangle.Proofs.Run
import Tangle.Template.Directory
import Tangle.Template.File

/-!
# Template files and their outputs

The name of a template file consists of its stem, its extension and the suffix, and an output has
the stem, the version and the extension. Both are taken apart in one way only: an output tells which
template and which version it was made from. An output comes to lie in the directory of its
template.

Looking a template up asks a file tree two things: which names an identifier can stand for, and
whether the first of them is a file.
-/

namespace Tangle

namespace TemplateFile

/-! ## Names -/

/-- The name of a template file, put together from its parts. -/
def fullName (file : TemplateFile) (suffix : Text) : Text :=
  file.stem ++ '.' :: file.extension ++ '.' :: suffix

theorem dot_notMem_of_isExtensionPart {text : Text} (h : ∀ c ∈ text, isExtensionPart c = true) :
    '.' ∉ text := by
  intro hmem
  have hdot : isExtensionPart '.' = false := by decide
  rw [h '.' hmem] at hdot
  cases hdot

/-- A name is taken apart into the parts that it is put together from. -/
theorem parts?_eq_some_iff {suffix name stem extension : Text} :
    parts? suffix name = some (stem, extension) ↔
      name = stem ++ '.' :: extension ++ '.' :: suffix ∧ extension ≠ [] ∧
        ∀ c ∈ extension, isExtensionPart c = true := by
  constructor
  · intro h
    obtain ⟨dotted, hdotted, h⟩ := Option.bind_eq_some_iff.mp h
    obtain ⟨both, hboth, h⟩ := Option.bind_eq_some_iff.mp h
    obtain ⟨⟨first, second⟩, hsplit, h⟩ := Option.bind_eq_some_iff.mp h
    dsimp only at h
    split at h
    · rename_i hextension
      obtain ⟨rfl, rfl⟩ := Prod.mk.inj (Option.some.inj h)
      obtain ⟨hbothEq, -⟩ := Text.of_splitLast?_eq_some hsplit
      refine ⟨?_, ?_⟩
      · rw [Text.beforeEnd?_eq_some_iff.mp hdotted, Text.beforeEnd?_eq_some_iff.mp hboth, hbothEq]
        simp
      · simpa using hextension
    · cases h
  · rintro ⟨rfl, hne, hall⟩
    have hdotted : Text.beforeEnd? (stem ++ '.' :: extension ++ '.' :: suffix) suffix =
        some (stem ++ '.' :: extension ++ ['.']) := by
      apply Text.beforeEnd?_eq_some_iff.mpr
      simp
    -- the extension has no dot, so that the last one stands before it
    have hsplit := Text.splitLast?_append stem (dot_notMem_of_isExtensionPart hall)
    have hextension : (!extension.isEmpty && extension.all isExtensionPart) = true := by
      simpa using ⟨hne, hall⟩
    unfold parts?
    simp only [hdotted, Text.beforeEnd?_append, hsplit, Option.bind_eq_bind, Option.bind_some,
      hextension, if_true]

/-- A path is taken apart to a template file exactly if its last name is that of the file. -/
theorem ofPath_eq_ok_iff {path suffix : Text} {file : TemplateFile} :
    ofPath path suffix = .ok file ↔
      file.path = path ∧ Path.fileName? path = some (file.fullName suffix) ∧
        file.extension ≠ [] ∧ ∀ c ∈ file.extension, isExtensionPart c = true := by
  unfold ofPath
  constructor
  · intro h
    split at h
    · rename_i stem extension hparts
      cases h
      obtain ⟨name, hname, hparts⟩ := Option.bind_eq_some_iff.mp hparts
      obtain ⟨rfl, hextension⟩ := parts?_eq_some_iff.mp hparts
      exact ⟨rfl, hname, hextension⟩
    · cases h
  · rintro ⟨rfl, hname, hextension⟩
    have hparts : parts? suffix (file.fullName suffix) = some (file.stem, file.extension) :=
      parts?_eq_some_iff.mpr ⟨rfl, hextension⟩
    rw [hname, Option.bind_some, hparts]

theorem of_ofPath_eq_ok {path suffix : Text} {file : TemplateFile}
    (h : ofPath path suffix = .ok file) :
    file.path = path ∧ Path.fileName? path = some (file.fullName suffix) ∧
      '.' ∉ file.extension := by
  obtain ⟨hpath, hname, -, hall⟩ := ofPath_eq_ok_iff.mp h
  exact ⟨hpath, hname, dot_notMem_of_isExtensionPart hall⟩

/-- With one suffix, a full name is taken apart in one way. -/
theorem fullName_inj {file other : TemplateFile} (hfile : '.' ∉ file.extension)
    (hother : '.' ∉ other.extension) {suffix : Text}
    (h : file.fullName suffix = other.fullName suffix) :
    file.stem = other.stem ∧ file.extension = other.extension :=
  Text.append_cons_inj_of_notMem hfile hother (List.append_cancel_right h)

/-- An output tells its template and its version. -/
theorem outputName_inj {file other : TemplateFile} (hfile : '.' ∉ file.extension)
    (hother : '.' ∉ other.extension) {version version' : Nat}
    (h : file.outputName version = other.outputName version') :
    file.stem = other.stem ∧ file.extension = other.extension ∧ version = version' := by
  obtain ⟨hfront, hextension⟩ := Text.append_cons_inj_of_notMem hfile hother h
  -- a number is written without a hyphen, so the last one stands behind the stem
  have hhyphen (n : Nat) : '-' ∉ Text.ofNat n := Text.notMem_ofNat (by decide) n
  obtain ⟨hstem, hversion⟩ :=
    Text.append_cons_inj_of_notMem (hhyphen version) (hhyphen version') hfront
  exact ⟨hstem, hextension, Text.ofNat_injective hversion⟩

/-- Outputs are the same exactly if the templates beside them are and the versions are. -/
theorem append_outputName_eq_iff {file other : TemplateFile} (hfile : '.' ∉ file.extension)
    (hother : '.' ∉ other.extension) (suffix : Text) {folder folder' : List Text}
    {version version' : Nat} :
    folder ++ [file.outputName version] = folder' ++ [other.outputName version'] ↔
      version = version' ∧
        folder ++ [file.fullName suffix] = folder' ++ [other.fullName suffix] := by
  constructor
  · intro h
    obtain ⟨hfolder, hname⟩ := List.append_inj' h rfl
    obtain ⟨hstem, hextension, hversion⟩ :=
      outputName_inj hfile hother (List.singleton_inj.mp hname)
    refine ⟨hversion, ?_⟩
    rw [hfolder, fullName, hstem, hextension]
    rfl
  · rintro ⟨hversion, h⟩
    obtain ⟨hfolder, hname⟩ := List.append_inj' h rfl
    obtain ⟨hstem, hextension⟩ := fullName_inj hfile hother (List.singleton_inj.mp hname)
    rw [hfolder, outputName, hstem, hextension, hversion]
    rfl

/-- An output has no character but those of its template, digits, hyphens and dots. -/
theorem mem_outputName {file : TemplateFile} {version : Nat} {c : Char}
    (h : c ∈ file.outputName version) (suffix : Text) :
    c ∈ file.fullName suffix ∨ isDigit c = true ∨ c = '-' := by
  unfold outputName at h
  unfold fullName
  simp only [List.mem_append, List.mem_cons] at h ⊢
  rcases h with (h | h | h) | h | h
  · exact Or.inl (Or.inl (Or.inl h))
  · exact Or.inr (Or.inr h)
  · exact Or.inr (Or.inl (Text.isDigit_of_mem_ofNat h))
  · exact Or.inl (Or.inl (Or.inr (Or.inl h)))
  · exact Or.inl (Or.inl (Or.inr (Or.inr h)))

theorem notMem_outputName {file : TemplateFile} {suffix : Text} {c : Char}
    (h : c ∉ file.fullName suffix) (hdigit : isDigit c = false) (hhyphen : c ≠ '-')
    (version : Nat) : c ∉ file.outputName version := by
  intro hmem
  rcases mem_outputName hmem suffix with hmem | hmem | hmem
  · exact h hmem
  · rw [hdigit] at hmem
    cases hmem
  · exact hhyphen hmem

theorem isName_outputName {file : TemplateFile} {suffix : Text}
    (h : '/' ∉ file.fullName suffix) (version : Nat) : Path.IsName (file.outputName version) := by
  have hhyphen : '-' ∈ file.outputName version := by simp [outputName]
  exact {
    ne_nil := fun he => by simp [he] at hhyphen
    ne_dot := fun he => by simp [he] at hhyphen
    ne_dots := fun he => by simp [he] at hhyphen
    slash := notMem_outputName h (by decide) (by decide) version }

/-- The last name of the path of an output is the name of the output. -/
theorem fileName?_outputPath {file : TemplateFile} {suffix : Text}
    (h : '/' ∉ file.fullName suffix) (version : Nat) :
    Path.fileName? (file.outputPath version) = some (file.outputName version) := by
  have hname := isName_outputName h version
  have hlast {front : Text} (hfront : Path.IsFront front) :
      Path.fileName? (front ++ file.outputName version) = some (file.outputName version) := by
    rw [Path.fileName?_append hfront hname.ne_nil hname.ne_dot hname.slash, if_neg hname.ne_dots]
  unfold outputPath
  split
  · rw [Path.join_of_slash_notMem _ hname.slash]
    exact hlast (Path.isFront_frontOf _)
  · have hempty : Path.IsFront [] := Or.inl rfl
    have hname := hlast hempty
    rwa [List.nil_append] at hname

/-! ## Places -/

/-- A path leads to a template file in some folder, and outputs come to lie in the same folder, each
under its own name. -/
structure LiesIn (file : TemplateFile) (suffix : Text) (tree : FileTree) (here : Location)
    (path : Text) (folder : Location) : Prop where
  isDirectory : tree.node? folder = some .directory
  isName : Path.IsName (file.fullName suffix)
  zero : '\x00' ∉ file.fullName suffix
  locate : tree.locate here path = .ok (folder ++ [file.fullName suffix])
  locate_output : ∀ version, tree.locate here (file.outputPath version) =
    if FileTree.nameBound < Utf8.size (file.outputName version) then .error .invalidFilename
    else .ok (folder ++ [file.outputName version])

/-- Every template file lies in a folder. -/
theorem exists_liesIn {tree : FileTree} {here : Location} {path suffix : Text}
    {contents : Contents} {file : TemplateFile}
    (hfind : tree.find here path = .ok (.file contents)) (hfile : ofPath path suffix = .ok file) :
    ∃ folder, file.LiesIn suffix tree here path folder := by
  obtain ⟨hpath, hfileName, -⟩ := of_ofPath_eq_ok hfile
  obtain ⟨front, hfront, hname, rfl⟩ := FileTree.exists_front_of_find hfind hfileName
  obtain ⟨location, hlocate, -⟩ := FileTree.find_eq_ok_iff.mp hfind
  obtain ⟨directory, hleads, rfl, -, hzero⟩ := FileTree.exists_leadsTo hfront hname hlocate
  have hzeroName : '\x00' ∉ file.fullName suffix := fun hmem =>
    hzero (List.mem_append_right _ hmem)
  -- an output is written beside the template, under its parent
  refine ⟨directory, hleads.isDirectory, hname, hzeroName, hlocate, fun version => ?_⟩
  obtain ⟨-, base, hbase, -⟩ := Path.exists_parent hfileName
  have houtput : file.outputPath version = Path.join base (file.outputName version) := by
    rw [outputPath, hpath, hbase]
  rw [houtput]
  exact hleads.locate_beside hfront hname hzero hbase (isName_outputName hname.slash version)
    (notMem_outputName hzeroName (by decide) (by decide) version)

/-- The path of an output leads to its place in the folder, if to anything. -/
theorem LiesIn.of_locate_outputPath {file : TemplateFile} {suffix path : Text} {tree : FileTree}
    {here folder location : Location} (h : file.LiesIn suffix tree here path folder)
    {version : Nat} (hlocate : tree.locate here (file.outputPath version) = .ok location) :
    location = folder ++ [file.outputName version] ∧
      Utf8.size (file.outputName version) ≤ FileTree.nameBound := by
  rw [h.locate_output version] at hlocate
  split at hlocate
  · cases hlocate
  · rename_i hsize
    exact ⟨(Except.ok.inj hlocate).symm, Nat.not_lt.mp hsize⟩

end TemplateFile

namespace TemplateDirectory

/-! ## Lookups -/

/-- The names of the files that an identifier stands for, as a file tree has them. -/
def namesIn (directory : TemplateDirectory) (identifier : Text) (tree : FileTree)
    (here : Location) : Except Fault (List Text) :=
  if identifier.endsWith ('.' :: directory.suffix) then .ok [identifier]
  else
    match Glob.read? (directory.searchPattern identifier) with
    | none => .error (.templatePattern identifier)
    | some glob =>
      match tree.fileNames here directory.root with
      | .ok names => .ok ((names.filter (Glob.matchesText glob)).mergeSort Text.precedes)
      | .error cause => .error (.io cause)

/-- Whether an identifier stands for files with some name: it is the name itself, or a glob for
it. -/
def standsFor (directory : TemplateDirectory) (identifier name : Text) : Bool :=
  if identifier.endsWith ('.' :: directory.suffix) then name = identifier
  else (Glob.read? (directory.searchPattern identifier)).any (Glob.matchesText · name)

/-- Nothing in the glob for an identifier has another meaning than it is written for: the suffix has
no character that globs give a meaning to, or there is no backslash, which is the one that is not
escaped. -/
def Escapable (directory : TemplateDirectory) (identifier : Text) : Prop :=
  (∀ c ∈ directory.suffix, c ∉ Glob.special) ∨ ('\\' ∉ directory.suffix ∧ '\\' ∉ identifier)

/-- The glob is a star between two escaped texts. -/
theorem searchPattern_eq (directory : TemplateDirectory) (identifier : Text) :
    directory.searchPattern identifier =
      Glob.escape (identifier ++ ['.']) ++ '*' :: Glob.escape ('.' :: directory.suffix) := by
  simp [searchPattern, Glob.escape]

/-- A name that an identifier stands for then ends as template files do. -/
theorem suffix_of_standsFor {directory : TemplateDirectory} {identifier name : Text}
    (hescapable : directory.Escapable identifier)
    (h : directory.standsFor identifier name = true) : ('.' :: directory.suffix) <:+ name := by
  unfold standsFor at h
  split at h
  · rename_i hexact
    rw [of_decide_eq_true h]
    exact Text.endsWith_iff.mp hexact
  · -- else it is matched by a glob whose text ends in a star and the suffix
    cases hglob : Glob.read? (directory.searchPattern identifier) with
    | none =>
      rw [hglob] at h
      cases h
    | some glob =>
      rw [hglob] at h
      rcases hescapable with hplain | ⟨hsuffix, hidentifier⟩
      · have hpattern : directory.searchPattern identifier =
            (Glob.escape identifier ++ ['.', '*']) ++ '.' :: directory.suffix := by
          rw [searchPattern, Glob.escape_of_plain hplain]
          simp
        rw [hpattern] at hglob
        refine Glob.suffix_of_read? (fun c hc => ?_) (by simp) hglob h
        rcases List.mem_cons.mp hc with rfl | hc
        · decide
        · exact hplain c hc
      · rw [searchPattern_eq] at hglob
        exact Glob.suffix_of_read?_escape (by simp [hidentifier]) (by simp [hsuffix]) hglob h

theorem standsFor_of_mem_namesIn {directory : TemplateDirectory} {identifier name : Text}
    {tree : FileTree} {here : Location} {names : List Text}
    (h : directory.namesIn identifier tree here = .ok names) (hmem : name ∈ names) :
    directory.standsFor identifier name = true := by
  unfold namesIn at h
  unfold standsFor
  split at h
  · rename_i hexact
    cases h
    rw [if_pos hexact, List.mem_singleton.mp hmem, decide_eq_true_eq]
  · rename_i hexact
    rw [if_neg hexact]
    cases hglob : Glob.read? (directory.searchPattern identifier) with
    | none =>
      rw [hglob] at h
      cases h
    | some glob =>
      rw [hglob] at h
      dsimp only at h
      cases hlisted : tree.fileNames here directory.root with
      | error cause =>
        rw [hlisted] at h
        cases h
      | ok listed =>
        rw [hlisted] at h
        cases h
        exact (List.mem_filter.mp (List.mem_mergeSort.mp hmem)).2

/-- The path of the first of some names. -/
def firstPath? (directory : TemplateDirectory) (names : List Text) : Option Text :=
  names.head?.map (Path.join directory.root)

theorem exists_of_mem_firstPath? {directory : TemplateDirectory} {names : List Text} {path : Text}
    (h : path ∈ directory.firstPath? names) :
    ∃ name ∈ names, path = Path.join directory.root name := by
  obtain ⟨name, hname, rfl⟩ := Option.map_eq_some_iff.mp h
  exact ⟨name, List.mem_of_head? hname, rfl⟩

/-- The error about a template that is not found. -/
def absence (directory : TemplateDirectory) (identifier : Text) (names : List Text) : Diagnostic :=
  { problem := .missingTemplate identifier ((directory.firstPath? names).getD directory.root) }

/-- What a lookup yields that has some names to choose from. -/
def choose (directory : TemplateDirectory) (identifier : Text) (names : List Text)
    (isFile : Text → Bool) : Lookup :=
  if (directory.firstPath? names).any isFile then
    { path := directory.firstPath? names, diagnostics := ambiguity identifier names }
  else
    { path := none
      diagnostics := ambiguity identifier names ++ [directory.absence identifier names] }

theorem choose_congr {directory : TemplateDirectory} {names : List Text}
    {isFile isFile' : Text → Bool}
    (h : ∀ path ∈ directory.firstPath? names, isFile' path = isFile path) (identifier : Text) :
    directory.choose identifier names isFile' = directory.choose identifier names isFile := by
  have hany :
      (directory.firstPath? names).any isFile' = (directory.firstPath? names).any isFile := by
    cases hpath : directory.firstPath? names with
    | none => rfl
    | some path => exact h path hpath
  rw [choose, choose, hany]

/-- A lookup is about no version. -/
theorem version_of_mem_choose {directory : TemplateDirectory} {identifier : Text}
    {names : List Text} {isFile : Text → Bool} {d : Diagnostic}
    (h : d ∈ (directory.choose identifier names isFile).diagnostics) : d.version = none := by
  have hambiguity : ∀ d ∈ ambiguity identifier names, d.version = none := by
    unfold ambiguity
    split
    · simp
    · simp
  unfold choose at h
  split at h
  · exact hambiguity d h
  · rcases List.mem_append.mp h with h | h
    · exact hambiguity d h
    · rw [List.mem_singleton.mp h]
      rfl

section Answer

variable (directory : TemplateDirectory) (identifier : Text) (world : World)

theorem candidates_apply :
    directory.candidates identifier world =
      (match Glob.read? (directory.searchPattern identifier) with
        | none => .error (.templatePattern identifier)
        | some glob =>
          match world.files.fileNames world.here directory.root with
          | .ok names => .ok ((names.filter (Glob.matchesText glob)).mergeSort Text.precedes)
          | .error cause => .error (.io cause), world) := by
  unfold candidates
  cases Glob.read? (directory.searchPattern identifier) with
  | none => rfl
  | some glob =>
    dsimp only
    rw [Run.bind_apply, Run.fileNames]
    cases world.files.fileNames world.here directory.root <;> rfl

/-- The last part of a lookup, once there are names to choose from. -/
theorem choose_apply (names : List Text) :
    (do
      Run.raiseAll (ambiguity identifier names)
      let found ←
        match directory.firstPath? names with
        | some path => Run.isFile path
        | none => pure false
      if found then
        pure { path := directory.firstPath? names, diagnostics := ambiguity identifier names }
      else
        Run.raiseAll [directory.absence identifier names]
        pure {
          path := none
          diagnostics := ambiguity identifier names ++ [directory.absence identifier names] } :
      Run Lookup) world =
      (.ok (directory.choose identifier names (world.files.isFile world.here)),
        { world with
          log := world.log ++ (directory.choose identifier names
            (world.files.isFile world.here)).diagnostics.map .raised }) := by
  rw [Run.bind_apply, choose]
  cases hfirst : directory.firstPath? names with
  | none =>
    show (Except.ok _, _) = _
    simp
  | some path =>
    -- the answer of the question decides which of the two ends the lookup takes
    simp only [Run.raiseAll, Run.isFile, Run.ask, Run.bind_apply, Option.any_some]
    by_cases hfile : world.files.isFile world.here path = true
    · simp only [if_pos hfile]
      rfl
    · simp only [if_neg hfile]
      show (Except.ok _, _) = _
      simp

/-- A lookup answers by the files of the world alone, and does nothing but report. -/
theorem resolve_apply :
    directory.resolve identifier world =
      match directory.namesIn identifier world.files world.here with
      | .error fault => (.error fault, world)
      | .ok names =>
        (.ok (directory.choose identifier names (world.files.isFile world.here)),
          { world with
            log := world.log ++ (directory.choose identifier names
              (world.files.isFile world.here)).diagnostics.map .raised }) := by
  unfold resolve namesIn
  by_cases hexact : identifier.endsWith ('.' :: directory.suffix) = true
  · rw [if_pos hexact, if_pos hexact]
    exact choose_apply directory identifier world [identifier]
  · rw [if_neg hexact, if_neg hexact, Run.bind_apply, candidates_apply]
    cases Glob.read? (directory.searchPattern identifier) with
    | none => rfl
    | some glob =>
      cases world.files.fileNames world.here directory.root with
      | error cause => rfl
      | ok names => exact choose_apply directory identifier world _

end Answer

theorem resolve_keepsFiles (directory : TemplateDirectory) (identifier : Text) :
    Run.KeepsFiles (directory.resolve identifier) := by
  intro world
  rw [resolve_apply]
  split
  · exact ⟨rfl, rfl⟩
  · exact ⟨rfl, rfl⟩

end TemplateDirectory

end Tangle
