import Tangle.Command
import Tangle.Proofs.FileTree
import Tangle.Proofs.Path
import Tangle.Proofs.Run

/-!
# Where settings come from

The settings of a run come from one file, or from none. A file that the command names decides alone.
Otherwise settings files are looked for from the working directory on and then from the directory of
the first document on, at places that are ordered by the steps to their directory and, within a
directory, by the rank of their name.

- `IsNearest` says which of the places from a directory on is the one with a file, and
  `find?_within_eq_some_iff` that a search through all of them comes to it.
- `Decides` says from which file the settings come, `choose_apply` that they come from there.
- `find?_congr_of_consulted` says that what lies behind the deciding file has no part in this.
-/

namespace Tangle

namespace Settings

/-! ## Places of settings files -/

/-- The path at a place: so many steps above a directory, with the name of a rank. -/
def placeAt? (start : Text) (steps rank : Nat) : Option Text :=
  (Path.above? steps start).bind fun directory => (fileNames[rank]?).map (Path.join directory)

/-- One place is looked at before another one: its directory is nearer, or it is the same directory
and the name has a lower rank. -/
def Earlier (steps rank steps' rank' : Nat) : Prop := steps < steps' ∨ steps = steps' ∧ rank < rank'

/-- The paths at all places less than `bound` steps above a directory. -/
def within (bound : Nat) (start : Text) : List Text :=
  (Path.ancestors bound start).flatMap fun directory => fileNames.map (Path.join directory)

theorem placeAt?_zero (start : Text) (rank : Nat) :
    placeAt? start 0 rank = (fileNames.map (Path.join start))[rank]? := by
  simp [placeAt?, Path.above?]

theorem placeAt?_succ (start : Text) (steps rank : Nat) :
    placeAt? start (steps + 1) rank =
      (Path.parent? start).bind fun up => placeAt? up steps rank := by
  simp [placeAt?, Path.above?, Option.bind_assoc]

/-- The path at a place has the names of the directory without as many of the last ones as there are
steps, and behind them the name of the rank. -/
theorem names_of_placeAt? {start path : Text} {steps rank : Nat}
    (h : placeAt? start steps rank = some path) :
    ∃ name, fileNames[rank]? = some name ∧
      Path.names path = (Path.names start).take ((Path.names start).length - steps) ++ [name] := by
  obtain ⟨directory, hdirectory, hname⟩ := Option.bind_eq_some_iff.mp h
  obtain ⟨name, hrank, rfl⟩ := Option.map_eq_some_iff.mp hname
  have hnames : ∀ name ∈ fileNames, Path.IsName name := by decide
  refine ⟨name, hrank, ?_⟩
  rw [Path.names_join directory (hnames name (List.mem_of_getElem? hrank)),
    Path.names_of_above? hdirectory]

theorem within_succ (bound : Nat) (start : Text) :
    within (bound + 1) start =
      fileNames.map (Path.join start) ++ (Path.parent? start).elim [] (within bound) := by
  rw [within, Path.ancestors, List.flatMap_cons]
  cases Path.parent? start <;> rfl

theorem mem_within {bound steps rank : Nat} {start path : Text} (hsteps : steps < bound)
    (h : placeAt? start steps rank = some path) : path ∈ within bound start := by
  induction bound generalizing start steps with
  | zero => exact absurd hsteps (Nat.not_lt_zero steps)
  | succ bound ih =>
    rw [within_succ]
    cases steps with
    | zero =>
      rw [placeAt?_zero] at h
      exact List.mem_append_left _ (List.mem_of_getElem? h)
    | succ steps =>
      -- the place is as many steps above the parent, less one
      rw [placeAt?_succ] at h
      obtain ⟨up, hup, hplace⟩ := Option.bind_eq_some_iff.mp h
      apply List.mem_append_right
      rw [hup]
      exact ih (Nat.lt_of_succ_lt_succ hsteps) hplace

section Search

variable (isFile : Text → Bool)

/-- The nearest of the settings files from a directory on: a file at a place less than `bound` steps
above, with none at the places before. -/
def IsNearest (bound : Nat) (start path : Text) : Prop :=
  ∃ steps rank, steps < bound ∧ placeAt? start steps rank = some path ∧ isFile path = true ∧
    ∀ steps' rank' other, Earlier steps' rank' steps rank →
      placeAt? start steps' rank' = some other → isFile other = false

/-- There is no file at the places less than `bound` steps above a directory. -/
def IsBare (bound : Nat) (start : Text) : Prop :=
  ∀ steps rank path, steps < bound → placeAt? start steps rank = some path → isFile path = false

variable {isFile : Text → Bool} {bound : Nat} {start path : Text}

theorem IsNearest.unique {other : Text} (h : IsNearest isFile bound start path)
    (h' : IsNearest isFile bound start other) : path = other := by
  obtain ⟨steps, rank, -, hplace, hfile, hbefore⟩ := h
  obtain ⟨steps', rank', -, hplace', hfile', hbefore'⟩ := h'
  -- of two different places one is the earlier one
  have hcases : Earlier steps rank steps' rank' ∨ Earlier steps' rank' steps rank ∨
      steps = steps' ∧ rank = rank' := by
    unfold Earlier
    omega
  rcases hcases with hlt | hgt | ⟨rfl, rfl⟩
  · rw [hbefore' steps rank path hlt hplace] at hfile
    cases hfile
  · rw [hbefore steps' rank' other hgt hplace'] at hfile'
    cases hfile'
  · exact Option.some.inj (hplace.symm.trans hplace')

theorem IsBare.not_isNearest (h : IsBare isFile bound start) :
    ¬ IsNearest isFile bound start path := by
  rintro ⟨steps, rank, hsteps, hplace, hfile, -⟩
  rw [h steps rank path hsteps hplace] at hfile
  cases hfile

/-- A search that goes through all places in order comes to the nearest file. -/
theorem isNearest_of_find? (h : (within bound start).find? isFile = some path) :
    IsNearest isFile bound start path := by
  induction bound generalizing start with
  | zero => cases h
  | succ bound ih =>
    rw [within_succ, List.find?_append] at h
    cases hfirst : (fileNames.map (Path.join start)).find? isFile with
    | some found =>
      -- the directory itself has a settings file
      rw [hfirst] at h
      cases h
      obtain ⟨hfile, rank, hrank, hplace, hbefore⟩ := List.find?_eq_some_iff_getElem.mp hfirst
      refine ⟨0, rank, Nat.succ_pos bound, ?_, hfile, ?_⟩
      · rw [placeAt?_zero, List.getElem?_eq_getElem hrank, hplace]
      · intro steps' rank' other hearlier hother
        obtain ⟨rfl, hlt⟩ : steps' = 0 ∧ rank' < rank := by
          unfold Earlier at hearlier
          omega
        rw [placeAt?_zero, List.getElem?_eq_getElem (hlt.trans hrank)] at hother
        cases hother
        simpa using hbefore rank' hlt
    | none =>
      rw [hfirst, Option.none_or] at h
      cases hup : Path.parent? start with
      | none =>
        rw [hup] at h
        cases h
      | some up =>
        rw [hup] at h
        obtain ⟨steps, rank, hsteps, hplace, hfile, hbefore⟩ := ih h
        refine ⟨steps + 1, rank, Nat.succ_lt_succ hsteps, ?_, hfile, ?_⟩
        · rw [placeAt?_succ, hup]
          exact hplace
        · intro steps' rank' other hearlier hother
          cases steps' with
          | zero =>
            -- the directory itself has none
            rw [placeAt?_zero] at hother
            have hnone := List.find?_eq_none.mp hfirst other (List.mem_of_getElem? hother)
            simpa using hnone
          | succ steps' =>
            rw [placeAt?_succ, hup] at hother
            refine hbefore steps' rank' other ?_ hother
            unfold Earlier at hearlier ⊢
            omega

theorem isBare_of_find? (h : (within bound start).find? isFile = none) :
    IsBare isFile bound start := by
  intro steps rank path hsteps hplace
  simpa using List.find?_eq_none.mp h path (mem_within hsteps hplace)

theorem find?_within_eq_some_iff :
    (within bound start).find? isFile = some path ↔ IsNearest isFile bound start path := by
  constructor
  · exact isNearest_of_find?
  · intro hnearest
    cases hfind : (within bound start).find? isFile with
    | some found => rw [(isNearest_of_find? hfind).unique hnearest]
    | none => exact absurd hnearest (isBare_of_find? hfind).not_isNearest

theorem find?_within_eq_none_iff :
    (within bound start).find? isFile = none ↔ IsBare isFile bound start := by
  constructor
  · exact isBare_of_find?
  · intro hbare
    cases hfind : (within bound start).find? isFile with
    | some found => exact absurd (isNearest_of_find? hfind) hbare.not_isNearest
    | none => rfl

end Search

/-! ## The file that decides -/

/-- What settings a file gives, or what is wrong with it. Without a file they are the standard
ones. -/
def loaded (tree : FileTree) (here : Location) : Option Text → Except Fault Settings
  | none => .ok {}
  | some path =>
    if tree.isFile here path then
      match tree.readText here path with
      | .error cause => .error (.io cause)
      | .ok text =>
        match ofText (Format.ofPath path) text with
        | some settings => .ok settings
        | none => .error (.configParse path)
    else .error (.configNotFound path)

/-- The paths that are searched for settings, if no file is named. -/
def searched (here : Location) (documents : List Text) : List Text :=
  candidates here.path ++ (documentDirectory? documents).elim [] candidates

/-- The file that the settings come from. -/
def source? (tree : FileTree) (here : Location) (file : Option Text) (documents : List Text) :
    Option Text :=
  match file with
  | some path => some path
  | none => (searched here documents).find? (tree.isFile here)

theorem load_apply (path : Text) (world : World) :
    load path world = (loaded world.files world.here (some path), world) := by
  unfold load loaded
  rw [Run.bind_apply, Run.isFile, Run.ask]
  dsimp only
  cases world.files.isFile world.here path with
  | false => rfl
  | true =>
    rw [if_pos rfl, if_pos rfl, Run.bind_apply, Run.readText]
    cases world.files.readText world.here path with
    | error cause => rfl
    | ok text =>
      dsimp only
      cases ofText (Format.ofPath path) text <;> rfl

/-- A search ends with the settings of the first file, if there is one. -/
theorem discover_apply (start : Text) (world : World) :
    discover start world =
      (match (candidates start).find? (world.files.isFile world.here) with
        | some path => (loaded world.files world.here (some path)).map some
        | none => .ok none, world) := by
  unfold discover locate
  rw [Run.bind_apply, Run.ask]
  dsimp only
  cases (candidates start).find? (world.files.isFile world.here) with
  | none => rfl
  | some path =>
    dsimp only
    rw [Run.bind_apply, load_apply]
    cases loaded world.files world.here (some path) <;> rfl

/-- **Choosing settings** changes nothing and ends with those of the deciding file. -/
theorem choose_apply (file : Option Text) (documents : List Text) (world : World) :
    choose file documents world =
      (loaded world.files world.here (source? world.files world.here file documents), world) := by
  cases file with
  | some path => exact load_apply path world
  | none =>
    unfold choose source? searched
    dsimp only
    rw [Run.bind_apply, Run.root, Run.ask]
    dsimp only
    rw [Run.bind_apply, discover_apply, List.find?_append]
    cases (candidates world.here.path).find? (world.files.isFile world.here) with
    | some path =>
      dsimp only [Option.some_or]
      cases loaded world.files world.here (some path) <;> rfl
    | none =>
      dsimp only [Option.none_or]
      cases documentDirectory? documents with
      | none => rfl
      | some directory =>
        dsimp only [Option.elim_some]
        rw [Run.bind_apply, discover_apply]
        cases (candidates directory).find? (world.files.isFile world.here) with
        | none => rfl
        | some path =>
          dsimp only
          cases loaded world.files world.here (some path) <;> rfl

theorem of_choose_eq_ok {file : Option Text} {documents : List Text} {world after : World}
    {settings : Settings} (h : choose file documents world = (.ok settings, after)) :
    after = world := by
  rw [choose_apply] at h
  exact (Prod.mk.inj h).2.symm

/-- The directory of the first document, if its path names one. -/
def IsBeside (documents : List Text) (directory : Text) : Prop :=
  ∃ first ∈ documents.head?, Path.parent? first = some directory ∧ directory ≠ []

theorem documentDirectory?_eq_some_iff {documents : List Text} {directory : Text} :
    documentDirectory? documents = some directory ↔ IsBeside documents directory := by
  rw [documentDirectory?, Option.filter_eq_some_iff, Option.bind_eq_some_iff, IsBeside]
  simp [← and_assoc, exists_and_right]

/-- From which file the settings of a run come: from the one that is named, and else from the
nearest one of the working directory, and else from the nearest one of the directory of the first
document. Where there is none the standard settings are taken. -/
inductive Decides (tree : FileTree) (here : Location) (file : Option Text) (documents : List Text) :
    Option Text → Prop where
  | named {path : Text} (given : file = some path) : Decides tree here file documents (some path)
  | around {path : Text} (unnamed : file = none)
      (nearest : IsNearest (tree.isFile here) searchDepth here.path path) :
      Decides tree here file documents (some path)
  | beside {directory path : Text} (unnamed : file = none)
      (bare : IsBare (tree.isFile here) searchDepth here.path)
      (found : IsBeside documents directory)
      (nearest : IsNearest (tree.isFile here) searchDepth directory path) :
      Decides tree here file documents (some path)
  | standard (unnamed : file = none) (bare : IsBare (tree.isFile here) searchDepth here.path)
      (bareBeside : ∀ directory, IsBeside documents directory →
        IsBare (tree.isFile here) searchDepth directory) :
      Decides tree here file documents none

section Deciding

variable {tree : FileTree} {here : Location} {file : Option Text} {documents : List Text}

/-- **One file decides, or none does**, and it is the one that the search comes to. -/
theorem decides_iff {source : Option Text} :
    Decides tree here file documents source ↔ source = source? tree here file documents := by
  have hsearch (start : Text) : candidates start = within searchDepth start := rfl
  constructor
  · intro h
    cases h with
    | named given => rw [given, source?]
    | around unnamed nearest =>
      rw [unnamed, source?, searched, List.find?_append, hsearch,
        find?_within_eq_some_iff.mpr nearest, Option.some_or]
    | beside unnamed bare found nearest =>
      rw [unnamed, source?, searched, List.find?_append, hsearch,
        find?_within_eq_none_iff.mpr bare, Option.none_or,
        documentDirectory?_eq_some_iff.mpr found, Option.elim_some, hsearch,
        find?_within_eq_some_iff.mpr nearest]
    | standard unnamed bare bareBeside =>
      rw [unnamed, source?, searched, List.find?_append, hsearch,
        find?_within_eq_none_iff.mpr bare, Option.none_or]
      cases hdirectory : documentDirectory? documents with
      | none => rfl
      | some directory =>
        have hbare := bareBeside directory (documentDirectory?_eq_some_iff.mp hdirectory)
        rw [Option.elim_some, hsearch, find?_within_eq_none_iff.mpr hbare]
  · rintro rfl
    cases file with
    | some path => exact .named rfl
    | none =>
      rw [source?, searched, List.find?_append, hsearch]
      cases haround : (within searchDepth here.path).find? (tree.isFile here) with
      | some path => exact .around rfl (isNearest_of_find? haround)
      | none =>
        have hbare := isBare_of_find? haround
        rw [Option.none_or]
        cases hdirectory : documentDirectory? documents with
        | none =>
          refine .standard rfl hbare fun directory hbeside => ?_
          rw [← documentDirectory?_eq_some_iff, hdirectory] at hbeside
          cases hbeside
        | some directory =>
          have hbeside := documentDirectory?_eq_some_iff.mp hdirectory
          rw [Option.elim_some, hsearch]
          cases hfind : (within searchDepth directory).find? (tree.isFile here) with
          | some path => exact .beside rfl hbare hbeside (isNearest_of_find? hfind)
          | none =>
            refine .standard rfl hbare fun other hother => ?_
            rw [← documentDirectory?_eq_some_iff, hdirectory] at hother
            cases hother
            exact isBare_of_find? hfind

/-! ## What has no part in it -/

/-- The paths that are looked at: the one that is named, or those that are searched up to the first
one that leads to a file. -/
def consulted (tree : FileTree) (here : Location) (file : Option Text) (documents : List Text) :
    List Text :=
  match file with
  | some path => [path]
  | none =>
    let paths := searched here documents
    paths.takeWhile (fun path => !tree.isFile here path) ++ (paths.find? (tree.isFile here)).toList

/-- A search depends on its test for the members up to the first one that passes, and on no other
ones. -/
theorem find?_congr_of_consulted {α : Type} {p q : α → Bool} {members : List α}
    (h : ∀ a ∈ members.takeWhile (fun a => !p a) ++ (members.find? p).toList, q a = p a) :
    members.find? q = members.find? p := by
  induction members with
  | nil => rfl
  | cons a more ih =>
    cases ha : p a with
    | true =>
      have hq : q a = true := by
        rw [← ha]
        apply h
        simp [ha]
      rw [List.find?_cons_of_pos hq, List.find?_cons_of_pos ha]
    | false =>
      rw [List.takeWhile_cons_of_pos (by simp [ha]), List.find?_cons_of_neg (by simp [ha]),
        List.cons_append, List.forall_mem_cons, ha] at h
      rw [List.find?_cons_of_neg (by simp [h.1]), List.find?_cons_of_neg (by simp [ha]), ih h.2]

theorem mem_consulted {path : Text} (h : source? tree here file documents = some path) :
    path ∈ consulted tree here file documents := by
  cases file with
  | some _ =>
    cases h
    exact List.mem_singleton_self path
  | none =>
    apply List.mem_append_right
    exact Option.mem_toList.mpr h

section Others

variable {other : FileTree}
  (same : ∀ path ∈ consulted tree here file documents, tree.SameFileAt other here path)

include same

theorem source?_congr : source? other here file documents = source? tree here file documents := by
  cases file with
  | some path => rfl
  | none =>
    apply find?_congr_of_consulted
    intro path hpath
    exact (same path hpath).isFile_eq

/-- **Nothing else has a part in the settings.** What is at other paths, and what follows the file
that decides, could be anything. -/
theorem loaded_congr :
    loaded other here (source? other here file documents) =
      loaded tree here (source? tree here file documents) := by
  rw [source?_congr same]
  cases hsource : source? tree here file documents with
  | none => rfl
  | some path =>
    have hsame := same path (mem_consulted hsource)
    unfold loaded
    dsimp only
    rw [hsame.isFile_eq]
    cases hfile : tree.isFile here path with
    | false => rfl
    | true => rw [hsame.readText_eq hfile]

end Others

end Deciding

end Settings

/-! ## Commands -/

namespace Command

/-- The file that a command names for its settings and the documents that it works on, if it needs
settings. -/
def setup? : Command → Option (Option Text × List Text)
  | .render documents _ file _ => some (file, documents)
  | .diff _ _ => none
  | .list documents file => some (file, documents)

/-- What is left of a command when it has its settings. -/
def proceed (renderer : Renderer) (settings : Settings) : Command → Run Output
  | .render documents templates _ format => do
    let rendering ← renderDocuments documents templates settings renderer
    match format with
    | .text => pure (.lines (rendering.lines (← Run.root)))
    | .json => pure (.json rendering.json)
  | .diff documents directory => run renderer (.diff documents directory)
  | .list documents _ => do
    let extraction ← extractDocuments documents settings
    pure (.lines (extraction.lines (← Run.root)))

/-- A command begins with the choice of its settings. -/
theorem run_eq_choose {command : Command} {file : Option Text} {documents : List Text}
    (h : command.setup? = some (file, documents)) (renderer : Renderer) :
    command.run renderer = Settings.choose file documents >>= command.proceed renderer := by
  cases command with
  | render documents templates file format =>
    cases h
    rfl
  | diff documents directory => cases h
  | list documents file =>
    cases h
    rfl

/-- **The settings of a command.** Of all files the named one, and else the nearest one, decides,
and one alone. A command goes on with what that file gives, or ends with what is wrong with it
before anything has changed. What is at paths that are not consulted, those behind the deciding file
among them, has no part in this. The places are where their steps and ranks say. -/
theorem settings_decided {command : Command} {file : Option Text} {documents : List Text}
    (needs : command.setup? = some (file, documents)) (renderer : Renderer) (world : World) :
    ∃ source, Settings.Decides world.files world.here file documents source ∧
      (∀ other, Settings.Decides world.files world.here file documents other → other = source) ∧
      (command.run renderer world =
        match Settings.loaded world.files world.here source with
        | .ok settings => command.proceed renderer settings world
        | .error fault => (.error fault, world)) ∧
      (∀ other : FileTree,
        (∀ path ∈ Settings.consulted world.files world.here file documents,
          world.files.SameFileAt other world.here path) →
        command.run renderer { world with files := other } =
          match Settings.loaded world.files world.here source with
          | .ok settings => command.proceed renderer settings { world with files := other }
          | .error fault => (.error fault, { world with files := other })) ∧
      ∀ start steps rank path, Settings.placeAt? start steps rank = some path →
        ∃ name, Settings.fileNames[rank]? = some name ∧
          Path.names path =
            (Path.names start).take ((Path.names start).length - steps) ++ [name] := by
  have hrun (start : World) : command.run renderer start =
      match Settings.loaded start.files start.here
        (Settings.source? start.files start.here file documents) with
      | .ok settings => command.proceed renderer settings start
      | .error fault => (.error fault, start) := by
    rw [run_eq_choose needs renderer, Run.bind_apply, Settings.choose_apply]
    cases Settings.loaded start.files start.here
      (Settings.source? start.files start.here file documents) <;> rfl
  refine ⟨_, Settings.decides_iff.mpr rfl, fun other => Settings.decides_iff.mp, hrun world, ?_, ?_⟩
  · intro other hsame
    rw [hrun, Settings.loaded_congr hsame]
  · intro start steps rank path hplace
    exact Settings.names_of_placeAt? hplace

/-- A working directory with a directory that is named like a settings file, below one with a
settings file of the second rank. A blank one of the first rank lies above both. -/
def nestedTree (contents : Contents) : FileTree :=
  ⟨[([['a']], .directory), ([['a'], ['b']], .directory),
    ([['a'], ['b'], "literate.toml".toList], .directory),
    ([['a'], ".literate.toml".toList], .file contents),
    (["literate.toml".toList], .file (.text []))]⟩

/-- The tree without the blank file. -/
def clearedTree (contents : Contents) : FileTree :=
  (nestedTree contents).remove ["literate.toml".toList]

/-- The directory is passed over, the file of the second rank decides, its fault ends a listing, and
the blank file has no part in it. -/
def EndsListing (contents : Contents) (fault : Fault) : Prop :=
  Settings.Decides (nestedTree contents) [['a'], ['b']] none [['d']]
      (some "/a/.literate.toml".toList) ∧
    ∀ tree ∈ [nestedTree contents, clearedTree contents],
      (Command.list [['d']] none).run Stencil.renderer ⟨tree, [['a'], ['b']], []⟩ =
        (.error fault, ⟨tree, [['a'], ['b']], []⟩)

/-- A file that is no text, one that is not in the format, and one with a value that is not of the
right kind. -/
theorem settings_decided_by_faulty_file :
    EndsListing (.octets [255]) (.io .invalidData) ∧
      EndsListing (.text ['=']) (.configParse "/a/.literate.toml".toList) ∧
      EndsListing (.text "template_suffix = 1".toList)
        (.configParse "/a/.literate.toml".toList) := by
  have hneeds : (Command.list [['d']] none).setup? = some (none, [['d']]) := rfl
  -- which file decides and which paths are consulted is the same for all contents
  have hends (contents : Contents) (fault : Fault)
      (hsource : Settings.source? (nestedTree contents) [['a'], ['b']] none [['d']] =
        some "/a/.literate.toml".toList)
      (hloaded : Settings.loaded (nestedTree contents) [['a'], ['b']]
        (some "/a/.literate.toml".toList) = .error fault)
      (hsame : ∀ path ∈ Settings.consulted (nestedTree contents) [['a'], ['b']] none [['d']],
        (clearedTree contents).find [['a'], ['b']] path =
          (nestedTree contents).find [['a'], ['b']] path) : EndsListing contents fault := by
    obtain ⟨source, hdecides, -, hrun, hother, -⟩ :=
      settings_decided hneeds Stencil.renderer ⟨nestedTree contents, [['a'], ['b']], []⟩
    obtain rfl : source = some "/a/.literate.toml".toList := by
      rw [Settings.decides_iff.mp hdecides, hsource]
    rw [hloaded] at hrun hother
    have hcleared := hother (clearedTree contents) fun path hpath contents => by
      rw [hsame path hpath]
    exact ⟨hdecides, List.forall_mem_cons.mpr ⟨hrun, List.forall_mem_singleton.mpr hcleared⟩⟩
  refine ⟨hends _ _ ?_ ?_ ?_, hends _ _ ?_ ?_ ?_, hends _ _ ?_ ?_ ?_⟩
  all_goals decide +kernel

end Command

end Tangle
