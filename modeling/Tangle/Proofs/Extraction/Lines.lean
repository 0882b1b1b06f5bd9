import Tangle.Proofs.Reporting
import Tangle.Proofs.Text

/-!
# Line by line

Reading jumps over the lines that it takes as a body. Since no such line is a declaration, it could
as well look at each of them: `readLines_cons` says that a document yields, line after line, what
each line yields in front of those below it. All that is known of a document follows from this
equation by induction on its lines.
-/

namespace Tangle

/-! ## Bodies hold no declarations -/

/-- A declaration begins with a brace. -/
theorem head?_of_parse {line : Text} {d : Declaration} (h : Declaration.parse line = some d) :
    line.head? = some '{' := by
  obtain ⟨attributes, hattributes, -⟩ := Option.bind_eq_some_iff.mp h
  obtain ⟨inside, hinside, -⟩ := Option.map_eq_some_iff.mp hattributes
  obtain ⟨ending, hline⟩ := Text.withoutTerminator_prefix line
  unfold Declaration.inside? at hinside
  split at hinside
  · rename_i rest hwithout
    rw [← hline, hwithout]
    rfl
  · cases hinside

/-- A line of a body is no declaration. -/
theorem parse_of_isBodyLine {line : Text} (h : isBodyLine line = true) :
    Declaration.parse line = none := by
  cases hparse : Declaration.parse line with
  | none => rfl
  | some d =>
    rw [isBodyLine, head?_of_parse hparse] at h
    exact absurd h (by decide)

/-- No body goes on into lines of which the first cannot belong to it. -/
theorem takeWhile_isBodyLine_append {second : List Text}
    (flush : ∀ line ∈ second.head?, isBodyLine line = false) (first : List Text) :
    (first ++ second).takeWhile isBodyLine = first.takeWhile isBodyLine := by
  have hsecond : second.takeWhile isBodyLine = [] := by
    cases second with
    | nil => rfl
    | cons line more => exact List.takeWhile_cons_of_neg (by simp [flush line rfl])
  rw [List.takeWhile_append]
  split
  · rename_i hall
    -- all of the first lines belong to the body, and it ends with them
    rw [hsecond, List.append_nil]
    exact ((List.takeWhile_prefix _).eq_of_length hall).symm
  · rfl

/-! ## What a line yields -/

/-- What the line with the given number yields in front of the lines `rest`. -/
def lineFindings (excluded : Text → Bool) (file : Text) (number : Nat) (line : Text)
    (rest : List Text) : List Finding :=
  match Declaration.parse line with
  | none => []
  | some declaration =>
    match declaration.name, declaration.template, declaration.version with
    | none, none, none => []
    | some name, some template, some version =>
      readBody excluded file number name template version (rest.takeWhile isBodyLine)
    | name, template, version =>
      [.problem {
        problem := .incompleteDeclaration name template version
        file := some file
        line := some number }]

variable (excluded : Text → Bool) (file : Text)

theorem readLines_of_parse_none {line : Text} (h : Declaration.parse line = none) (number : Nat)
    (rest : List Text) :
    readLines excluded file number (line :: rest) = readLines excluded file (number + 1) rest := by
  rw [readLines_cons_eq, h]

/-- The lines of a body can be read one by one. -/
theorem readLines_body {body : List Text} (h : ∀ line ∈ body, isBodyLine line = true)
    (number : Nat) (rest : List Text) :
    readLines excluded file number (body ++ rest) =
      readLines excluded file (number + body.length) rest := by
  induction body generalizing number with
  | nil => rfl
  | cons line body ih =>
    have hline := parse_of_isBodyLine (h line List.mem_cons_self)
    rw [List.cons_append, readLines_of_parse_none excluded file hline,
      ih (fun l hl => h l (List.mem_cons_of_mem _ hl)), List.length_cons]
    congr 1
    omega

/-- A document yields what its first line yields, and then what the lines below it yield. -/
theorem readLines_cons (number : Nat) (line : Text) (rest : List Text) :
    readLines excluded file number (line :: rest) =
      lineFindings excluded file number line rest ++
        readLines excluded file (number + 1) rest := by
  -- the lines that are jumped over would yield nothing
  have hbody := readLines_body excluded file
    (fun l hl => List.all_eq_true.mp (List.all_takeWhile (l := rest) (p := isBodyLine)) l hl)
    (number + 1) (rest.dropWhile isBodyLine)
  rw [List.takeWhile_append_dropWhile] at hbody
  rw [readLines_cons_eq, lineFindings]
  cases Declaration.parse line with
  | none => rfl
  | some d =>
    obtain ⟨lang, name, template, version⟩ := d
    rcases name with _ | name <;> rcases template with _ | template <;>
      rcases version with _ | version
    -- only a complete declaration jumps
    case some.some.some =>
      show readBody excluded file number name template version _ ++ _ = _
      rw [← hbody]
    all_goals rfl

/-! ## Kinds of declarations -/

namespace Declaration

/-- A declaration that is for a fragment: it has a name, a template or a version. -/
def Traced (d : Declaration) : Prop := d.name ≠ none ∨ d.template ≠ none ∨ d.version ≠ none

/-- A declaration of a fragment: it has all three. -/
def Complete (d : Declaration) : Prop := d.name ≠ none ∧ d.template ≠ none ∧ d.version ≠ none

theorem Complete.exists_fields {d : Declaration} (h : d.Complete) :
    ∃ name template version,
      d.name = some name ∧ d.template = some template ∧ d.version = some version := by
  obtain ⟨hname, htemplate, hversion⟩ := h
  obtain ⟨name, hname⟩ := Option.ne_none_iff_exists'.mp hname
  obtain ⟨template, htemplate⟩ := Option.ne_none_iff_exists'.mp htemplate
  obtain ⟨version, hversion⟩ := Option.ne_none_iff_exists'.mp hversion
  exact ⟨name, template, version, hname, htemplate, hversion⟩

end Declaration

section Kinds

variable {excluded file} {line : Text} {d : Declaration} (number : Nat) (rest : List Text)

theorem lineFindings_of_parse_none (h : Declaration.parse line = none) :
    lineFindings excluded file number line rest = [] := by
  rw [lineFindings, h]

theorem lineFindings_of_not_traced (h : Declaration.parse line = some d) (hd : ¬ d.Traced) :
    lineFindings excluded file number line rest = [] := by
  simp only [Declaration.Traced, not_or, ne_eq, Decidable.not_not] at hd
  rw [lineFindings, h]
  simp only [hd.1, hd.2.1, hd.2.2]

theorem lineFindings_of_complete (h : Declaration.parse line = some d)
    {name template version : Text} (hname : d.name = some name)
    (htemplate : d.template = some template) (hversion : d.version = some version) :
    lineFindings excluded file number line rest =
      readBody excluded file number name template version (rest.takeWhile isBodyLine) := by
  rw [lineFindings, h]
  simp only [hname, htemplate, hversion]

theorem lineFindings_of_partial (h : Declaration.parse line = some d) (htraced : d.Traced)
    (hd : ¬ d.Complete) :
    lineFindings excluded file number line rest =
      [.problem {
        problem := .incompleteDeclaration d.name d.template d.version
        file := some file
        line := some number }] := by
  obtain ⟨lang, name, template, version⟩ := d
  rw [lineFindings, h]
  rcases name with _ | name <;> rcases template with _ | template <;>
    rcases version with _ | version
  case none.none.none => simp [Declaration.Traced] at htraced
  case some.some.some => simp [Declaration.Complete] at hd
  all_goals rfl

end Kinds

/-! ## What a document yields -/

/-- What a document yields is what its lines yield, each in front of those below it. -/
theorem mem_readLines_iff {number : Nat} {lines : List Text} {g : Finding} :
    g ∈ readLines excluded file number lines ↔
      ∃ i line, lines[i]? = some line ∧
        g ∈ lineFindings excluded file (number + i) line (lines.drop (i + 1)) := by
  -- the numbers of the lines below are one higher, and so the number is generalized
  induction lines generalizing number with
  | nil => simp [readLines_nil]
  | cons first rest ih =>
    rw [readLines_cons, List.mem_append, ih]
    constructor
    · rintro (h | ⟨i, line, hline, h⟩)
      · exact ⟨0, first, rfl, h⟩
      · exact ⟨i + 1, line, hline, by rwa [Nat.add_right_comm] at h⟩
    · rintro ⟨i, line, hline, h⟩
      cases i with
      | zero =>
        cases hline
        exact Or.inl h
      | succ i => exact Or.inr ⟨i, line, hline, by rwa [Nat.add_right_comm]⟩

theorem mem_findings_iff {content : Text} {g : Finding} :
    g ∈ findings excluded file content ↔
      ∃ i line, content.lines[i]? = some line ∧
        g ∈ lineFindings excluded file (i + 1) line (content.lines.drop (i + 1)) := by
  simp only [findings, mem_readLines_iff, Nat.add_comm 1]

end Tangle
