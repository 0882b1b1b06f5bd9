import Mathlib.Data.List.Induction
import Tangle.Command
import Tangle.Proofs.Context
import Tangle.Proofs.Stencil

/-!
# Placeholders

The templates that most people write are text with names in double braces. For these the tokens, the
expressions and the environment of templates come down to one sentence: the text stays as it is, and
each name gives way to what the scope has for it. A content is put in as it is. That it may look
like a template, or like markup, has no consequence.

The parts of such a template are pieces. Literal texts next to each other are read as one, and so
the pieces are merged first, which changes neither what is written nor what it stands for.
-/

namespace Tangle.Stencil

/-! ## Pieces of templates -/

/-- Words that a template does not read as the name of a variable. -/
def keywords : List Text :=
  ["true", "True", "false", "False", "none", "None", "not"].map String.toList

/-- Names that mean something to every template, whatever the scope. -/
def globals : List Text := ["range", "dict", "debug", "namespace"].map String.toList

/-- A name that is looked up in the scope and nowhere else. -/
structure IsVariable (name : Text) : Prop where
  start : ∃ c ∈ name.head?, Token.isNameStart c = true
  word : ∀ c ∈ name, isWordCharacter c = true
  not_keyword : name ∉ keywords
  not_global : name ∉ globals
  ne_metaName : name ≠ metaName

/-- A part of a template. -/
inductive Piece where
  | literal (text : Text)
  | placeholder (name : Text)

namespace Piece

/-- A piece as a template writes it. -/
def write : Piece → Text
  | literal text => text
  | placeholder name => '{' :: '{' :: ' ' :: (name ++ [' ', '}', '}'])

/-- What a piece stands for in a scope with the given version. -/
def filled (scope : Scope) (version : Nat) : Piece → Text
  | literal text => text
  | placeholder name =>
    match scope.get? name with
    | some content => content
    | none => if name = versionName then Text.ofNat version else []

/-- A text without an opening brace, or the name of a variable. -/
def Plain : Piece → Prop
  | literal text => '{' ∉ text
  | placeholder name => IsVariable name

/-- Pieces behind a text, with the literal texts next to each other put together. -/
def mergedAfter (before : Text) : List Piece → List Piece
  | [] => [literal before]
  | literal text :: more => mergedAfter (before ++ text) more
  | placeholder name :: more => literal before :: placeholder name :: mergedAfter [] more

/-- Merging changes nothing for what takes a literal text as it is. -/
theorem flatMap_mergedAfter {f : Piece → Text} (h : ∀ text, f (literal text) = text) (before : Text)
    (pieces : List Piece) : (mergedAfter before pieces).flatMap f = before ++ pieces.flatMap f := by
  induction pieces generalizing before with
  | nil => simp [mergedAfter, h]
  | cons p more ih =>
    cases p with
    | literal text => rw [mergedAfter, ih, List.flatMap_cons, h, List.append_assoc]
    | placeholder name => simp [mergedAfter, ih, h]

/-- Merged pieces are as plain as the pieces. -/
theorem plain_of_mem_mergedAfter {before : Text} {pieces : List Piece} (hbefore : '{' ∉ before)
    (h : ∀ p ∈ pieces, p.Plain) : ∀ p ∈ mergedAfter before pieces, p.Plain := by
  induction pieces generalizing before with
  | nil =>
    intro p hp
    rw [List.mem_singleton.mp hp]
    exact hbefore
  | cons p more ih =>
    obtain ⟨hp, hmore⟩ := List.forall_mem_cons.mp h
    cases p with
    | literal text =>
      have htext : '{' ∉ before ++ text := by
        rw [List.mem_append]
        exact not_or.mpr ⟨hbefore, hp⟩
      exact ih htext hmore
    | placeholder name =>
      intro q hq
      rcases List.mem_cons.mp hq with rfl | hq
      · exact hbefore
      · rcases List.mem_cons.mp hq with rfl | hq
        · exact hp
        · exact ih List.not_mem_nil hmore q hq

end Piece

/-! ## Tokens of a placeholder -/

namespace Token

section Name

variable {c : Char} (h : isNameStart c = true)

include h

theorem isDigit_of_isNameStart : isDigit c = false := by
  have hletter : ('A' ≤ c ∧ c ≤ 'Z') ∨ ('a' ≤ c ∧ c ≤ 'z') ∨ c = '_' := by
    simpa [isNameStart, isLatinLetter, or_assoc] using h
  have hlow : 65 ≤ c.toNat := by
    rcases hletter with ⟨hlow, -⟩ | ⟨hlow, -⟩ | rfl
    · exact hlow
    · exact Nat.le_trans (by decide) (show 97 ≤ c.toNat from hlow)
    · decide
  by_contra hdigit
  rw [Bool.not_eq_false, isDigit, Bool.and_eq_true, decide_eq_true_eq, decide_eq_true_eq] at hdigit
  have hhigh : c.toNat ≤ 57 := hdigit.2
  omega

/-- No sign, quote or number begins like a name. -/
theorem readToken_of_isNameStart (rest : Text) :
    readToken c rest =
      some (.name (c :: rest.takeWhile isWordCharacter), rest.dropWhile isWordCharacter) := by
  -- each of the characters that signs and quotes begin with is tried
  have hlong : longSign? (c :: rest) = none := by
    unfold longSign?
    split
    all_goals first | rfl | (rename_i heq; cases heq; exact absurd h (by decide))
  have hshort : shortSign? c = none := by
    unfold shortSign?
    split
    all_goals first | rfl | exact absurd h (by decide)
  have hquote : ¬ (c = '"' ∨ c = '\'') := by
    rintro (rfl | rfl)
    · exact absurd h (by decide)
    · exact absurd h (by decide)
  have hdigit := isDigit_of_isNameStart h
  simp [readToken, hlong, hshort, hquote, hdigit, h]

theorem isBlank_of_isNameStart : isBlank c = false := by
  by_contra hblank
  rw [Bool.not_eq_false] at hblank
  have hcases : c = ' ' ∨ c = '\t' ∨ c = '\n' ∨ c = '\x0C' ∨ c = '\r' := by
    simpa [isBlank, or_assoc] using hblank
  rcases hcases with rfl | rfl | rfl | rfl | rfl
  all_goals exact absurd h (by decide)

theorem afterEnd?_of_isNameStart (rest : Text) : afterEnd? '}' (c :: rest) = none := by
  unfold afterEnd?
  split
  all_goals first
    | rfl
    | (rename_i heq; cases heq; exact absurd h (by decide))
    | (rename_i heq; cases heq; exact if_neg fun hc => absurd (hc ▸ h) (by decide))

end Name

/-- Between the braces of a placeholder stands one token. -/
theorem readAll_name {name : Text} (hstart : ∃ c ∈ name.head?, isNameStart c = true)
    (hword : ∀ c ∈ name, isWordCharacter c = true) (rest : Text) {fuel : Nat} (hfuel : 2 ≤ fuel) :
    readAll '}' fuel 0 (' ' :: (name ++ ' ' :: '}' :: '}' :: rest)) =
      some ([.name name], false, rest) := by
  obtain ⟨fuel, rfl⟩ := Nat.exists_eq_add_of_le' hfuel
  obtain ⟨c, hc, hstart⟩ := hstart
  obtain ⟨more, rfl⟩ : ∃ more, name = c :: more := List.head?_eq_some_iff.mp hc
  have hmore : ∀ d ∈ more, isWordCharacter d = true := fun d hd =>
    hword d (List.mem_cons_of_mem c hd)
  have hskip : (' ' :: (c :: more ++ ' ' :: '}' :: '}' :: rest)).dropWhile isBlank =
      c :: (more ++ ' ' :: '}' :: '}' :: rest) := by
    rw [List.dropWhile_cons_of_pos rfl, List.cons_append,
      List.dropWhile_cons_of_neg (by simp [isBlank_of_isNameStart hstart])]
  -- a name ends at the blank behind it
  have hname : (more ++ ' ' :: '}' :: '}' :: rest).takeWhile isWordCharacter = more ∧
      (more ++ ' ' :: '}' :: '}' :: rest).dropWhile isWordCharacter =
        ' ' :: '}' :: '}' :: rest := by
    rw [List.takeWhile_append_of_pos hmore, List.dropWhile_append_of_pos hmore]
    exact ⟨List.append_nil more, rfl⟩
  have hend : readAll '}' (fuel + 1) 0 (' ' :: '}' :: '}' :: rest) = some ([], false, rest) := rfl
  rw [readAll, hskip, if_pos rfl, afterEnd?_of_isNameStart hstart]
  have hopens : (0 : Int) + (Token.name (c :: more)).opens = 0 := rfl
  simp only [readToken_of_isNameStart hstart, hname, Option.bind_eq_bind, Option.bind_some, hopens,
    hend]

end Token

/-! ## Segments -/

namespace Segment

theorem splitMarker_append {before : Text} (h : '{' ∉ before) (rest : Text) :
    splitMarker (before ++ rest) = (before ++ (splitMarker rest).1, (splitMarker rest).2) := by
  induction before with
  | nil => rfl
  | cons c before ih =>
    obtain ⟨hc, hbefore⟩ : '{' ≠ c ∧ '{' ∉ before := by simpa [not_or] using h
    rw [List.cons_append, splitMarker, ih hbefore]
    · rfl
    all_goals
      intro _ heq
      exact absurd heq.symm hc

/-- A placeholder is one segment, behind that of the text before it. -/
theorem scanFrom_placeholder {before name : Text} (hbefore : '{' ∉ before) (hname : IsVariable name)
    (source : Text) (fuel : Nat) :
    scanFrom (fuel + 1) false (before ++ ((Piece.placeholder name).write ++ source)) =
      (scanFrom fuel false source).map fun more =>
        ofText before ++ .expression [.name name] :: more := by
  have hwrite : (Piece.placeholder name).write ++ source =
      '{' :: '{' :: ' ' :: (name ++ ' ' :: '}' :: '}' :: source) := by
    simp [Piece.write]
  have hcontrol (rest : Text) : control (' ' :: rest) = (false, ' ' :: rest) := rfl
  rw [hwrite, scanFrom, if_neg Bool.false_ne_true, splitMarker_append hbefore, splitMarker]
  simp only [hcontrol]
  rw [Token.readAll_name hname.start hname.word source (by simp), Option.bind_eq_bind,
    Option.bind_some, List.append_nil]
  cases scanFrom fuel false source with
  | none => rfl
  | some more => rfl

end Segment

namespace Piece

/-- The segments of a piece. -/
def segments : Piece → List Segment
  | literal text => Segment.ofText text
  | placeholder name => [.expression [.name name]]

theorem scanFrom_flatMap_write {pieces : List Piece} (h : ∀ p ∈ pieces, p.Plain) {before : Text}
    (hbefore : '{' ∉ before) {fuel : Nat}
    (hfuel : (before ++ pieces.flatMap write).length < fuel) :
    Segment.scanFrom fuel false (before ++ pieces.flatMap write) =
      some ((mergedAfter before pieces).flatMap segments) := by
  -- a literal text joins the one in front of it, which is why that one is generalized
  induction pieces generalizing before fuel with
  | nil =>
    obtain ⟨fuel, rfl⟩ := Nat.exists_eq_succ_of_ne_zero (Nat.ne_zero_of_lt hfuel)
    rw [Segment.scanFrom, if_neg Bool.false_ne_true, List.flatMap_nil,
      Segment.splitMarker_append hbefore, Segment.splitMarker, List.append_nil]
    exact congrArg some (List.append_nil _).symm
  | cons p more ih =>
    obtain ⟨hp, hmore⟩ := List.forall_mem_cons.mp h
    cases p with
    | literal text =>
      have htext : '{' ∉ before ++ text := by
        rw [List.mem_append]
        exact not_or.mpr ⟨hbefore, hp⟩
      have hsource : before ++ (literal text :: more).flatMap write =
          before ++ text ++ more.flatMap write := by
        rw [List.flatMap_cons, write, List.append_assoc]
      rw [hsource] at hfuel ⊢
      exact ih hmore htext hfuel
    | placeholder name =>
      rw [List.flatMap_cons, List.length_append, List.length_append] at hfuel
      obtain ⟨fuel, rfl⟩ := Nat.exists_eq_succ_of_ne_zero (Nat.ne_zero_of_lt hfuel)
      have hlength : 0 < (placeholder name).write.length := by simp [write]
      have hmerged : Segment.scanFrom fuel false (more.flatMap write) =
          some ((mergedAfter [] more).flatMap segments) :=
        ih hmore List.not_mem_nil (by rw [List.nil_append]; omega)
      rw [List.flatMap_cons, Segment.scanFrom_placeholder hbefore hp, hmerged]
      rfl

end Piece

/-! ## Statements -/

theorem IsVariable.readWhole {name : Text} (h : IsVariable name) :
    Expression.readWhole [.name name] = some (.name name) := by
  have hwords := h.not_keyword
  simp only [keywords, List.map_cons, List.map_nil, List.mem_cons, List.not_mem_nil, or_false,
    not_or] at hwords
  obtain ⟨htrue, hTrue, hfalse, hFalse, hnone, hNone, hnot⟩ := hwords
  refine Expression.readWhole_path ?_ [] hnot
  rw [Expression.constantOf?, if_neg (not_or.mpr ⟨htrue, hTrue⟩),
    if_neg (not_or.mpr ⟨hfalse, hFalse⟩), if_neg (not_or.mpr ⟨hnone, hNone⟩)]

namespace Piece

/-- The statements of a piece. -/
def statements : Piece → List Statement
  | literal text => if text.isEmpty then [] else [.text text]
  | placeholder name => [.emit (.name name)]

theorem readBlock_segments {pieces : List Piece} (h : ∀ p ∈ pieces, p.Plain) {fuel : Nat}
    (hfuel : (pieces.flatMap segments).length < fuel) :
    Statement.readBlock fuel [] (pieces.flatMap segments) =
      some (pieces.flatMap statements, none, []) := by
  induction pieces generalizing fuel with
  | nil =>
    obtain ⟨fuel, rfl⟩ := Nat.exists_eq_succ_of_ne_zero (Nat.ne_zero_of_lt hfuel)
    rfl
  | cons p more ih =>
    obtain ⟨hp, hmore⟩ := List.forall_mem_cons.mp h
    obtain ⟨fuel, rfl⟩ := Nat.exists_eq_succ_of_ne_zero (Nat.ne_zero_of_lt hfuel)
    rw [List.flatMap_cons, List.length_append] at hfuel
    cases p with
    | literal text =>
      by_cases hempty : text.isEmpty
      · have hsegments : (literal text).segments = [] := if_pos hempty
        have hstatements : (literal text).statements = [] := if_pos hempty
        rw [List.flatMap_cons, List.flatMap_cons, hsegments, hstatements]
        exact ih hmore (by omega)
      · have hsegments : (literal text).segments = [.text text] := if_neg hempty
        have hstatements : (literal text).statements = [.text text] := if_neg hempty
        rw [hsegments, List.length_singleton] at hfuel
        rw [List.flatMap_cons, List.flatMap_cons, hsegments, hstatements, List.singleton_append,
          Statement.readBlock, ih hmore (by omega)]
        rfl
    | placeholder name =>
      rw [segments, List.length_singleton] at hfuel
      rw [List.flatMap_cons, List.flatMap_cons, segments, statements, List.singleton_append,
        Statement.readBlock, IsVariable.readWhole hp, ih hmore (by omega)]
      rfl

/-- What a piece stands for where names have values. -/
def shown (env : Environment) : Piece → Text
  | literal text => text
  | placeholder name => env.written (env.lookup name)

theorem renderAll_statements (env : Environment) (pieces : List Piece) :
    renderAll env (pieces.flatMap statements) = some (pieces.flatMap (shown env), env) := by
  induction pieces with
  | nil => rfl
  | cons p more ih =>
    cases p with
    | literal text =>
      by_cases hempty : text.isEmpty
      · have hstatements : (literal text).statements = [] := if_pos hempty
        rw [List.flatMap_cons, hstatements, List.nil_append, ih, List.flatMap_cons, shown,
          List.isEmpty_iff.mp hempty, List.nil_append]
      · have hstatements : (literal text).statements = [.text text] := if_neg hempty
        rw [List.flatMap_cons, hstatements, List.singleton_append, renderAll, Statement.render]
        simp only [Option.bind_eq_bind, Option.bind_some, ih]
        rfl
    | placeholder name =>
      rw [List.flatMap_cons, statements, List.singleton_append, renderAll, Statement.render,
        Expression.value]
      simp only [Option.bind_eq_bind, Option.bind_some, Option.map_some, ih]
      rfl

end Piece

/-! ## What names stand for -/

/-- A name has the content that is bound to it. The version can be claimed, and only the reserved
name cannot. -/
theorem lookup_contextOf (scope : Scope) {name : Text} (h : name ≠ metaName) :
    Environment.lookup { context := contextOf scope, frames := [[]] } name =
      match scope.get? name with
      | some content => .ofText content
      | none => if name = versionName then .ofNat? scope.version else .undefined := by
  rw [Environment.lookup, List.flatten_singleton, List.nil_append, find?_contextOf, if_neg h]
  cases scope.get? name with
  | some content => rfl
  | none => by_cases hversion : name = versionName <;> simp [hversion]

namespace Piece

variable {scope : Scope} {version : Nat}

/-- Where names have the values of a scope, a piece is filled from the scope. -/
theorem shown_contextOf (hversion : scope.version = some version) {p : Piece} (h : p.Plain) :
    p.shown { context := contextOf scope, frames := [[]] } = p.filled scope version := by
  cases p with
  | literal text => rfl
  | placeholder name =>
    rw [shown, filled, lookup_contextOf scope h.ne_metaName, hversion]
    cases scope.get? name with
    | some content => rfl
    | none =>
      by_cases hname : name = versionName
      · simp only [if_pos hname]
        rfl
      · simp only [if_neg hname]
        rfl

/-- A line feed at the end is part of a literal text. -/
theorem getLast?_flatMap_filled {pieces : List Piece}
    (h : (pieces.flatMap write).getLast? = some '\n') :
    (pieces.flatMap (filled scope version)).getLast? = some '\n' := by
  induction pieces using List.reverseRecOn with
  | nil => cases h
  | append_singleton pieces p ih =>
    rw [List.flatMap_append, List.flatMap_singleton, List.getLast?_append] at h ⊢
    cases p with
    | literal text =>
      -- an empty text leaves the end to the pieces before it
      rw [write] at h
      rw [filled]
      cases htext : text.getLast? with
      | none =>
        rw [htext] at h
        exact ih h
      | some c =>
        rw [htext] at h
        exact h
    | placeholder name =>
      have hlast : (placeholder name).write.getLast? = some '}' := by
        rw [write, List.getLast?_cons, List.getLast?_cons, List.getLast?_cons, List.getLast?_append]
        rfl
      rw [hlast] at h
      exact absurd (Option.some.inj h) (by decide)

end Piece

/-- **Contents are put in as they are.** A template of literal texts without opening braces and of
names between double braces is rendered to the same texts, with each name replaced by the content
that the scope has for it, by the version if it is the name of the version and not bound, and by
nothing if it is another one that is not bound. A line feed at the end of the template is kept. The
name of the template does not matter. -/
theorem renderer_fills {scope : Scope} {version : Nat} (hversion : scope.version = some version)
    {pieces : List Piece} (h : ∀ p ∈ pieces, p.Plain) (template : Text) :
    renderer template (pieces.flatMap Piece.write) scope =
      some (pieces.flatMap (Piece.filled scope version)) ∧
    ((pieces.flatMap Piece.write).getLast? = some '\n' →
      (pieces.flatMap (Piece.filled scope version)).getLast? = some '\n') := by
  refine ⟨?_, Piece.getLast?_flatMap_filled⟩
  -- literal texts next to each other are put together before the template is read
  let merged := Piece.mergedAfter [] pieces
  have hmerged : ∀ p ∈ merged, p.Plain := Piece.plain_of_mem_mergedAfter List.not_mem_nil h
  have hscan : Segment.scan (pieces.flatMap Piece.write) = some (merged.flatMap Piece.segments) :=
    Piece.scanFrom_flatMap_write h List.not_mem_nil (Nat.lt_succ_self _)
  have hread : Statement.readTemplate (pieces.flatMap Piece.write) =
      some (merged.flatMap Piece.statements) := by
    rw [Statement.readTemplate, hscan, Option.bind_eq_bind, Option.bind_some,
      Piece.readBlock_segments hmerged (by omega)]
    rfl
  have hfilled : merged.flatMap (Piece.shown { context := contextOf scope, frames := [[]] }) =
      pieces.flatMap (Piece.filled scope version) := by
    rw [List.flatMap_congr fun p hp => Piece.shown_contextOf hversion (hmerged p hp)]
    exact Piece.flatMap_mergedAfter (fun _ => rfl) [] pieces
  rw [renderer, render, renderIn, hread, Option.bind_eq_bind, Option.bind_some,
    Piece.renderAll_statements, hfilled]
  rfl

/-- Contents that look like placeholders, statements and markup. -/
def scopeWithBraces : Scope where
  bindings := [
    (['a'], "<i>\x7b\x7b b \x7d\x7d</i>\n".toList),
    (['b'], "\x7b% raw %\x7d".toList)]
  version := some 12

/-- Names of which the first two are bound, with closing braces next to them. -/
def piecesWithBraces : List Piece :=
  [.literal ['\x7d'], .placeholder ['a'], .literal ['\x7d', '\x7d'], .placeholder ['b'],
    .placeholder versionName, .literal ['\n'], .placeholder ['c'], .literal ['\n']]

theorem renderer_fills_with_braces :
    (∀ p ∈ piecesWithBraces, p.Plain) ∧ scopeWithBraces.version = some 12 ∧
      renderer "t.html".toList (piecesWithBraces.flatMap Piece.write) scopeWithBraces =
        some "\x7d<i>\x7b\x7b b \x7d\x7d</i>\n\x7d\x7d\x7b% raw %\x7d12\n\n".toList := by
  have hvariable : ∀ name ∈ [['a'], ['b'], ['c'], versionName], IsVariable name := by
    intro name hname
    simp only [List.mem_cons, List.not_mem_nil, or_false] at hname
    rcases hname with rfl | rfl | rfl | rfl
    all_goals
      exact ⟨⟨_, rfl, by decide⟩, List.all_eq_true.mp (by decide), by decide, by decide, by decide⟩
  have hplain : ∀ p ∈ piecesWithBraces, p.Plain := by
    simp [piecesWithBraces, Piece.Plain, hvariable]
  have hversion : scopeWithBraces.version = some 12 := rfl
  refine ⟨hplain, hversion, ?_⟩
  rw [(renderer_fills hversion hplain _).1]
  decide +kernel

end Tangle.Stencil
