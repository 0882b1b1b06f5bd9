import Tangle.Text

/-!
# Tokens of a declaration

The text between the braces of a declaration line is read as a list of tokens, always the longest
one that fits. Blanks, tabs and commas only separate. What begins no token, and a quote that is
never closed, stays in the list as a token of its own, so that it keeps its neighbours apart.
-/

namespace Tangle.Declaration

/-- A token of a declaration. Quoted tokens hold the text between their quotes as written. -/
inductive Token where
  | equals
  | word (text : Text)
  | singleQuoted (inside : Text)
  | doubleQuoted (inside : Text)
  | unknown
  deriving Repr, DecidableEq, Inhabited

namespace Token

/-- Characters that separate tokens. -/
def isSeparator (c : Char) : Bool := c = ' ' || c = '\t' || c = ','

/-- Characters that can follow the first one of a word. -/
def isWordPart (c : Char) : Bool :=
  isWordCharacter c || c = '.' || c = '-' || c = '/' || c = '+'

/-- Splits the text after a double quote at the quote that closes it. A backslash takes the next
character with it, whatever it is, except a line feed. -/
def closeDouble? : Text → Option (Text × Text)
  | [] => none
  | '"' :: rest => some ([], rest)
  | ['\\'] => none
  | '\\' :: c :: rest =>
    if c = '\n' then none
    else (closeDouble? rest).map fun (inside, after) => ('\\' :: c :: inside, after)
  | c :: rest => (closeDouble? rest).map fun (inside, after) => (c :: inside, after)

/-- What is left after a double quote that nothing closes: all of it is passed over, up to a
backslash before a line feed. -/
def afterUnclosedDouble : Text → Text
  | [] => []
  | ['\\'] => []
  | '\\' :: c :: rest => if c = '\n' then c :: rest else afterUnclosedDouble rest
  | _ :: rest => afterUnclosedDouble rest

/-- The first token of `c :: rest`, if it is one, and the text after it. -/
def next (c : Char) (rest : Text) : Option Token × Text :=
  if c = '=' then (some .equals, rest)
  else if isSeparator c then (none, rest.dropWhile isSeparator)
  else if isWordCharacter c then
    (some (.word (c :: rest.takeWhile isWordPart)), rest.dropWhile isWordPart)
  else if c = '"' then
    match closeDouble? rest with
    | some (inside, after) => (some (.doubleQuoted inside), after)
    | none => (some .unknown, afterUnclosedDouble rest)
  else if c = '\'' then
    match rest.splitFirst? '\'' with
    | some (inside, after) => (some (.singleQuoted inside), after)
    | none => (some .unknown, [])
  else (some .unknown, rest)

theorem length_dropWhile_le (p : Char → Bool) (text : Text) :
    (text.dropWhile p).length ≤ text.length := by
  induction text with
  | nil => simp
  | cons c rest ih =>
    rw [List.dropWhile_cons]
    split
    · exact Nat.le_succ_of_le ih
    · exact Nat.le_refl _

theorem length_of_closeDouble? {text inside after : Text}
    (h : closeDouble? text = some (inside, after)) : after.length ≤ text.length := by
  fun_induction closeDouble? text generalizing inside after with
  | case1 => simp at h
  | case2 rest => simp_all
  | case3 => simp at h
  | case4 => simp at h
  | case5 c rest _ ih =>
    obtain ⟨⟨i, a⟩, hclose, heq⟩ := Option.map_eq_some_iff.1 h
    simp only [Prod.mk.injEq] at heq
    have := ih hclose
    simp only [List.length_cons, ← heq.2]
    omega
  | case6 c rest _ _ _ ih =>
    obtain ⟨⟨i, a⟩, hclose, heq⟩ := Option.map_eq_some_iff.1 h
    simp only [Prod.mk.injEq] at heq
    have := ih hclose
    simp only [List.length_cons, ← heq.2]
    omega

theorem length_afterUnclosedDouble (text : Text) :
    (afterUnclosedDouble text).length ≤ text.length := by
  fun_induction afterUnclosedDouble text <;> simp_all <;> omega

theorem length_of_splitFirst? {c : Char} {text before after : Text}
    (h : text.splitFirst? c = some (before, after)) : after.length ≤ text.length := by
  unfold Text.splitFirst? at h
  have hle := length_dropWhile_le (· ≠ c) text
  split at h
  · simp at h
  · rename_i heq
    rw [heq] at hle
    simp only [Option.some.injEq, Prod.mk.injEq] at h
    simp only [List.length_cons, h.2] at hle
    omega

/-- Reading a token never gives back more text than there was after its first character. -/
theorem length_next (c : Char) (rest : Text) : (next c rest).2.length ≤ rest.length := by
  unfold next
  split
  · exact Nat.le_refl _
  split
  · exact length_dropWhile_le _ _
  split
  · exact length_dropWhile_le _ _
  split
  · split
    · rename_i heq; exact length_of_closeDouble? heq
    · exact length_afterUnclosedDouble _
  split
  · split
    · rename_i heq; exact length_of_splitFirst? heq
    · exact Nat.zero_le _
  · exact Nat.le_refl _

/-- The tokens of a text, separators left out. -/
def scan : Text → List Token
  | [] => []
  | c :: rest =>
    match (next c rest).1 with
    | some token => token :: scan (next c rest).2
    | none => scan (next c rest).2
  termination_by text => text.length
  decreasing_by
    all_goals
      have := length_next c rest
      simp only [List.length_cons]
      omega

end Token

end Tangle.Declaration
