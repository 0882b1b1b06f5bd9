import Tangle.Declaration
import Tangle.Proofs.Text

/-!
# Reading written tokens

Each token, written in front of any text that does not continue it, is read back, and the scan goes
on with that text. Words end where no word part follows, quoted texts end with their quote, and
separators leave nothing.
-/

namespace Tangle.Declaration

namespace Token

/-! ## Kinds of characters -/

theorem isWordPart_of_word {c : Char} (h : isWordCharacter c = true) : isWordPart c = true := by
  simp [isWordPart, h]

/-- Neither a separator nor an equals sign continues a word. -/
theorem isWordPart_separator {c : Char} (h : isSeparator c = true) : isWordPart c = false := by
  simp only [isSeparator, Bool.or_eq_true, decide_eq_true_eq] at h
  rcases h with (rfl | rfl) | rfl <;> decide

theorem isSeparator_word {c : Char} (h : isWordCharacter c = true) : isSeparator c = false := by
  cases hsep : isSeparator c with
  | false => rfl
  | true =>
    have hpart := isWordPart_separator hsep
    rw [isWordPart_of_word h] at hpart
    cases hpart

theorem ne_equals_of_word {c : Char} (h : isWordCharacter c = true) : c ≠ '=' := by
  rintro rfl
  revert h
  decide

/-! ## One step of the scan -/

theorem scan_of_next_some {c : Char} {rest after : Text} {token : Token}
    (h : next c rest = (some token, after)) : scan (c :: rest) = token :: scan after := by
  rw [scan, h]

theorem scan_of_next_none {c : Char} {rest after : Text} (h : next c rest = (none, after)) :
    scan (c :: rest) = scan after := by
  rw [scan, h]

/-! ## Separators -/

theorem scan_dropWhile (text : Text) : scan (text.dropWhile isSeparator) = scan text := by
  cases text with
  | nil => rfl
  | cons c rest =>
    cases hsep : isSeparator c with
    | false => rw [List.dropWhile_cons_of_neg (by simp [hsep])]
    | true =>
      have hne : c ≠ '=' := by
        rintro rfl
        revert hsep
        decide
      have hnext : next c rest = (none, rest.dropWhile isSeparator) := by
        rw [next, if_neg hne, if_pos hsep]
      rw [List.dropWhile_cons_of_pos hsep, scan_of_next_none hnext]

/-- Separators in front of a text leave no token. -/
theorem scan_separators {gap : Text} (h : ∀ c ∈ gap, isSeparator c = true) (rest : Text) :
    scan (gap ++ rest) = scan rest := by
  rw [← scan_dropWhile (gap ++ rest), List.dropWhile_append_of_pos h, scan_dropWhile]

/-! ## Tokens -/

theorem scan_equals (rest : Text) : scan ('=' :: rest) = .equals :: scan rest :=
  scan_of_next_some rfl

/-- A text that does not continue a word: it is empty or begins with no word part. -/
def EndsWord (text : Text) : Prop := ∀ c ∈ text.head?, isWordPart c = false

theorem endsWord_nil : EndsWord [] := by
  rintro c ⟨⟩

theorem endsWord_cons {c : Char} (h : isWordPart c = false) (rest : Text) :
    EndsWord (c :: rest) := by
  rintro _ ⟨⟩
  exact h

/-- Separators end a word, and where there are none, what follows has to. -/
theorem endsWord_append {gap rest : Text} (h : ∀ c ∈ gap, isSeparator c = true)
    (hrest : gap = [] → EndsWord rest) : EndsWord (gap ++ rest) := by
  cases gap with
  | nil => exact hrest rfl
  | cons c gap => exact endsWord_cons (isWordPart_separator (h c List.mem_cons_self)) _

theorem scan_word {c : Char} {more : Text} (hc : isWordCharacter c = true)
    (hmore : ∀ d ∈ more, isWordPart d = true) {rest : Text} (hrest : EndsWord rest) :
    scan (c :: more ++ rest) = .word (c :: more) :: scan rest := by
  -- nothing of the rest belongs to the word
  have htake : rest.takeWhile isWordPart = [] ∧ rest.dropWhile isWordPart = rest := by
    cases rest with
    | nil => exact ⟨rfl, rfl⟩
    | cons d rest =>
      have hd : ¬ isWordPart d = true := by simp [hrest d rfl]
      exact ⟨List.takeWhile_cons_of_neg hd, List.dropWhile_cons_of_neg hd⟩
  have hnext : next c (more ++ rest) = (some (.word (c :: more)), rest) := by
    rw [next, if_neg (ne_equals_of_word hc), if_neg (by simp [isSeparator_word hc]), if_pos hc,
      List.takeWhile_append_of_pos hmore, List.dropWhile_append_of_pos hmore, htake.1, htake.2,
      List.append_nil]
  exact scan_of_next_some hnext

theorem scan_singleQuoted {inside : Text} (h : '\'' ∉ inside) (rest : Text) :
    scan ('\'' :: (inside ++ '\'' :: rest)) = .singleQuoted inside :: scan rest := by
  refine scan_of_next_some ?_
  rw [next, if_neg (by decide), if_neg (by decide), if_neg (by decide), if_neg (by decide),
    if_pos rfl, Text.splitFirst?_append h]

theorem scan_doubleQuoted {inside : Text} {rest after : Text}
    (h : closeDouble? rest = some (inside, after)) :
    scan ('"' :: rest) = .doubleQuoted inside :: scan after := by
  refine scan_of_next_some ?_
  rw [next, if_neg (by decide), if_neg (by decide), if_neg (by decide), if_pos rfl, h]

end Token

/-! ## Escapes -/

/-- Writes a character between double quotes: a backslash stands before a backslash and before a
double quote. -/
def escapeChar (c : Char) : Text := if c = '\\' || c = '"' then ['\\', c] else [c]

/-- Writes a text between double quotes. -/
def escape (text : Text) : Text := text.flatMap escapeChar

theorem escape_cons (c : Char) (text : Text) : escape (c :: text) = escapeChar c ++ escape text :=
  rfl

theorem escapeChar_cases (c : Char) :
    ((c = '\\' ∨ c = '"') ∧ escapeChar c = ['\\', c]) ∨
      (c ≠ '\\' ∧ c ≠ '"' ∧ escapeChar c = [c]) := by
  unfold escapeChar
  by_cases hback : c = '\\'
  · exact Or.inl ⟨Or.inl hback, if_pos (by simp [hback])⟩
  by_cases hquote : c = '"'
  · exact Or.inl ⟨Or.inr hquote, if_pos (by simp [hquote])⟩
  · exact Or.inr ⟨hback, hquote, if_neg (by simp [hback, hquote])⟩

/-- A written character is passed over when the closing quote is looked for. -/
theorem closeDouble?_escapeChar (c : Char) (rest : Text) :
    Token.closeDouble? (escapeChar c ++ rest) =
      (Token.closeDouble? rest).map fun (inside, after) => (escapeChar c ++ inside, after) := by
  rcases escapeChar_cases c with ⟨hc, hwritten⟩ | ⟨hback, hquote, hwritten⟩
  · have hline : c ≠ '\n' := by
      rintro rfl
      revert hc
      decide
    rw [hwritten]
    show Token.closeDouble? ('\\' :: c :: rest) = _
    rw [Token.closeDouble?, if_neg hline]
    rfl
  · rw [hwritten]
    show Token.closeDouble? (c :: rest) = _
    -- neither the equation for a quote nor those for a backslash apply
    rw [Token.closeDouble?]
    · rfl
    · exact hquote
    · exact fun h _ => hback h
    · exact fun _ _ h _ => hback h

/-- The quote after an escaped text closes it, and no quote before does. -/
theorem closeDouble?_escape (text rest : Text) :
    Token.closeDouble? (escape text ++ '"' :: rest) = some (escape text, rest) := by
  induction text with
  | nil => rfl
  | cons c text ih =>
    rw [escape_cons, List.append_assoc, closeDouble?_escapeChar, ih]
    rfl

/-- A written character is restored. -/
theorem unescape?_escapeChar (c : Char) (rest : Text) :
    unescape? (escapeChar c ++ rest) = (unescape? rest).map (c :: ·) := by
  rcases escapeChar_cases c with ⟨hc, hwritten⟩ | ⟨hback, -, hwritten⟩
  · have hescaped : escaped? c = some c := by
      rcases hc with rfl | rfl <;> rfl
    have hunicode : c ≠ 'u' := by
      rintro rfl
      revert hc
      decide
    rw [hwritten]
    show unescape? ('\\' :: c :: rest) = _
    rw [unescape?, hescaped]
    · cases unescape? rest <;> rfl
    · exact fun _ h _ => hunicode h
  · rw [hwritten]
    show unescape? (c :: rest) = _
    rw [unescape?]
    · exact fun _ h _ => hback h
    · exact fun _ _ h _ => hback h
    · exact fun h _ => hback h

/-- Replacing the escapes gives back the text that was written. -/
theorem unescape?_escape (text : Text) : unescape? (escape text) = some text := by
  induction text with
  | nil => rw [escape, List.flatMap_nil, unescape?]
  | cons c text ih =>
    rw [escape_cons, unescape?_escapeChar, ih]
    rfl

end Tangle.Declaration
