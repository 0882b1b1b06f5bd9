import Tangle.Proofs.Declaration.Fields
import Tangle.Proofs.Declaration.Token

/-!
# The grammar of declarations

A declaration as an author writes it: keys and values, each value in one of three styles, with
separators as they please, and behind them any text. Reading gives back the keys and values exactly,
whatever that text is, and the fields of the declaration are the last values that are not empty.
-/

namespace Tangle.Declaration

/-! ## Written attributes -/

/-- The ways to write a value. -/
inductive Style where
  | bare
  | singleQuoted
  | doubleQuoted
  deriving Repr, DecidableEq

namespace Style

/-- Whether a value can be written in a style. Between double quotes any value can. -/
def fits : Style → Text → Bool
  | .bare, [] => false
  | .bare, c :: more => isWordCharacter c && more.all Token.isWordPart
  | .singleQuoted, value => !value.contains '\''
  | .doubleQuoted, _ => true

/-- The value as it is written. -/
def write : Style → Text → Text
  | .bare, value => value
  | .singleQuoted, value => '\'' :: (value ++ ['\''])
  | .doubleQuoted, value => '"' :: (escape value ++ ['"'])

/-- The token that is read where the value is written. -/
def token : Style → Text → Token
  | .bare, value => .word value
  | .singleQuoted, value => .singleQuoted value
  | .doubleQuoted, value => .doubleQuoted (escape value)

theorem fits_singleQuoted {value : Text} (h : '\'' ∉ value) : singleQuoted.fits value = true := by
  simpa [fits] using h

theorem value?_token (style : Style) (value : Text) : (style.token value).value? = some value := by
  cases style with
  | bare => rfl
  | singleQuoted => rfl
  | doubleQuoted => simp [token, Token.value?, unescape?_escape]

theorem scan_write {style : Style} {value : Text} (hfits : style.fits value = true) {rest : Text}
    (hrest : Token.EndsWord rest) :
    Token.scan (style.write value ++ rest) = style.token value :: Token.scan rest := by
  cases style with
  | bare =>
    cases value with
    | nil => cases hfits
    | cons c more =>
      simp only [fits, Bool.and_eq_true, List.all_eq_true] at hfits
      exact Token.scan_word hfits.1 hfits.2 hrest
  | singleQuoted =>
    have hquote : '\'' ∉ value := by simpa [fits] using hfits
    simpa [write, token] using Token.scan_singleQuoted hquote rest
  | doubleQuoted =>
    simpa [write, token] using Token.scan_doubleQuoted (closeDouble?_escape value rest)

end Style

/-- An attribute as it is written, with the separators around its equals sign and after it. -/
structure WrittenAttribute where
  key : Text
  value : Text
  style : Style
  beforeEquals : Text := []
  afterEquals : Text := []
  gap : Text
  key_nonempty : key ≠ [] := by decide
  key_word : key.all isWordCharacter = true := by decide
  value_fits : style.fits value = true := by decide
  separators : (beforeEquals ++ afterEquals ++ gap).all Token.isSeparator = true := by decide

namespace WrittenAttribute

/-- What is read from an attribute. -/
def pair (a : WrittenAttribute) : Attribute := ⟨a.key, a.value⟩

/-- The text of an attribute in front of what follows it. -/
def writeBefore (a : WrittenAttribute) (rest : Text) : Text :=
  a.key ++ (a.beforeEquals ++ '=' :: (a.afterEquals ++ (a.style.write a.value ++ (a.gap ++ rest))))

end WrittenAttribute

/-- The text of attributes in front of another text. -/
def writeAll : List WrittenAttribute → Text → Text
  | [], junk => junk
  | a :: more, junk => a.writeBefore (writeAll more junk)

/-- Every attribute has a separator after it, unless nothing follows. -/
def Separated : List WrittenAttribute → Text → Prop
  | [], _ => True
  | a :: more, junk => (a.gap = [] → more = [] ∧ junk = []) ∧ Separated more junk

/-- A line in braces: attributes, another text, and after the braces what ends the line. -/
def writeLine (written : List WrittenAttribute) (junk ending : Text) : Text :=
  '{' :: (writeAll written junk ++ '}' :: ending)

/-! ## Reading them -/

theorem isKey_of_word {word : Text} (h : word.all isWordCharacter = true) :
    isKey word = true := by
  refine List.all_eq_true.mpr fun c hc => ?_
  have hword := List.all_eq_true.mp h c hc
  simp only [isWordCharacter, Bool.or_eq_true, decide_eq_true_eq] at hword ⊢
  rcases hword with halphanumeric | hunderscore
  · -- a letter or digit lies below the end of ASCII
    have hascii : c.toNat < 0x80 := by
      simp only [isLatinLetter, isDigit, Bool.or_eq_true, Bool.and_eq_true, decide_eq_true_eq]
        at halphanumeric
      have hle (d : Char) (hd : c ≤ d) : c.toNat ≤ d.toNat := hd
      rcases halphanumeric with (⟨-, h⟩ | ⟨-, h⟩) | ⟨-, h⟩
      · exact Nat.lt_of_le_of_lt (hle _ h) (by decide)
      · exact Nat.lt_of_le_of_lt (hle _ h) (by decide)
      · exact Nat.lt_of_le_of_lt (hle _ h) (by decide)
    refine Or.inl ?_
    rw [isAlphanumeric, if_pos hascii, Bool.or_eq_true]
    exact halphanumeric
  · exact Or.inr hunderscore

/-- The tokens of a written attribute. -/
def WrittenAttribute.tokens (a : WrittenAttribute) : List Token :=
  [.word a.key, .equals, a.style.token a.value]

theorem scan_writeBefore (a : WrittenAttribute) {rest : Text}
    (hrest : a.gap = [] → Token.EndsWord rest) :
    Token.scan (a.writeBefore rest) = a.tokens ++ Token.scan rest := by
  have hseparators := a.separators
  simp only [List.all_append, Bool.and_eq_true, List.all_eq_true] at hseparators
  obtain ⟨⟨hbefore, hafter⟩, hgap⟩ := hseparators
  -- the key is a whole word, since separators or the equals sign follow it
  have hequals : Token.EndsWord (a.beforeEquals ++
      '=' :: (a.afterEquals ++ (a.style.write a.value ++ (a.gap ++ rest)))) :=
    Token.endsWord_append hbefore fun _ => Token.endsWord_cons (by decide) _
  obtain ⟨c, more, hkey⟩ := List.exists_cons_of_ne_nil a.key_nonempty
  have hword := a.key_word
  rw [hkey, List.all_cons, Bool.and_eq_true, List.all_eq_true] at hword
  calc Token.scan (a.writeBefore rest)
      = .word a.key :: Token.scan (a.beforeEquals ++
          '=' :: (a.afterEquals ++ (a.style.write a.value ++ (a.gap ++ rest)))) := by
        rw [WrittenAttribute.writeBefore, hkey]
        exact Token.scan_word hword.1 (fun d hd => Token.isWordPart_of_word (hword.2 d hd)) hequals
    _ = .word a.key :: .equals :: Token.scan (a.style.write a.value ++ (a.gap ++ rest)) := by
        rw [Token.scan_separators hbefore, Token.scan_equals, Token.scan_separators hafter]
    _ = a.tokens ++ Token.scan rest := by
        rw [Style.scan_write a.value_fits (Token.endsWord_append hgap hrest),
          Token.scan_separators hgap]
        rfl

theorem attributesOf_tokens (a : WrittenAttribute) (rest : List Token) :
    attributesOf (a.tokens ++ rest) = a.pair :: attributesOf rest := by
  show attributesOf (.word a.key :: .equals :: a.style.token a.value :: rest) = _
  rw [attributesOf, Style.value?_token]
  simp only [isKey_of_word a.key_word, if_true]
  rfl

theorem attributesOf_writeAll {written : List WrittenAttribute} {junk : Text}
    (h : Separated written junk) :
    attributesOf (Token.scan (writeAll written junk)) =
      written.map WrittenAttribute.pair ++ attributesOf (Token.scan junk) := by
  induction written with
  | nil => rfl
  | cons a more ih =>
    obtain ⟨hgap, hmore⟩ := h
    -- a bare value could only go on if nothing separated it from what follows
    have hends : a.gap = [] → Token.EndsWord (writeAll more junk) := by
      intro hnone
      obtain ⟨rfl, rfl⟩ := hgap hnone
      exact Token.endsWord_nil
    rw [writeAll, scan_writeBefore a hends, attributesOf_tokens, ih hmore]
    rfl

theorem inside?_braces {ending : Text} (h : ∀ c ∈ ending, Text.isTerminator c = true)
    (inside : Text) : inside? ('{' :: (inside ++ '}' :: ending)) = some inside := by
  have hline : Text.withoutTerminator (('{' :: inside) ++ '}' :: ending) =
      '{' :: (inside ++ ['}']) :=
    Text.withoutTerminator_append (by decide) h
  rw [inside?, ← List.cons_append, hline]
  exact Text.beforeEnd?_append inside ['}']

theorem attributes?_writeLine {written : List WrittenAttribute} {junk ending : Text}
    (hseparated : Separated written junk) (hending : ∀ c ∈ ending, Text.isTerminator c = true) :
    attributes? (writeLine written junk ending) =
      some (written.map WrittenAttribute.pair ++ attributesOf (Token.scan junk)) := by
  rw [attributes?, writeLine, inside?_braces hending, Option.map_some,
    attributesOf_writeAll hseparated]

/-- A line with nothing but attributes in its braces gives the declaration of these attributes. -/
theorem parse_writeLine {written : List WrittenAttribute} {ending : Text}
    (hseparated : Separated written []) (hending : ∀ c ∈ ending, Text.isTerminator c = true) :
    parse (writeLine written [] ending) = ofAttributes? (written.map WrittenAttribute.pair) := by
  have hnone : attributesOf (Token.scan []) = [] := by rw [Token.scan, attributesOf]
  rw [parse_eq, attributes?_writeLine hseparated hending, Option.bind_some, hnone, List.append_nil]

/-- **A written declaration is read exactly.** The attributes on a line are the written ones, with
their values restored, followed by those of the line with the rest alone. Where there is no such
rest, the line is a declaration exactly when it gives a language that is not empty; its fields are
the last values of their keys that are not empty, and attributes with different keys can change
places. -/
theorem read_written (written : List WrittenAttribute) (junk ending : Text)
    (separated : Separated written junk) (ended : ∀ c ∈ ending, Text.isTerminator c = true) :
    (∃ rest, attributes? (writeLine [] junk []) = some rest ∧
      attributes? (writeLine written junk ending) =
        some (written.map WrittenAttribute.pair ++ rest)) ∧
    (junk = [] →
      ((parse (writeLine written [] ending)).isSome ↔
        ∃ a ∈ written, a.key = ['l', 'a', 'n', 'g'] ∧ a.value ≠ []) ∧
      (∀ d, parse (writeLine written [] ending) = some d →
        IsLastValue (written.map WrittenAttribute.pair) ['l', 'a', 'n', 'g'] d.lang ∧
        (∀ value, d.name = some value ↔
          IsLastValue (written.map WrittenAttribute.pair) ['n', 'a', 'm', 'e'] value) ∧
        (∀ value, d.template = some value ↔
          IsLastValue (written.map WrittenAttribute.pair)
            ['t', 'e', 'm', 'p', 'l', 'a', 't', 'e'] value) ∧
        (∀ value, d.version = some value ↔
          IsLastValue (written.map WrittenAttribute.pair) ['v', 'e', 'r'] value)) ∧
      ∀ (other : List WrittenAttribute) (ending' : Text), Separated other [] →
        (∀ c ∈ ending', Text.isTerminator c = true) →
        (written.map WrittenAttribute.pair).Perm (other.map WrittenAttribute.pair) →
        (written.map WrittenAttribute.key).Nodup →
        parse (writeLine other [] ending') = parse (writeLine written [] ending)) := by
  refine ⟨⟨attributesOf (Token.scan junk), ?_, attributes?_writeLine separated ended⟩, ?_⟩
  · have hrest : attributes? (writeLine [] junk []) =
        some ([] ++ attributesOf (Token.scan junk)) := attributes?_writeLine trivial (by simp)
    exact hrest
  rintro rfl
  rw [parse_writeLine separated ended]
  refine ⟨?_, fun d hd => ?_, fun other ending' hother hending' hperm hdistinct => ?_⟩
  · rw [ofAttributes?, Option.isSome_map, Option.isSome_iff_ne_none, ne_eq, valueOf_eq_none_iff]
    simp [WrittenAttribute.pair]
  · obtain ⟨lang, hlang, rfl⟩ := Option.map_eq_some_iff.mp hd
    exact ⟨(valueOf_eq_some_iff _ _ _).mp hlang, valueOf_eq_some_iff _ _,
      valueOf_eq_some_iff _ _, valueOf_eq_some_iff _ _⟩
  · have hkeys : ((written.map WrittenAttribute.pair).map Attribute.key).Nodup := by
      rw [List.map_map]
      exact hdistinct
    rw [parse_writeLine hother hending', ofAttributes?, ofAttributes?]
    simp only [valueOf_perm hperm hkeys]

/-- A title with a quote, a brace and a backslash in it, and a number. -/
def titleAndNumber : List WrittenAttribute :=
  [{ key := ['t', 'i', 't', 'l', 'e'], value := ['a', '"', '}', '\\'], style := .doubleQuoted,
      gap := [','] },
    { key := ['n'], value := ['7', '.', '1'], style := .bare,
      beforeEquals := [' '], afterEquals := ['\t'], gap := [' '] }]

/-- Both are read although a quote follows that nothing closes. -/
theorem read_written_before_open_quote :
    ∃ rest, attributes? ['{', '\'', 'y', '}'] = some rest ∧
      attributes? ['{', 't', 'i', 't', 'l', 'e', '=', '"', 'a', '\\', '"', '}', '\\', '\\', '"',
        ',', 'n', ' ', '=', '\t', '7', '.', '1', ' ', '\'', 'y', '}', '\r', '\n'] =
        some ([⟨['t', 'i', 't', 'l', 'e'], ['a', '"', '}', '\\']⟩, ⟨['n'], ['7', '.', '1']⟩] ++
          rest) := by
  have hseparated : Separated titleAndNumber ['\'', 'y'] := by simp [titleAndNumber, Separated]
  have hended : ∀ c ∈ ['\r', '\n'], Text.isTerminator c = true := by simp [Text.isTerminator]
  exact (read_written titleAndNumber ['\'', 'y'] ['\r', '\n'] hseparated hended).1

end Tangle.Declaration
