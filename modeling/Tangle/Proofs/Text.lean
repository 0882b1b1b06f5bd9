import Tangle.Text

/-!
# Cuts of texts

What the cuts of a text give when it was put together from parts: ends that are dropped or kept,
the first occurrence of a character, and the lines of a text: of two texts one after the other, of
lines put together, and of a text whose line feeds have become line ends of two characters.
-/

namespace Tangle.Text

/-! ## Ends -/

theorem dropEndWhile_eq_nil {p : Char → Bool} {ending : Text} (h : ∀ c ∈ ending, p c = true) :
    dropEndWhile ending p = [] := by
  have hreverse : ∀ c ∈ ending.reverse, p c = true := fun c hc => h c (List.mem_reverse.mp hc)
  rw [dropEndWhile, ← List.append_nil ending.reverse, List.dropWhile_append_of_pos hreverse]
  rfl

/-- Nothing is dropped up to a character that is kept. -/
theorem dropEndWhile_append_cons {p : Char → Bool} (text : Text) {c : Char} (h : p c = false)
    (ending : Text) :
    dropEndWhile (text ++ c :: ending) p = text ++ c :: dropEndWhile ending p := by
  unfold dropEndWhile
  -- seen from the end, nothing or something is left before the character is reached
  rw [List.reverse_append, List.reverse_cons, List.append_assoc, List.dropWhile_append]
  cases hdropped : ending.reverse.dropWhile p with
  | nil =>
    rw [List.isEmpty_nil, if_pos rfl, List.singleton_append,
      List.dropWhile_cons_of_neg (by simp [h])]
    simp
  | cons d more => simp

/-- A text keeps what it ends with when that is no terminator. -/
theorem withoutTerminator_append {text ending : Text} {c : Char} (hc : isTerminator c = false)
    (h : ∀ d ∈ ending, isTerminator d = true) :
    withoutTerminator (text ++ c :: ending) = text ++ [c] := by
  rw [withoutTerminator, dropEndWhile_append_cons text hc, dropEndWhile_eq_nil h]

theorem withoutTerminator_cons {c : Char} (h : isTerminator c = false) (line : Text) :
    withoutTerminator (c :: line) = c :: withoutTerminator line :=
  dropEndWhile_append_cons [] h line

/-- Nothing but terminators is taken off a line that has none before them. -/
theorem withoutTerminator_append_of_forall {text ending : Text}
    (h : ∀ c ∈ text, isTerminator c = false) (hending : ∀ c ∈ ending, isTerminator c = true) :
    withoutTerminator (text ++ ending) = text := by
  induction text with
  | nil => exact dropEndWhile_eq_nil hending
  | cons c text ih =>
    rw [List.cons_append, withoutTerminator_cons (h c List.mem_cons_self),
      ih fun d hd => h d (List.mem_cons_of_mem _ hd)]

/-- A line begins with what is left of it without its terminator. -/
theorem withoutTerminator_prefix (line : Text) :
    ∃ ending, line.withoutTerminator ++ ending = line := by
  refine ⟨(line.reverse.takeWhile isTerminator).reverse, ?_⟩
  rw [withoutTerminator, dropEndWhile, ← List.reverse_append, List.takeWhile_append_dropWhile,
    List.reverse_reverse]

@[simp] theorem afterStart?_append (start text : Text) :
    afterStart? (start ++ text) start = some text := by
  induction start with
  | nil => cases text <;> rfl
  | cons c start ih => simpa [afterStart?] using ih

@[simp] theorem beforeEnd?_append (text ending : Text) :
    beforeEnd? (text ++ ending) ending = some text := by
  unfold beforeEnd?
  rw [List.reverse_append, afterStart?_append, Option.map_some, List.reverse_reverse]

/-- A text begins with `start` exactly when it is `start` and what follows. -/
theorem afterStart?_eq_some_iff {text start rest : Text} :
    afterStart? text start = some rest ↔ text = start ++ rest := by
  refine ⟨fun h => ?_, fun h => h ▸ afterStart?_append start rest⟩
  induction start generalizing text with
  | nil =>
    cases text <;> simpa [afterStart?] using h
  | cons s start ih =>
    cases text with
    | nil => cases h
    | cons c text =>
      rw [afterStart?] at h
      split at h
      · rename_i hc
        rw [hc, ih h, List.cons_append]
      · cases h

/-- A text ends with `ending` exactly when it is what precedes and `ending`. -/
theorem beforeEnd?_eq_some_iff {text ending rest : Text} :
    beforeEnd? text ending = some rest ↔ text = rest ++ ending := by
  refine ⟨fun h => ?_, fun h => h ▸ beforeEnd?_append rest ending⟩
  obtain ⟨start, hstart, rfl⟩ := Option.map_eq_some_iff.mp h
  have htext := afterStart?_eq_some_iff.mp hstart
  rw [← List.reverse_reverse text, htext, List.reverse_append, List.reverse_reverse]

theorem endsWith_iff {text ending : Text} : text.endsWith ending = true ↔ ending <:+ text := by
  rw [endsWith, Option.isSome_iff_exists]
  constructor
  · rintro ⟨rest, hrest⟩
    exact ⟨rest, (beforeEnd?_eq_some_iff.mp hrest).symm⟩
  · rintro ⟨rest, hrest⟩
    exact ⟨rest, beforeEnd?_eq_some_iff.mpr hrest.symm⟩

/-- An end that two texts share has no part in whether one ends with the other. -/
theorem endsWith_append (text ending tail : Text) :
    endsWith (text ++ tail) (ending ++ tail) = endsWith text ending := by
  rw [Bool.eq_iff_iff, endsWith_iff, endsWith_iff]
  constructor
  · rintro ⟨before, h⟩
    rw [← List.append_assoc] at h
    exact ⟨before, List.append_cancel_right h⟩
  · rintro ⟨before, rfl⟩
    exact ⟨before, by rw [List.append_assoc]⟩

/-- Of two texts that differ just before an end that they share, neither ends with the other. -/
theorem endsWith_append_of_ne (text ending tail : Text) {c d : Char} (h : c ≠ d) :
    endsWith (text ++ c :: tail) (ending ++ d :: tail) = false := by
  rw [List.append_cons text, List.append_cons ending, endsWith_append]
  unfold endsWith beforeEnd?
  rw [List.reverse_concat, List.reverse_concat, afterStart?, if_neg h]
  rfl

/-! ## The first and the last occurrence -/

theorem splitFirst?_append {text : Text} {c : Char} (h : c ∉ text) (rest : Text) :
    splitFirst? (text ++ c :: rest) c = some (text, rest) := by
  have hne : ∀ d ∈ text, decide (d ≠ c) = true :=
    fun d hd => decide_eq_true (ne_of_mem_of_not_mem hd h)
  unfold splitFirst?
  rw [List.dropWhile_append_of_pos hne, List.takeWhile_append_of_pos hne,
    List.dropWhile_cons_of_neg (by simp), List.takeWhile_cons_of_neg (by simp), List.append_nil]

theorem of_splitFirst?_eq_some {text before after : Text} {c : Char}
    (h : splitFirst? text c = some (before, after)) :
    text = before ++ c :: after ∧ c ∉ before := by
  have hbefore : c ∉ text.takeWhile (· ≠ c) := fun hmem => by
    simpa using List.all_eq_true.mp (List.all_takeWhile (p := (· ≠ c)) (l := text)) c hmem
  have htext := List.takeWhile_append_dropWhile (p := (· ≠ c)) (l := text)
  have hhead := List.head?_dropWhile_not (· ≠ c) text
  unfold splitFirst? at h
  cases hdrop : text.dropWhile (· ≠ c) with
  | nil =>
    rw [hdrop] at h
    cases h
  | cons d rest =>
    rw [hdrop] at h htext hhead
    cases h
    -- what stopped the beginning is the character itself
    have hd : d = c := by simpa using hhead
    rw [hd] at htext
    exact ⟨htext.symm, hbefore⟩

theorem of_splitLast?_eq_some {text before after : Text} {c : Char}
    (h : splitLast? text c = some (before, after)) :
    text = before ++ c :: after ∧ c ∉ after := by
  obtain ⟨⟨first, rest⟩, hsplit, hparts⟩ := Option.map_eq_some_iff.mp h
  cases hparts
  obtain ⟨htext, hnot⟩ := of_splitFirst?_eq_some hsplit
  refine ⟨?_, fun hmem => hnot (List.mem_reverse.mp hmem)⟩
  rw [← List.reverse_reverse text, htext]
  simp

theorem splitLast?_append (text : Text) {c : Char} {rest : Text} (h : c ∉ rest) :
    splitLast? (text ++ c :: rest) c = some (text, rest) := by
  have hreverse : (text ++ c :: rest).reverse = rest.reverse ++ c :: text.reverse := by simp
  rw [splitLast?, hreverse, splitFirst?_append (fun hmem => h (List.mem_reverse.mp hmem))]
  simp

/-- What stands around the last occurrence of a character is determined. -/
theorem append_cons_inj_of_notMem {c : Char} {before before' after after' : Text}
    (h : c ∉ after) (h' : c ∉ after') (heq : before ++ c :: after = before' ++ c :: after') :
    before = before' ∧ after = after' := by
  have hreverse :
      after.reverse ++ c :: before.reverse = after'.reverse ++ c :: before'.reverse := by
    simpa using congrArg List.reverse heq
  have hsplit := splitFirst?_append (fun hmem => h (List.mem_reverse.mp hmem)) before.reverse
  have hsplit' := splitFirst?_append (fun hmem => h' (List.mem_reverse.mp hmem)) before'.reverse
  rw [hreverse, hsplit'] at hsplit
  have hparts := Prod.mk.inj (Option.some.inj hsplit)
  exact ⟨(List.reverse_inj.mp hparts.2).symm, (List.reverse_inj.mp hparts.1).symm⟩

/-- Of two ways to divide a text at different characters, one has its character behind the other's. -/
theorem mem_or_mem_of_append_cons_eq {c d : Char} (hne : c ≠ d)
    {before before' after after' : Text} (h : before ++ c :: after = before' ++ d :: after') :
    d ∈ after ∨ c ∈ after' := by
  have hsuffix : d :: after' <:+ before ++ c :: after := ⟨before', h.symm⟩
  rcases List.suffix_or_suffix_of_suffix (List.suffix_append before (c :: after)) hsuffix with
    hshort | hlong
  · -- the first end lies within the second one
    have hmem := hshort.subset List.mem_cons_self
    exact Or.inr ((List.mem_cons.mp hmem).resolve_left hne)
  · have hmem := hlong.subset List.mem_cons_self
    exact Or.inl ((List.mem_cons.mp hmem).resolve_left (Ne.symm hne))

/-! ## Parts -/

theorem splitOn_ne_nil (c : Char) (text : Text) : splitOn c text ≠ [] := by
  cases text with
  | nil => simp [splitOn]
  | cons d rest =>
    rw [splitOn]
    split
    · simp
    · cases splitOn c rest <;> simp

/-- A separator divides the parts into those before and those after it. -/
theorem splitOn_append_cons (c : Char) (text rest : Text) :
    splitOn c (text ++ c :: rest) = splitOn c text ++ splitOn c rest := by
  induction text with
  | nil => simp [splitOn]
  | cons d text ih =>
    rw [List.cons_append, splitOn, splitOn, ih]
    split
    · rfl
    · cases hparts : splitOn c text with
      | nil => exact absurd hparts (splitOn_ne_nil c text)
      | cons part more => rfl

theorem splitOn_of_notMem {c : Char} {text : Text} (h : c ∉ text) : splitOn c text = [text] := by
  induction text with
  | nil => rfl
  | cons d text ih =>
    rw [List.mem_cons, not_or] at h
    rw [splitOn, if_neg (Ne.symm h.1), ih h.2]

/-- A part has no separator, and all of its characters from the text. -/
theorem of_mem_splitOn {c : Char} {text part : Text} (h : part ∈ splitOn c text) :
    c ∉ part ∧ part ⊆ text := by
  induction text generalizing part with
  | nil =>
    rw [splitOn, List.mem_singleton] at h
    simp [h]
  | cons d rest ih =>
    have hlater {part : Text} (h : part ∈ splitOn c rest) : c ∉ part ∧ part ⊆ d :: rest :=
      ⟨(ih h).1, List.subset_cons_of_subset d (ih h).2⟩
    rw [splitOn] at h
    split at h
    · rcases List.mem_cons.mp h with rfl | h
      · simp
      · exact hlater h
    · rename_i hd
      cases hparts : splitOn c rest with
      | nil => exact absurd hparts (splitOn_ne_nil c rest)
      | cons first more =>
        rw [hparts] at h ih hlater
        rcases List.mem_cons.mp h with rfl | h
        · -- the character joins the first part
          obtain ⟨hnot, hsubset⟩ := ih List.mem_cons_self
          exact ⟨by simpa using ⟨Ne.symm hd, hnot⟩, List.cons_subset_cons d hsubset⟩
        · exact hlater (List.mem_cons_of_mem _ h)

/-! ## Lines -/

/-- A line feed ends the text and stands nowhere else in it. -/
def IsLine (line : Text) : Prop := ∃ text, '\n' ∉ text ∧ line = text ++ ['\n']

theorem IsLine.append {start line : Text} (h : '\n' ∉ start) (hline : IsLine line) :
    IsLine (start ++ line) := by
  obtain ⟨text, htext, rfl⟩ := hline
  refine ⟨start ++ text, fun hmem => ?_, (List.append_assoc ..).symm⟩
  rcases List.mem_append.mp hmem with hmem | hmem
  · exact h hmem
  · exact htext hmem

theorem lines_append_newline {text : Text} (h : '\n' ∉ text) (rest : Text) :
    lines (text ++ '\n' :: rest) = (text ++ ['\n']) :: lines rest := by
  induction text with
  | nil => rw [List.nil_append, lines, if_pos rfl, List.nil_append]
  | cons c text ih =>
    rw [List.mem_cons, not_or] at h
    rw [List.cons_append, lines, if_neg (Ne.symm h.1), ih h.2]
    rfl

theorem lines_ne_nil {text : Text} (h : text ≠ []) : lines text ≠ [] := by
  cases text with
  | nil => exact absurd rfl h
  | cons c rest =>
    rw [lines]
    split
    · simp
    · cases lines rest <;> simp

/-- The first line of a text begins as the text does. -/
theorem head?_of_mem_head?_lines {text line : Text} (h : line ∈ (lines text).head?) :
    ∃ c ∈ text.head?, line.head? = some c := by
  cases text with
  | nil => cases h
  | cons c rest =>
    refine ⟨c, rfl, ?_⟩
    rw [lines] at h
    split at h
    · cases h
      rfl
    · cases hlines : lines rest with
      | nil =>
        rw [hlines] at h
        cases h
        rfl
      | cons first more =>
        rw [hlines] at h
        cases h
        rfl

/-- A text without a line feed is one line, if it is not empty. -/
theorem lines_of_notMem {text : Text} (hne : text ≠ []) (h : '\n' ∉ text) :
    lines text = [text] := by
  induction text with
  | nil => exact absurd rfl hne
  | cons c rest ih =>
    rw [List.mem_cons, not_or] at h
    rw [lines, if_neg (Ne.symm h.1)]
    cases rest with
    | nil => rfl
    | cons d more => rw [ih (by simp) h.2]

/-- A line feed can only stand at the end of a line. -/
theorem notMem_dropLast {line : Text} (h : IsLine line ∨ '\n' ∉ line) : '\n' ∉ line.dropLast := by
  rcases h with ⟨text, htext, rfl⟩ | hnot
  · rwa [List.dropLast_concat]
  · exact fun hmem => hnot (List.dropLast_subset line hmem)

/-- Lines as a text has them: each ends in its only line feed, but for the last one, which may have
none. -/
inductive AreLines : List Text → Prop where
  | nil : AreLines []
  | unended {line : Text} (nonempty : line ≠ []) (plain : '\n' ∉ line) : AreLines [line]
  | cons {line : Text} {more : List Text} (ended : IsLine line) (rest : AreLines more) :
      AreLines (line :: more)

theorem AreLines.of_forall {all : List Text} (h : ∀ line ∈ all, IsLine line) : AreLines all := by
  induction all with
  | nil => exact .nil
  | cons line more ih =>
    apply AreLines.cons (h line List.mem_cons_self)
    exact ih fun l hl => h l (List.mem_cons_of_mem _ hl)

theorem areLines_lines (text : Text) : AreLines (lines text) := by
  induction text with
  | nil => exact .nil
  | cons c rest ih =>
    rw [lines]
    split
    · rename_i hc
      subst hc
      exact .cons ⟨[], by simp, rfl⟩ ih
    · rename_i hc
      have hplain : '\n' ∉ [c] := by simpa using Ne.symm hc
      generalize lines rest = found at ih
      -- a character that is no line feed joins the first line of the rest
      cases ih with
      | nil => exact .unended (by simp) hplain
      | unended _ plain => exact .unended (by simp) (by simpa using ⟨Ne.symm hc, plain⟩)
      | cons ended below => exact .cons (ended.append hplain) below

/-- Lines that some text has are those of the text that they make. -/
theorem AreLines.lines_flatten {all : List Text} (h : AreLines all) : lines all.flatten = all := by
  induction h with
  | nil => rfl
  | unended nonempty plain => simpa using lines_of_notMem nonempty plain
  | cons ended _ ih =>
    obtain ⟨text, htext, rfl⟩ := ended
    rw [List.flatten_cons, List.append_assoc, List.singleton_append, lines_append_newline htext, ih]

theorem lines_flatten {all : List Text} (h : ∀ line ∈ all, IsLine line) :
    lines all.flatten = all :=
  (AreLines.of_forall h).lines_flatten

/-- The lines of a text make the text. -/
theorem flatten_lines (text : Text) : (lines text).flatten = text := by
  induction text with
  | nil => rfl
  | cons c rest ih =>
    rw [lines]
    split
    · rw [List.flatten_cons, ih]
      rfl
    · cases hlines : lines rest with
      | nil =>
        rw [hlines] at ih
        rw [← ih]
        rfl
      | cons line more =>
        rw [hlines] at ih
        rw [← ih]
        rfl

/-- A line ends in its only line feed, or has none. -/
theorem AreLines.isLine_or_notMem {all : List Text} (h : AreLines all) {line : Text}
    (hline : line ∈ all) : IsLine line ∨ '\n' ∉ line := by
  induction h with
  | nil => cases hline
  | unended _ plain =>
    rw [List.mem_singleton.mp hline]
    exact Or.inr plain
  | cons ended _ ih =>
    rcases List.mem_cons.mp hline with rfl | hline
    · exact Or.inl ended
    · exact ih hline

/-- Lines stay lines when some of them are left out. -/
theorem AreLines.of_sublist {all some : List Text} (h : AreLines all) (hsome : some.Sublist all) :
    AreLines some := by
  induction h generalizing some with
  | nil =>
    rw [List.sublist_nil.mp hsome]
    exact .nil
  | unended nonempty plain =>
    cases hsome with
    | cons _ hmore =>
      rw [List.sublist_nil.mp hmore]
      exact .nil
    | cons_cons _ hmore =>
      rw [List.sublist_nil.mp hmore]
      exact .unended nonempty plain
  | cons ended _ ih =>
    cases hsome with
    | cons _ hmore => exact ih hmore
    | cons_cons _ hmore => exact .cons ended (ih hmore)

/-- Every line of some lines but the last one is ended. -/
theorem AreLines.isLine_of_mem_dropLast {all : List Text} (h : AreLines all) {line : Text}
    (hline : line ∈ all.dropLast) : IsLine line := by
  induction h with
  | nil => cases hline
  | unended => cases hline
  | @cons first more ended rest ih =>
    cases more with
    | nil => cases hline
    | cons second below =>
      rcases List.mem_cons.mp hline with rfl | hmore
      · exact ended
      · exact ih hmore

/-- The lines of a text that is empty or ends in a line feed stand in front of those that follow. -/
theorem lines_append {first : Text} (h : first = [] ∨ first.getLast? = some '\n') (second : Text) :
    lines (first ++ second) = lines first ++ lines second := by
  induction first with
  | nil => rfl
  | cons c rest ih =>
    have hlast : (c :: rest).getLast? = some '\n' := h.resolve_left (by simp)
    have hrest : rest = [] ∨ rest.getLast? = some '\n' := by
      cases rest with
      | nil => exact Or.inl rfl
      | cons d more => exact Or.inr (by simpa [List.getLast?_cons_cons] using hlast)
    rw [List.cons_append, lines, lines, ih hrest]
    split
    · rfl
    · rename_i hc
      cases hlines : lines rest with
      | nil =>
        -- then the character is the last one, and would be a line feed
        have hnil : rest = [] := Decidable.byContradiction fun hne => lines_ne_nil hne hlines
        rw [hnil] at hlast
        exact absurd (Option.some.inj hlast) hc
      | cons line more => rfl

/-! ## Line ends of two characters -/

/-- A text with a carriage return put in front of each line feed. -/
def withReturns (text : Text) : Text := text.flatMap fun c => if c = '\n' then ['\r', '\n'] else [c]

theorem withReturns_append (first second : Text) :
    withReturns (first ++ second) = withReturns first ++ withReturns second := List.flatMap_append

theorem withReturns_of_notMem {text : Text} (h : '\n' ∉ text) : withReturns text = text := by
  induction text with
  | nil => rfl
  | cons c rest ih =>
    rw [List.mem_cons, not_or] at h
    rw [withReturns, List.flatMap_cons, if_neg (Ne.symm h.1), List.singleton_append]
    exact congrArg (c :: ·) (ih h.2)

/-- The lines of a text with carriage returns are its lines with carriage returns. -/
theorem lines_withReturns (text : Text) :
    lines (withReturns text) = (lines text).map withReturns := by
  induction text with
  | nil => rfl
  | cons c rest ih =>
    rw [withReturns, List.flatMap_cons]
    change lines (_ ++ withReturns rest) = _
    by_cases hc : c = '\n'
    · subst hc
      have hreturn : '\n' ∉ ['\r'] := by decide
      have hfirst := lines_append_newline hreturn (withReturns rest)
      rw [if_pos rfl, lines, if_pos rfl, List.map_cons, ← ih]
      exact hfirst
    · have hone : withReturns [c] = [c] := withReturns_of_notMem (by simpa using Ne.symm hc)
      rw [if_neg hc, List.singleton_append, lines, lines, if_neg hc, if_neg hc, ih]
      cases lines rest with
      | nil => rw [List.map_nil, List.map_singleton, hone]
      | cons line more =>
        have hline : withReturns (c :: line) = c :: withReturns line := by
          rw [← List.singleton_append, withReturns_append, hone, List.singleton_append]
        rw [List.map_cons, List.map_cons, hline]

/-! ## Numbers -/

theorem ofNat_eq_toDigits (n : Nat) : ofNat n = Nat.toDigits 10 n := by
  rw [ofNat, Nat.toString_eq_repr, Nat.toList_repr]

/-- Written numbers consist of digits. -/
theorem isDigit_of_mem_ofNat {n : Nat} {c : Char} (h : c ∈ ofNat n) : isDigit c = true := by
  rw [ofNat_eq_toDigits] at h
  have hdigit := Nat.isDigit_of_mem_toDigits (by decide) (by decide) h
  rw [Char.isDigit, Bool.and_eq_true, decide_eq_true_eq, decide_eq_true_eq] at hdigit
  rw [isDigit, Bool.and_eq_true, decide_eq_true_eq, decide_eq_true_eq]
  exact hdigit

theorem notMem_ofNat {c : Char} (h : isDigit c = false) (n : Nat) : c ∉ ofNat n := by
  intro hc
  rw [isDigit_of_mem_ofNat hc] at h
  cases h

theorem ofNat_ne_nil (n : Nat) : ofNat n ≠ [] := by
  rw [ofNat_eq_toDigits]
  exact Nat.toDigits_ne_nil

/-- A number in front of a shared end never stands for a character that is no digit. -/
theorem endsWith_ofNat_append (text ending tail : Text) {d : Char} (h : isDigit d = false)
    (n : Nat) : endsWith (text ++ ofNat n ++ tail) (ending ++ d :: tail) = false := by
  -- the last digit stands where the other text has `d`
  rw [← List.dropLast_concat_getLast (ofNat_ne_nil n), ← List.append_assoc,
    List.append_assoc _ [_], List.singleton_append]
  apply endsWith_append_of_ne
  rintro hlast
  apply notMem_ofNat h n
  rw [← hlast]
  exact List.getLast_mem (ofNat_ne_nil n)

theorem digitsValue_ofNat (n : Nat) : digitsValue (ofNat n) = n := by
  have hvalue := Nat.ofDigitChars_toDigits (b := 10) (n := n) (by decide) (by decide)
  rw [Nat.ofDigitChars_eq_foldl] at hvalue
  rw [ofNat_eq_toDigits, digitsValue]
  simpa only [Nat.mul_comm 10] using hvalue

/-- Different numbers are written differently. -/
theorem ofNat_injective {m n : Nat} (h : ofNat m = ofNat n) : m = n := by
  rw [← digitsValue_ofNat m, h, digitsValue_ofNat]

theorem isSpace_of_isDigit {c : Char} (h : isDigit c = true) : isSpace c = false := by
  rw [isDigit, Bool.and_eq_true, decide_eq_true_eq, decide_eq_true_eq] at h
  have hlow : 48 ≤ c.toNat := h.1
  have hhigh : c.toNat ≤ 57 := h.2
  simp only [isSpace, Bool.or_eq_false_iff, Bool.and_eq_false_iff, decide_eq_false_iff_not]
  omega

/-- Trimming finds a text without blanks between blanks. -/
theorem trim_append_of_forall {before text after : Text} (hbefore : ∀ c ∈ before, isSpace c = true)
    (htext : ∀ c ∈ text, isSpace c = false) (hafter : ∀ c ∈ after, isSpace c = true) :
    trim (before ++ (text ++ after)) = text := by
  rw [trim, List.dropWhile_append_of_pos hbefore]
  rcases List.eq_nil_or_concat text with rfl | ⟨start, c, rfl⟩
  · rw [List.nil_append, ← List.append_nil after, List.dropWhile_append_of_pos hafter]
    rfl
  · -- the text has a first and a last character, at which the cuts stop
    have hfirst : (start ++ c :: after).dropWhile isSpace = start ++ c :: after := by
      cases start with
      | nil => exact List.dropWhile_cons_of_neg (by simp [htext])
      | cons d more => exact List.dropWhile_cons_of_neg (by simp [htext])
    rw [List.concat_eq_append, List.append_assoc, List.singleton_append, hfirst,
      dropEndWhile_append_cons start (htext c (by simp)), dropEndWhile_eq_nil hafter]

theorem trim_of_forall {text : Text} (h : ∀ c ∈ text, isSpace c = false) : trim text = text := by
  have hnone : ∀ c ∈ ([] : Text), isSpace c = true := fun c hc => absurd hc List.not_mem_nil
  simpa using trim_append_of_forall hnone h hnone

/-- Trimming takes blanks off both ends. -/
theorem exists_trim (text : Text) :
    ∃ before after, text = before ++ (text.trim ++ after) ∧ (∀ c ∈ before, isSpace c = true) ∧
      ∀ c ∈ after, isSpace c = true := by
  have hblank (cut : Text) : ∀ c ∈ cut.takeWhile isSpace, isSpace c = true := fun c hc =>
    List.all_eq_true.mp (List.all_takeWhile (l := cut)) c hc
  refine ⟨text.takeWhile isSpace,
    ((text.dropWhile isSpace).reverse.takeWhile isSpace).reverse, ?_, hblank text, ?_⟩
  · rw [trim, dropEndWhile, ← List.reverse_append, List.takeWhile_append_dropWhile,
      List.reverse_reverse, List.takeWhile_append_dropWhile]
  · intro c hc
    exact hblank _ c (List.mem_reverse.mp hc)

/-- A number is read from an optional plus sign and digits. -/
theorem toNat?_eq_some_iff {text : Text} {n : Nat} :
    toNat? text = some n ↔ ∃ sign digits, (sign = [] ∨ sign = ['+']) ∧ text = sign ++ digits ∧
      digits ≠ [] ∧ (∀ c ∈ digits, isDigit c = true) ∧ digitsValue digits = n := by
  have hread (digits : Text) : (if digits.isEmpty || !digits.all isDigit then none
      else some (digitsValue digits)) = some n ↔
      digits ≠ [] ∧ (∀ c ∈ digits, isDigit c = true) ∧ digitsValue digits = n := by
    by_cases hempty : digits = []
    · simp [hempty]
    · by_cases hall : digits.all isDigit = true
      · simpa [hempty, hall] using fun _ => List.all_eq_true.mp hall
      · have hsome := hall
        rw [List.all_eq_true] at hsome
        simp [hempty, hall, hsome]
  unfold toNat?
  cases hsign : afterStart? text ['+'] with
  | some digits =>
    obtain rfl := afterStart?_eq_some_iff.mp hsign
    rw [Option.getD_some, hread]
    constructor
    · intro h
      exact ⟨['+'], digits, Or.inr rfl, rfl, h⟩
    · rintro ⟨sign, digits', rfl | rfl, heq, h⟩
      · -- a plus sign is no digit
        have hplus : '+' ∈ digits' := by
          rw [← List.nil_append digits', ← heq]
          exact List.mem_cons_self
        exact absurd (h.2.1 _ hplus) (by decide)
      · obtain rfl := List.append_cancel_left heq
        exact h
  | none =>
    rw [Option.getD_none, hread]
    constructor
    · intro h
      exact ⟨[], text, Or.inl rfl, rfl, h⟩
    · rintro ⟨sign, digits', rfl | rfl, rfl, h⟩
      · exact h
      · rw [afterStart?_append] at hsign
        cases hsign

/-- A number is read as it is written. -/
theorem toNat?_ofNat (n : Nat) : toNat? (ofNat n) = some n := by
  apply toNat?_eq_some_iff.mpr
  exact ⟨[], ofNat n, Or.inl rfl, rfl, ofNat_ne_nil n, fun c hc => isDigit_of_mem_ofNat hc,
    digitsValue_ofNat n⟩

end Tangle.Text
