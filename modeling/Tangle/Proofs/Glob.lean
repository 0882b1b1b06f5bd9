import Mathlib.Data.List.Basic
import Tangle.Glob

/-!
# What globs match

A part of a glob takes a beginning off a text, so that what remains is always an end of it. A glob
whose text ends in plain characters matches only texts that end in the same characters: whatever is
opened before them has to be closed before them as well. An escaped text stands for itself wherever
it has no backslash, so that a star between two such texts matches exactly what begins with the one
and ends with the other.
-/

namespace Tangle.Glob

/-! ## Rests -/

theorem suffix_of_mem_restsOfStar {text rest : Text} (h : rest ∈ restsOfStar text) :
    rest <:+ text := by
  induction text with
  | nil => exact List.mem_singleton.mp h ▸ List.suffix_rfl
  | cons c more ih =>
    rw [restsOfStar] at h
    split at h
    · exact List.mem_singleton.mp h ▸ List.suffix_rfl
    · rcases List.mem_cons.mp h with rfl | h
      · exact List.suffix_rfl
      · exact (ih h).trans (List.suffix_cons ..)

mutual

/-- What remains after a part of a glob is an end of the text. -/
theorem suffix_of_mem_rests : ∀ (part : Glob) {text rest : Text}, rest ∈ rests part text →
    rest <:+ text
  | literal c, text, rest, h => by
    cases text with
    | nil => simp [rests] at h
    | cons d more =>
      simp only [rests] at h
      split at h
      · rw [List.mem_singleton.mp h]
        exact List.suffix_cons ..
      · cases h
  | anyOne, text, rest, h => by
    cases text with
    | nil => simp [rests] at h
    | cons d more =>
      simp only [rests] at h
      split at h
      · cases h
      · rw [List.mem_singleton.mp h]
        exact List.suffix_cons ..
  | star, text, rest, h => by
    simp only [rests] at h
    exact suffix_of_mem_restsOfStar h
  | .class negated intervals, text, rest, h => by
    cases text with
    | nil => simp [rests] at h
    | cons d more =>
      simp only [rests] at h
      split at h
      · rw [List.mem_singleton.mp h]
        exact List.suffix_cons ..
      · cases h
  | either alternatives, text, rest, h => by
    -- without alternatives a text is left as it is
    simp only [rests] at h
    split at h
    · exact List.mem_singleton.mp h ▸ List.suffix_rfl
    · exact suffix_of_mem_restsOfEither alternatives h

/-- So is what remains after several parts. -/
theorem suffix_of_mem_restsOfAll : ∀ (parts : List Glob) {text rest : Text},
    rest ∈ restsOfAll parts text → rest <:+ text
  | [], text, rest, h => by
    simp only [restsOfAll] at h
    exact List.mem_singleton.mp h ▸ List.suffix_rfl
  | part :: more, text, rest, h => by
    simp only [restsOfAll] at h
    obtain ⟨between, hbetween, h⟩ := List.mem_flatMap.mp h
    exact (suffix_of_mem_restsOfAll more h).trans (suffix_of_mem_rests part hbetween)

/-- And what remains after one of several alternatives. -/
theorem suffix_of_mem_restsOfEither : ∀ (alternatives : List (List Glob)) {text rest : Text},
    rest ∈ restsOfEither alternatives text → rest <:+ text
  | [], text, rest, h => by
    simp [restsOfEither] at h
  | parts :: more, text, rest, h => by
    simp only [restsOfEither] at h
    rcases List.mem_append.mp h with h | h
    · split at h
      · cases h
      · exact suffix_of_mem_restsOfAll parts h
    · exact suffix_of_mem_restsOfEither more h

end

theorem restsOfAll_append (parts more : List Glob) (text : Text) :
    restsOfAll (parts ++ more) text =
      (restsOfAll parts text).flatMap fun rest => restsOfAll more rest := by
  induction parts generalizing text with
  | nil => simp [restsOfAll]
  | cons part parts ih => simp only [List.cons_append, restsOfAll, ih, List.flatMap_assoc]

/-- Plain characters take themselves off a text. -/
theorem mem_restsOfAll_literal {plain text rest : Text} :
    rest ∈ restsOfAll (plain.map literal) text ↔ text = plain ++ rest := by
  induction plain generalizing text with
  | nil => simp [restsOfAll, eq_comm]
  | cons c more ih =>
    cases text with
    | nil => simp [restsOfAll, rests]
    | cons d left =>
      simp only [List.map_cons, restsOfAll, rests, List.mem_flatMap, List.cons_append]
      by_cases hc : d = c
      · simp [hc, ih]
      · simp [hc]

/-- A star takes off what has no slash. -/
theorem mem_restsOfStar {text rest : Text} :
    rest ∈ restsOfStar text ↔ ∃ between, '/' ∉ between ∧ text = between ++ rest := by
  induction text with
  | nil =>
    simp only [restsOfStar, List.mem_singleton, List.nil_eq, List.append_eq_nil_iff]
    constructor
    · intro hrest
      exact ⟨[], List.not_mem_nil, rfl, hrest⟩
    · rintro ⟨between, -, -, hrest⟩
      exact hrest
  | cons c more ih =>
    rw [restsOfStar]
    split
    · rename_i hslash
      rw [List.mem_singleton]
      constructor
      · rintro rfl
        exact ⟨[], List.not_mem_nil, rfl⟩
      · rintro ⟨between, hbetween, htext⟩
        -- the text begins with a slash, so nothing is taken off
        cases between with
        | nil => exact htext.symm
        | cons d before =>
          obtain ⟨rfl, -⟩ := List.cons.inj htext
          rw [hslash] at hbetween
          exact absurd List.mem_cons_self hbetween
    · rename_i hslash
      rw [List.mem_cons, ih]
      constructor
      · rintro (rfl | ⟨between, hbetween, rfl⟩)
        · exact ⟨[], List.not_mem_nil, rfl⟩
        · exact ⟨c :: between, by simpa [eq_comm] using ⟨hslash, hbetween⟩, rfl⟩
      · rintro ⟨between, hbetween, htext⟩
        cases between with
        | nil => exact Or.inl htext.symm
        | cons d before =>
          obtain ⟨rfl, hmore⟩ := List.cons.inj htext
          exact Or.inr ⟨before, fun hmem => hbetween (List.mem_cons_of_mem _ hmem), hmore⟩

/-- A glob with a plain ending matches only texts with this ending. -/
theorem suffix_of_matchesText {parts : List Glob} {ending text : Text}
    (h : matchesText (parts ++ ending.map literal) text = true) : ending <:+ text := by
  obtain ⟨rest, hrest, hnil⟩ := List.any_eq_true.mp h
  rw [List.isEmpty_iff.mp hnil, restsOfAll_append] at hrest
  obtain ⟨between, hbetween, hrest⟩ := List.mem_flatMap.mp hrest
  rw [mem_restsOfAll_literal, List.append_nil] at hrest
  rw [← hrest]
  exact suffix_of_mem_restsOfAll parts hbetween

/-! ## Reading a plain ending -/

/-- The characters that can have a meaning in a glob. -/
def special : List Char := ['?', '*', '{', '}', ',', '\\', '[', ']']

theorem escape_of_plain {text : Text} (h : ∀ c ∈ text, c ∉ special) : escape text = text := by
  induction text with
  | nil => rfl
  | cons c more ih =>
    have hc := h c List.mem_cons_self
    simp only [special, List.mem_cons, List.not_mem_nil, or_false, not_or] at hc
    rw [escape, List.flatMap_cons, if_neg (by simp [hc])]
    exact congrArg (c :: ·) (ih fun d hd => h d (List.mem_cons_of_mem _ hd))

theorem readFrom_plain_cons {c : Char} (h : c ∉ special) (levels : List Branches) (rest : Text) :
    readFrom levels (c :: rest) = readFrom (push (literal c) levels) rest := by
  simp only [special, List.mem_cons, List.not_mem_nil, or_false, not_or] at h
  obtain ⟨h1, h2, h3, h4, h5, h6, h7, -⟩ := h
  rw [readFrom.eq_def]
  split <;> simp_all

/-- Only when all alternatives are closed a plain ending completes a glob, and then it stands there
for itself. -/
theorem of_readFrom_plain {ending : Text} (hplain : ∀ c ∈ ending, c ∉ special)
    {levels : List Branches} {glob : List Glob} (h : readFrom levels ending = some glob) :
    ∃ whole, levels = [whole] ∧ glob = whole.current.reverse ++ ending.map literal := by
  induction ending generalizing levels with
  | nil =>
    rw [readFrom.eq_def] at h
    dsimp only at h
    split at h
    · cases h
      exact ⟨_, rfl, (List.append_nil _).symm⟩
    · cases h
  | cons c more ih =>
    -- the character is put to what is read, so the levels before it are as many
    rw [readFrom_plain_cons (hplain c List.mem_cons_self)] at h
    obtain ⟨whole, hlevels, rfl⟩ := ih (fun d hd => hplain d (List.mem_cons_of_mem _ hd)) h
    cases levels with
    | nil => cases hlevels
    | cons first outer =>
      cases hlevels
      exact ⟨first, rfl, by simp⟩

/-- A class is closed by a bracket. -/
theorem readClass_of_notMem {text : Text} (h : ']' ∉ text) (first pending : Bool)
    (intervals : List (Char × Char)) : readClass first pending intervals text = none := by
  fun_induction readClass first pending intervals text with
  | case1 => rfl
  | case2 => simp_all
  | case3 _ _ _ _ _ _ _ ih => exact ih fun hmem => h (List.mem_cons_of_mem _ hmem)
  | case4 => rfl
  | case5 _ _ _ _ _ _ _ _ _ ih => exact ih fun hmem => h (List.mem_cons_of_mem _ hmem)
  | case6 => rfl
  | case7 _ _ _ _ _ _ _ _ ih => exact ih fun hmem => h (List.mem_cons_of_mem _ hmem)

theorem of_readClass_append {front ending rest : Text} (hending : ']' ∉ ending)
    {first pending : Bool} {intervals read : List (Char × Char)}
    (h : readClass first pending intervals (front ++ ending) = some (read, rest)) :
    ∃ left, rest = left ++ ending ∧ left <:+ front := by
  induction front generalizing first pending intervals with
  | nil =>
    rw [List.nil_append, readClass_of_notMem hending] at h
    cases h
  | cons c more ih =>
    -- the bracket comes next, or it stands in the rest of the front
    have hlater {first pending : Bool} {intervals : List (Char × Char)}
        (h : readClass first pending intervals (more ++ ending) = some (read, rest)) :
        ∃ left, rest = left ++ ending ∧ left <:+ c :: more := by
      obtain ⟨left, hrest, hleft⟩ := ih h
      exact ⟨left, hrest, hleft.trans (List.suffix_cons ..)⟩
    rw [List.cons_append, readClass.eq_def] at h
    dsimp only at h
    split at h
    · cases h
      exact ⟨more, rfl, List.suffix_cons ..⟩
    split at h
    · exact hlater h
    split at h
    · split at h
      · split at h
        · cases h
        · exact hlater h
      · cases h
    · exact hlater h

/-- Where reading goes on: behind a character, behind one with a backslash before it, or behind a
class. -/
inductive Next : Text → Text → Prop where
  | one (c : Char) (rest : Text) : Next (c :: rest) rest
  | escaped (c : Char) (rest : Text) : Next ('\\' :: c :: rest) rest
  | class {rest start after : Text} {intervals : List (Char × Char)}
      (start_eq : start = rest ∨ start = rest.tail)
      (read : readClass true false [] start = some (intervals, after)) : Next ('[' :: rest) after

theorem exists_next {levels : List Branches} {c : Char} {rest : Text} {glob : List Glob}
    (h : readFrom levels (c :: rest) = some glob) :
    ∃ levels' after, Next (c :: rest) after ∧ readFrom levels' after = some glob := by
  -- one case for each kind of character that a part can begin with
  rw [readFrom.eq_def] at h
  split at h
  case h_1 heq => cases heq
  case h_2 heq | h_3 heq | h_4 heq =>
    cases heq
    exact ⟨_, _, .one .., h⟩
  case h_5 heq =>
    cases heq
    split at h
    · exact ⟨_, _, .one .., h⟩
    · cases h
  case h_6 heq =>
    cases heq
    split at h <;> exact ⟨_, _, .one .., h⟩
  case h_7 => cases h
  case h_8 heq =>
    cases heq
    exact ⟨_, _, .escaped .., h⟩
  case h_9 heq =>
    cases heq
    dsimp only at h
    split at h
    · rename_i hread
      refine ⟨_, _, .class ?_ hread, h⟩
      split
      · exact Or.inr rfl
      · exact Or.inl rfl
    · cases h
  case h_10 heq =>
    cases heq
    exact ⟨_, _, .one .., h⟩

/-- Reading does not go over a star into a plain ending. -/
theorem Next.append {c : Char} {more ending after : Text} (hending : ']' ∉ ending)
    (hstar : (c :: more).getLast? = some '*') (h : Next (c :: more ++ ending) after) :
    ∃ left, after = left ++ ending ∧ left <:+ more := by
  generalize htext : c :: more ++ ending = text at h
  cases h with
  | one d rest =>
    obtain ⟨rfl, rfl⟩ := List.cons.inj htext
    exact ⟨more, rfl, List.suffix_rfl⟩
  | escaped d rest =>
    -- a backslash before the ending is not the star that stands there
    obtain ⟨rfl, hrest⟩ := List.cons.inj htext
    cases more with
    | nil => cases hstar
    | cons e left =>
      obtain ⟨-, rfl⟩ := List.cons.inj hrest
      exact ⟨left, rfl, List.suffix_cons ..⟩
  | «class» start_eq read =>
    obtain ⟨rfl, rfl⟩ := List.cons.inj htext
    cases more with
    | nil => cases hstar
    | cons e rest =>
      -- a class begins behind the bracket or behind the sign of negation
      rcases start_eq with rfl | rfl
      · exact of_readClass_append hending read
      · obtain ⟨left, hafter, hleft⟩ := of_readClass_append hending read
        exact ⟨left, hafter, hleft.trans (List.suffix_cons ..)⟩

/-- A plain ending behind a star stands for itself. -/
theorem of_readFrom_append {front ending : Text} (hplain : ∀ c ∈ ending, c ∉ special)
    (hstar : front = [] ∨ front.getLast? = some '*') {levels : List Branches} {glob : List Glob}
    (h : readFrom levels (front ++ ending) = some glob) :
    ∃ parts, glob = parts ++ ending.map literal := by
  -- a part takes one or more characters of the front, so the induction is on its length
  induction hlength : front.length using Nat.strongRecOn generalizing front levels with
  | _ n ih =>
    cases front with
    | nil =>
      obtain ⟨whole, -, hglob⟩ := of_readFrom_plain hplain h
      exact ⟨_, hglob⟩
    | cons c more =>
      have hlast := hstar.resolve_left (List.cons_ne_nil c more)
      have hbracket : ']' ∉ ending := fun hmem => hplain _ hmem (by decide)
      obtain ⟨levels', after, hnext, hread⟩ := exists_next h
      obtain ⟨left, rfl, hleft⟩ := hnext.append hbracket hlast
      have hshort := hleft.length_le
      rw [List.length_cons] at hlength
      refine ih left.length (by omega) ?_ hread rfl
      -- what is left of the front ends in the same star
      obtain ⟨before, rfl⟩ := hleft
      cases left with
      | nil => exact Or.inl rfl
      | cons d left =>
        refine Or.inr ?_
        rw [← List.cons_append, List.getLast?_append_of_ne_nil _ (by simp)] at hlast
        exact hlast

/-- A glob that ends in a star and plain characters matches only texts that end in them. -/
theorem suffix_of_read? {front ending text : Text} (hplain : ∀ c ∈ ending, c ∉ special)
    (hstar : front.getLast? = some '*') {glob : List Glob}
    (hread : read? (front ++ ending) = some glob) (h : matchesText glob text = true) :
    ending <:+ text := by
  obtain ⟨parts, rfl⟩ := of_readFrom_append hplain (Or.inr hstar) hread
  exact suffix_of_matchesText h

/-! ## Reading an escaped text -/

/-- The part that an escaped character is read as. -/
def escapedPart (c : Char) : Glob :=
  if ['?', '*', '[', ']', '{', '}'].contains c then .class false [(c, c)] else literal c

/-- An escaped character other than a backslash is read as one part, outside of all alternatives. -/
theorem readFrom_escape_singleton {c : Char} (hc : c ≠ '\\') (whole : Branches) (rest : Text) :
    readFrom [whole] (escape [c] ++ rest) = readFrom (push (escapedPart c) [whole]) rest := by
  by_cases hbracket : ['?', '*', '[', ']', '{', '}'].contains c = true
  · -- a class with nothing but this character
    have hescape : escape [c] = ['[', c, ']'] := by
      rw [escape, List.flatMap_singleton, if_pos hbracket]
    rw [hescape, escapedPart, if_pos hbracket]
    simp only [List.contains_eq_mem, List.mem_cons, List.not_mem_nil, or_false,
      decide_eq_true_eq] at hbracket
    rcases hbracket with rfl | rfl | rfl | rfl | rfl | rfl
    all_goals
      rw [List.cons_append, readFrom.eq_def]
      simp [readClass]
  · have hescape : escape [c] = [c] := by
      rw [escape, List.flatMap_singleton, if_neg hbracket]
    rw [hescape, escapedPart, if_neg hbracket, List.singleton_append]
    by_cases hcomma : c = ','
    · -- a comma only has a meaning between alternatives
      subst hcomma
      rw [readFrom.eq_def]
      rfl
    · refine readFrom_plain_cons ?_ _ _
      simp only [List.contains_eq_mem, List.mem_cons, List.not_mem_nil, or_false,
        decide_eq_true_eq] at hbracket
      simp only [special, List.mem_cons, List.not_mem_nil, or_false]
      tauto

/-- So is an escaped text, character by character. -/
theorem readFrom_escape {text : Text} (h : '\\' ∉ text) (whole : Branches) (rest : Text) :
    readFrom [whole] (escape text ++ rest) =
      readFrom [{ whole with current := (text.map escapedPart).reverse ++ whole.current }]
        rest := by
  induction text generalizing whole with
  | nil => rfl
  | cons c more ih =>
    have hescape : escape (c :: more) = escape [c] ++ escape more := by
      rw [escape, List.flatMap_cons, escape, List.flatMap_singleton, escape]
    have hc : c ≠ '\\' := fun heq => h (heq ▸ List.mem_cons_self)
    rw [hescape, List.append_assoc, readFrom_escape_singleton hc, push,
      ih fun hmem => h (List.mem_cons_of_mem _ hmem)]
    simp

/-- An escaped character matches itself. -/
theorem rests_escapedPart (c : Char) (text : Text) :
    rests (escapedPart c) text = rests (literal c) text := by
  unfold escapedPart
  split
  · rename_i hbracket
    have hslash : c ≠ '/' := by
      rintro rfl
      simp at hbracket
    cases text with
    | nil => simp only [rests]
    | cons d rest =>
      -- the only character between the two ends of the interval is this one
      have hwithin : ((c ≤ d && d ≤ c) && d ≠ '/') = true ↔ d = c := by
        simp only [Bool.and_eq_true, decide_eq_true_eq]
        constructor
        · rintro ⟨⟨hle, hge⟩, -⟩
          exact Char.le_antisymm hge hle
        · rintro rfl
          exact ⟨⟨Char.le_refl d, Char.le_refl d⟩, hslash⟩
      simp only [rests, List.any_cons, List.any_nil, Bool.or_false, Bool.bne_false, hwithin]
  · rfl

theorem restsOfAll_map_escapedPart (ending text : Text) :
    restsOfAll (ending.map escapedPart) text = restsOfAll (ending.map literal) text := by
  induction ending generalizing text with
  | nil => rfl
  | cons c more ih => simp only [List.map_cons, restsOfAll, rests_escapedPart, ih]

/-- A star between two escaped texts is read as nothing else, if no backslash takes a meaning
away. -/
theorem read?_escape {start ending : Text} (hstart : '\\' ∉ start) (hending : '\\' ∉ ending) :
    read? (escape start ++ '*' :: escape ending) =
      some ((start.map escapedPart ++ [star]) ++ ending.map escapedPart) := by
  have hstar (whole : Branches) (rest : Text) :
      readFrom [whole] ('*' :: rest) = readFrom (push star [whole]) rest := by
    rw [readFrom.eq_def]
    rfl
  rw [read?, readFrom_escape hstart, hstar, push, ← List.append_nil (escape ending),
    readFrom_escape hending, readFrom.eq_def]
  simp

/-- **It matches what begins with the one and ends with the other**, with no slash between them. -/
theorem matchesText_escape_iff {start ending : Text} (hstart : '\\' ∉ start)
    (hending : '\\' ∉ ending) {glob : List Glob}
    (hread : read? (escape start ++ '*' :: escape ending) = some glob) {text : Text} :
    matchesText glob text = true ↔
      ∃ between, '/' ∉ between ∧ text = start ++ (between ++ ending) := by
  rw [read?_escape hstart hending] at hread
  obtain rfl := Option.some.inj hread
  have hstar (rest : Text) : restsOfAll [star] rest = restsOfStar rest := by
    simp [restsOfAll, rests]
  have hmatches : matchesText ((start.map escapedPart ++ [star]) ++ ending.map escapedPart) text =
      true ↔ [] ∈ restsOfAll ((start.map escapedPart ++ [star]) ++ ending.map escapedPart) text := by
    simp [matchesText]
  rw [hmatches, restsOfAll_append, restsOfAll_append, restsOfAll_map_escapedPart]
  simp only [List.mem_flatMap, restsOfAll_map_escapedPart, mem_restsOfAll_literal, hstar,
    mem_restsOfStar, List.append_nil]
  constructor
  · rintro ⟨_, ⟨_, rfl, between, hbetween, rfl⟩, rfl⟩
    exact ⟨between, hbetween, rfl⟩
  · rintro ⟨between, hbetween, rfl⟩
    exact ⟨ending, ⟨between ++ ending, rfl, between, hbetween, rfl⟩, rfl⟩

/-- So what it matches ends in the second text. -/
theorem suffix_of_read?_escape {start ending text : Text} (hstart : '\\' ∉ start)
    (hending : '\\' ∉ ending) {glob : List Glob}
    (hread : read? (escape start ++ '*' :: escape ending) = some glob)
    (h : matchesText glob text = true) : ending <:+ text := by
  obtain ⟨between, -, rfl⟩ := (matchesText_escape_iff hstart hending hread).mp h
  exact (List.suffix_append between ending).trans (List.suffix_append start _)

end Tangle.Glob
