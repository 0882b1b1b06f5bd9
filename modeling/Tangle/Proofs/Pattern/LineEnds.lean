import Tangle.Filter
import Tangle.Proofs.Pattern.Meaning

/-!
# Patterns at the end of a line

A filter is shown lines with their terminators, and so a pattern can tell how a line ends: one that
asks for the end of the text is not found in front of a line feed. Two conditions exclude this, and
both are decided on the pattern alone.

A pattern is lasting if it is still found in a line when the line is ended: it asks nothing of what
is behind its match, or it passes over terminators before it asks for the end. A pattern is steady
if what a match has of a terminator can be left out: a match in an ended line then shrinks to one in
the line alone. Whoever writes patterns that are both need not care how lines end.
-/

namespace Tangle

/-! ## Ended lines -/

/-- A text without terminators, and the same text with one at its end. -/
structure Ended (text ended : Array Char) : Prop where
  plain {i : Nat} {c : Char} : text[i]? = some c → c ≠ '\n' ∧ c ≠ '\r'
  kept {i : Nat} : i < text.size → ended[i]? = text[i]?
  ending {i : Nat} {c : Char} : text.size ≤ i → ended[i]? = some c → c = '\n' ∨ c = '\r'
  size_lt : text.size < ended.size

theorem Ended.ended_at {text ended : Array Char} (h : Ended text ended) :
    ended[text.size]? = some '\n' ∨ ended[text.size]? = some '\r' := by
  have hc := Array.getElem?_eq_getElem h.size_lt
  rcases h.ending (Nat.le_refl _) hc with hfeed | hreturn
  · exact Or.inl (hfeed ▸ hc)
  · exact Or.inr (hreturn ▸ hc)

theorem ended_append {line ending : Text} (hfeed : '\n' ∉ line) (hreturn : '\r' ∉ line)
    (hending : ∀ c ∈ ending, c = '\n' ∨ c = '\r') (hne : ending ≠ []) :
    Ended line.toArray (line ++ ending).toArray where
  plain := by
    intro i c hc
    have hmem : c ∈ line := List.mem_of_getElem? (by simpa using hc)
    exact ⟨fun h => hfeed (h ▸ hmem), fun h => hreturn (h ▸ hmem)⟩
  kept := by
    intro i hi
    simp only [List.size_toArray] at hi
    simp [List.getElem?_append_left hi]
  ending := by
    intro i c hi hc
    simp only [List.size_toArray] at hi
    rw [List.getElem?_toArray, List.getElem?_append_right hi] at hc
    exact hending c (List.mem_of_getElem? hc)
  size_lt := by
    have hpos := List.length_pos_iff.mpr hne
    simp only [List.size_toArray, List.length_append]
    omega

namespace Pattern

/-! ## Positions -/

/-- A condition on characters that no terminator satisfies. -/
def isInline (holds : Char → Bool) : Bool := !holds '\n' && !holds '\r'

section Ended

variable {text ended : Array Char} (h : Ended text ended) {i j : Nat}

include h

/-- What only characters of a line satisfy stands in the line. -/
theorem lt_size_of_inline {holds : Char → Bool} (hinline : isInline holds = true) {c : Char}
    (hc : ended[i]? = some c) (hholds : holds c = true) : i < text.size := by
  simp only [isInline, Bool.and_eq_true, Bool.not_eq_true'] at hinline
  by_contra hi
  rcases h.ending (Nat.le_of_not_lt hi) hc with rfl | rfl
  · rw [hinline.1] at hholds
    cases hholds
  · rw [hinline.2] at hholds
    cases hholds

theorem charBefore_ended (hi : i ≤ text.size) : charBefore ended i = charBefore text i := by
  unfold charBefore
  split
  · rfl
  · exact h.kept (by omega)

variable {ascii : Bool} (hword : isInline (fun c => isWord ascii (some c)) = true)

include hword

/-- No word goes on behind a line. -/
theorem isWord_of_size_le (hi : text.size ≤ i) : isWord ascii ended[i]? = false := by
  cases hc : ended[i]? with
  | none => rfl
  | some c =>
    by_contra hisWord
    rw [Bool.not_eq_false] at hisWord
    exact Nat.not_lt_of_le hi (lt_size_of_inline h hword hc hisWord)

theorem isWord_ended (hi : i ≤ text.size) : isWord ascii ended[i]? = isWord ascii text[i]? := by
  rcases Nat.eq_or_lt_of_le hi with rfl | hlt
  · rw [isWord_of_size_le h hword (Nat.le_refl _), Array.getElem?_eq_none (Nat.le_refl _)]
    rfl
  · rw [h.kept hlt]

theorem isWord_charBefore_of_size_lt (hi : text.size < i) :
    isWord ascii (charBefore ended i) = false := by
  rw [charBefore, if_neg (by omega)]
  exact isWord_of_size_le h hword (by omega)

end Ended

/-! ## Assertions -/

/-- The assertion needs a character of a word beside it. -/
def Boundary.needsWord : Boundary → Bool
  | edge | start | finish => true
  | noEdge | startHalf | finishHalf => false

namespace Assertion

/-- Whether the condition holds in a line does not depend on how the line ends. -/
def isLocal : Assertion → Bool
  | textEnd | lineEnd => false
  | word _ ascii => isInline fun c => isWord ascii (some c)
  | _ => true

/-- The condition holds nowhere behind a line. -/
def isFirm : Assertion → Bool
  | textStart => true
  | word boundary ascii => boundary.needsWord && isInline fun c => isWord ascii (some c)
  | _ => false

/-- If the condition holds behind a line, it holds at the end of the line alone. -/
def isSteady : Assertion → Bool
  | textEnd | lineEnd | crlfLineEnd => true
  | condition => condition.isLocal && condition.isFirm

variable {text ended : Array Char} (h : Ended text ended) {condition : Assertion} {i : Nat}

include h

theorem holds_ended (hlocal : condition.isLocal = true) (hi : i ≤ text.size) :
    condition.holds ended i = condition.holds text i := by
  have hbefore := charBefore_ended h hi
  have hnoReturn : charBefore text i ≠ some '\r' := by
    unfold charBefore
    split
    · exact (Option.some_ne_none _).symm
    · exact fun hc => (h.plain hc).2 rfl
  cases condition with
  | textStart => rfl
  | textEnd => cases hlocal
  | lineStart => simp only [holds, hbefore]
  | lineEnd => cases hlocal
  | crlfLineStart => simp [holds, hbefore, hnoReturn]
  | crlfLineEnd =>
    rcases Nat.eq_or_lt_of_le hi with rfl | hlt
    · -- here either terminator counts as the end of a line
      rcases h.ended_at with hend | hend
      · simp [holds, hend, hbefore, hnoReturn]
      · simp [holds, hend]
    · have hsize : i ≠ text.size ∧ i ≠ ended.size := by
        have := h.size_lt
        omega
      simp [holds, hbefore, h.kept hlt, hsize]
  | word boundary ascii => simp only [holds, hbefore, isWord_ended h hlocal hi]

theorem le_size_of_isFirm (hfirm : condition.isFirm = true)
    (hholds : condition.holds ended i = true) : i ≤ text.size := by
  by_contra hi
  have hlt : text.size < i := Nat.lt_of_not_le hi
  cases condition with
  | textStart =>
    obtain rfl : i = 0 := by simpa [holds] using hholds
    omega
  | word boundary ascii =>
    obtain ⟨hboundary, hword⟩ := Bool.and_eq_true_iff.mp hfirm
    have hbefore := isWord_charBefore_of_size_lt h hword hlt
    have hafter := isWord_of_size_le h hword (Nat.le_of_lt hlt)
    cases boundary with
    | edge => simp [holds, hbefore, hafter] at hholds
    | start => simp [holds, hbefore, hafter] at hholds
    | finish => simp [holds, hbefore, hafter] at hholds
    | noEdge => cases hboundary
    | startHalf => cases hboundary
    | finishHalf => cases hboundary
  | textEnd => cases hfirm
  | lineStart => cases hfirm
  | lineEnd => cases hfirm
  | crlfLineStart => cases hfirm
  | crlfLineEnd => cases hfirm

/-- Where a line feed or a carriage return stands, a line is at its end. -/
theorem size_le_of_terminator (hi : i = ended.size ∨ ended[i]? = some '\n' ∨
    ended[i]? = some '\r') : text.size ≤ i := by
  by_contra hlt
  have hkept := h.kept (Nat.lt_of_not_le hlt)
  have hsize := h.size_lt
  rcases hi with hi | hi | hi
  · omega
  · exact (h.plain (hkept ▸ hi)).1 rfl
  · exact (h.plain (hkept ▸ hi)).2 rfl

theorem holds_min (hsteady : condition.isSteady = true)
    (hholds : condition.holds ended i = true) :
    condition.holds text (min i text.size) = true := by
  -- a firm condition holds within the line, where a local one holds as before
  have hfirm (hboth : condition.isLocal && condition.isFirm) :
      condition.holds text (min i text.size) = true := by
    obtain ⟨hlocal, hfirm⟩ := Bool.and_eq_true_iff.mp hboth
    have hi := le_size_of_isFirm h hfirm hholds
    rw [Nat.min_eq_left hi, ← holds_ended h hlocal hi]
    exact hholds
  have hend (hi : i = ended.size ∨ ended[i]? = some '\n' ∨ ended[i]? = some '\r') :
      min i text.size = text.size :=
    Nat.min_eq_right (size_le_of_terminator h hi)
  cases condition with
  | textEnd =>
    have hi : i = ended.size := by simpa [holds] using hholds
    rw [hend (Or.inl hi)]
    simp [holds]
  | lineEnd =>
    have hi : i = ended.size ∨ ended[i]? = some '\n' := by simpa [holds] using hholds
    rw [hend (hi.imp_right Or.inl)]
    simp [holds]
  | crlfLineEnd =>
    have hi : (i = ended.size ∨ ended[i]? = some '\r') ∨
        ended[i]? = some '\n' ∧ charBefore ended i ≠ some '\r' := by
      simpa [holds] using hholds
    rw [hend (or_assoc.mp (hi.imp_right And.left) |>.imp_right Or.symm)]
    simp [holds]
  | textStart => exact hfirm hsteady
  | lineStart => exact hfirm hsteady
  | crlfLineStart => exact hfirm hsteady
  | word boundary ascii => exact hfirm hsteady

end Assertion

/-! ## Patterns -/

/-- The matches within a line do not depend on how the line ends. -/
def isLocal : Pattern → Bool
  | empty => true
  | char _ => true
  | assertion condition => condition.isLocal
  | seq first second => first.isLocal && second.isLocal
  | either left right => left.isLocal && right.isLocal
  | repeated inner _ _ => inner.isLocal

/-- A repetition that takes terminators like other characters, as many as there are. -/
def takesTerminators : Pattern → Bool
  | repeated (char set) _ none => set.has '\n' && set.has '\r'
  | _ => false

/-- The end of the text or of a line, and nothing else. -/
def isEnd : Pattern → Bool
  | assertion .textEnd | assertion .lineEnd => true
  | seq first empty => first.isEnd
  | _ => false

/-- Where a match starts in a line, one starts there in the ended line. A pattern may ask for the
end if it passes over terminators before. -/
def isLasting : Pattern → Bool
  | seq first second =>
    (first.isLocal && second.isLasting) || (first.takesTerminators && second.isEnd)
  | either left right => left.isLasting && right.isLasting
  | p => p.isLocal

/-- No match starts behind a line. -/
def isFirm : Pattern → Bool
  | empty => false
  | char set => isInline set.has
  | assertion condition => condition.isFirm
  | seq first second => first.isFirm || second.isFirm
  | either left right => left.isFirm && right.isFirm
  | repeated inner least _ => 0 < least && inner.isFirm

/-- Whether a pattern is a set of characters. -/
def isChar : Pattern → Bool
  | char _ => true
  | _ => false

/-- A match stays a match when what it has of a terminator is left out. A sequence may have a first
part that is not steady if the second one cannot start behind the line. -/
def isSteady : Pattern → Bool
  | empty => true
  | char set => isInline set.has
  | assertion condition => condition.isSteady
  | seq first second =>
    second.isSteady && (first.isSteady || (first.isLocal && second.isFirm))
  | either left right => left.isSteady && right.isSteady
  | repeated inner least _ => inner.isSteady || (least = 0 && inner.isChar)

section Patterns

variable {text ended : Array Char} (h : Ended text ended) {p : Pattern} {i j : Nat}

include h

theorem spans_ended (hlocal : p.isLocal = true) (hi : i ≤ text.size) (hj : j ≤ text.size) :
    p.Spans ended i j ↔ p.Spans text i j := by
  induction p generalizing i j with
  | empty => rfl
  | char set =>
    simp only [Spans]
    apply and_congr_right
    rintro rfl
    rw [h.kept hj]
  | assertion condition =>
    simp only [Spans]
    rw [Assertion.holds_ended h hlocal hi]
  | seq first second hfirst hsecond =>
    obtain ⟨hl, hr⟩ := Bool.and_eq_true_iff.mp hlocal
    simp only [Spans]
    constructor
    · rintro ⟨k, hik, hkj⟩
      have hk : k ≤ text.size := Nat.le_trans ((forward_spans ended second).le hkj) hj
      exact ⟨k, (hfirst hl hi hk).mp hik, (hsecond hr hk hj).mp hkj⟩
    · rintro ⟨k, hik, hkj⟩
      have hk : k ≤ text.size := Nat.le_trans ((forward_spans text second).le hkj) hj
      exact ⟨k, (hfirst hl hi hk).mpr hik, (hsecond hr hk hj).mpr hkj⟩
  | either left right hleft hright =>
    obtain ⟨hl, hr⟩ := Bool.and_eq_true_iff.mp hlocal
    simp only [Spans]
    rw [hleft hl hi hj, hright hr hi hj]
  | repeated inner least extra hinner =>
    have hsteps (k l : Nat) (hk : k ≤ text.size) (hl : l ≤ text.size) :=
      hinner hlocal hk hl
    simp only [Spans]
    apply exists_congr
    intro n
    apply and_congr_right
    intro _
    apply and_congr_right
    intro _
    constructor
    · exact (forward_spans ended inner).copies_of_le (fun k l hk hl => (hsteps k l hk hl).mp) hj
    · exact (forward_spans text inner).copies_of_le (fun k l hk hl => (hsteps k l hk hl).mpr) hj

theorem eq_size_of_isEnd (hend : p.isEnd = true) (hspans : p.Spans text i j) : i = text.size := by
  fun_induction isEnd p generalizing j with
  | case1 =>
    obtain ⟨-, hholds⟩ := hspans
    simpa [Assertion.holds] using hholds
  | case2 =>
    obtain ⟨-, hholds⟩ := hspans
    have hi : i = text.size ∨ text[i]? = some '\n' := by simpa [Assertion.holds] using hholds
    exact hi.resolve_right fun hc => (h.plain hc).1 rfl
  | case3 first ih =>
    obtain ⟨k, hik, -⟩ := hspans
    exact ih hend hik
  | case4 => cases hend

omit h in
theorem spans_of_isEnd (text : Array Char) (hend : p.isEnd = true) :
    p.Spans text text.size text.size := by
  fun_induction isEnd p with
  | case1 => simp [Spans, Assertion.holds]
  | case2 => simp [Spans, Assertion.holds]
  | case3 first ih => exact ⟨text.size, ih hend, rfl⟩
  | case4 => cases hend

/-- What takes terminators as well reaches the end of the ended line where it reaches that of the
line. -/
theorem spans_of_takesTerminators (htakes : p.takesTerminators = true)
    (hspans : p.Spans text i text.size) : p.Spans ended i ended.size := by
  unfold takesTerminators at htakes
  split at htakes
  · rename_i set least
    obtain ⟨hfeed, hreturn⟩ := Bool.and_eq_true_iff.mp htakes
    obtain ⟨n, hleast, -, hcopies⟩ := hspans
    -- the copies within the line stay, and each character of the terminator is one more
    have hinside : Copies ((char set).Spans ended) n i text.size :=
      (forward_spans text (char set)).copies_of_le
        (fun k l hk hl => (spans_ended h rfl hk hl).mpr) (Nat.le_refl _) hcopies
    have hsize := Nat.add_sub_cancel' (Nat.le_of_lt h.size_lt)
    have hbehind := copies_of_forall_step (R := (char set).Spans ended) (i := text.size)
      (ended.size - text.size) (fun k hk hlt => by
        have hc := Array.getElem?_eq_getElem (hsize ▸ hlt)
        refine ⟨rfl, _, hc, ?_⟩
        rcases h.ending hk hc with heq | heq
        · rw [heq, hfeed]
        · rw [heq, hreturn])
    rw [hsize] at hbehind
    refine ⟨_, Nat.le_add_right_of_le hleast, ?_,
      copies_add.mpr ⟨text.size, hinside, hbehind⟩⟩
    intro m hm
    cases hm
  · cases htakes

theorem exists_spans_ended (hlasting : p.isLasting = true) (hi : i ≤ text.size)
    (hspans : p.Spans text i j) : ∃ k, p.Spans ended i k := by
  have hlocal {p : Pattern} {i j : Nat} (hlocal : p.isLocal = true) (hi : i ≤ text.size)
      (hspans : p.Spans text i j) : ∃ k, p.Spans ended i k :=
    ⟨j, (spans_ended h hlocal hi ((forward_spans text p).le_bound hspans hi)).mpr hspans⟩
  induction p generalizing i j with
  | seq first second _ hsecond =>
    obtain ⟨k, hik, hkj⟩ := hspans
    have hk := (forward_spans text first).le_bound hik hi
    rcases Bool.or_eq_true_iff.mp hlasting with hlasting | hlasting
    · obtain ⟨hfirst, hlasting⟩ := Bool.and_eq_true_iff.mp hlasting
      obtain ⟨l, hkl⟩ := hsecond hlasting hk hkj
      exact ⟨l, k, (spans_ended h hfirst hi hk).mpr hik, hkl⟩
    · -- the terminator is passed over, and the end is behind it
      obtain ⟨htakes, hend⟩ := Bool.and_eq_true_iff.mp hlasting
      obtain rfl : k = text.size := eq_size_of_isEnd h hend hkj
      exact ⟨_, _, spans_of_takesTerminators h htakes hik, spans_of_isEnd ended hend⟩
  | either left right hleft hright =>
    obtain ⟨hl, hr⟩ := Bool.and_eq_true_iff.mp hlasting
    rcases hspans with hspans | hspans
    · obtain ⟨k, hik⟩ := hleft hl hi hspans
      exact ⟨k, Or.inl hik⟩
    · obtain ⟨k, hik⟩ := hright hr hi hspans
      exact ⟨k, Or.inr hik⟩
  | empty => exact hlocal hlasting hi hspans
  | char set => exact hlocal hlasting hi hspans
  | assertion condition => exact hlocal hlasting hi hspans
  | repeated inner least extra _ => exact hlocal hlasting hi hspans

theorem le_size_of_spans (hfirm : p.isFirm = true) (hspans : p.Spans ended i j) :
    i ≤ text.size := by
  induction p generalizing i j with
  | empty => cases hfirm
  | char set =>
    obtain ⟨-, c, hc, hset⟩ := hspans
    exact Nat.le_of_lt (lt_size_of_inline h hfirm hc hset)
  | assertion condition => exact Assertion.le_size_of_isFirm h hfirm hspans.2
  | seq first second hfirst hsecond =>
    obtain ⟨k, hik, hkj⟩ := hspans
    rcases Bool.or_eq_true_iff.mp hfirm with hfirm | hfirm
    · exact hfirst hfirm hik
    · exact Nat.le_trans ((forward_spans ended first).le hik) (hsecond hfirm hkj)
  | either left right hleft hright =>
    obtain ⟨hl, hr⟩ := Bool.and_eq_true_iff.mp hfirm
    rcases hspans with hspans | hspans
    · exact hleft hl hspans
    · exact hright hr hspans
  | repeated inner least extra hinner =>
    obtain ⟨hleast, hfirm⟩ := Bool.and_eq_true_iff.mp hfirm
    obtain ⟨n, hn, -, hcopies⟩ := hspans
    -- there is a first copy, and it starts where all of them do
    have hpos : 0 < least := of_decide_eq_true hleast
    cases n with
    | zero => omega
    | succ n =>
      obtain ⟨k, hik, -⟩ := hcopies
      exact hinner hfirm hik

/-- A character is in the line or can be left out. -/
theorem min_of_isChar (hchar : p.isChar = true) (hspans : p.Spans ended i j) :
    min i text.size = min j text.size ∨ p.Spans text (min i text.size) (min j text.size) := by
  cases p with
  | char set =>
    obtain ⟨rfl, c, hc, hset⟩ := hspans
    rcases Nat.lt_or_ge i text.size with hi | hi
    · rw [Nat.min_eq_left (Nat.le_of_lt hi), Nat.min_eq_left hi]
      exact Or.inr ⟨rfl, c, (h.kept hi) ▸ hc, hset⟩
    · rw [Nat.min_eq_right hi, Nat.min_eq_right (Nat.le_succ_of_le hi)]
      exact Or.inl rfl
  | empty => cases hchar
  | assertion condition => cases hchar
  | seq first second => cases hchar
  | either left right => cases hchar
  | repeated inner least extra => cases hchar

theorem spans_min (hsteady : p.isSteady = true) (hspans : p.Spans ended i j) :
    p.Spans text (min i text.size) (min j text.size) := by
  induction p generalizing i j with
  | empty => exact congrArg (min · text.size) hspans
  | char set =>
    obtain ⟨rfl, c, hc, hset⟩ := hspans
    have hi := lt_size_of_inline h hsteady hc hset
    rw [Nat.min_eq_left (Nat.le_of_lt hi), Nat.min_eq_left hi]
    exact ⟨rfl, c, (h.kept hi) ▸ hc, hset⟩
  | assertion condition =>
    obtain ⟨rfl, hholds⟩ := hspans
    exact ⟨rfl, Assertion.holds_min h hsteady hholds⟩
  | seq first second hfirst hsecond =>
    obtain ⟨hl, hr⟩ := Bool.and_eq_true_iff.mp hsteady
    obtain ⟨k, hik, hkj⟩ := hspans
    refine ⟨min k text.size, ?_, hsecond hl hkj⟩
    rcases Bool.or_eq_true_iff.mp hr with hr | hr
    · exact hfirst hr hik
    · -- the second part begins within the line, and so the first part lies in it
      obtain ⟨hlocal, hfirm⟩ := Bool.and_eq_true_iff.mp hr
      have hk := le_size_of_spans h hfirm hkj
      have hi := Nat.le_trans ((forward_spans ended first).le hik) hk
      rw [Nat.min_eq_left hi, Nat.min_eq_left hk]
      exact (spans_ended h hlocal hi hk).mp hik
  | either left right hleft hright =>
    obtain ⟨hl, hr⟩ := Bool.and_eq_true_iff.mp hsteady
    rcases hspans with hspans | hspans
    · exact Or.inl (hleft hl hspans)
    · exact Or.inr (hright hr hspans)
  | repeated inner least extra hinner =>
    obtain ⟨n, hleast, hextra, hcopies⟩ := hspans
    rcases Bool.or_eq_true_iff.mp hsteady with hsteady | hsteady
    · have hcopies := copies_map (f := (min · text.size)) (fun k l => hinner hsteady) hcopies
      exact ⟨n, hleast, hextra, hcopies⟩
    · -- no copy is needed, and those that take terminators are left out
      obtain ⟨hzero, hchar⟩ := Bool.and_eq_true_iff.mp hsteady
      obtain rfl : least = 0 := of_decide_eq_true hzero
      obtain ⟨m, hm, hcopies⟩ :=
        exists_copies_map (f := (min · text.size)) (fun k l => min_of_isChar h hchar) hcopies
      exact ⟨m, Nat.zero_le m, fun b hb => Nat.le_trans hm (hextra b hb), hcopies⟩

end Patterns

section Lines

variable {line ending : Text} (h : Ended line.toArray (line ++ ending).toArray) {p : Pattern}

include h

/-- A lasting pattern is found in a line also when the line is ended. -/
theorem occursIn_append_of_isLasting (hlasting : p.isLasting = true)
    (hoccurs : p.occursIn line = true) : p.occursIn (line ++ ending) = true := by
  obtain ⟨i, j, hi, hspans⟩ := occursIn_iff.mp hoccurs
  obtain ⟨k, hspans⟩ := exists_spans_ended h hlasting hi hspans
  have hlength : line.length ≤ (line ++ ending).length := by simp
  exact occursIn_iff.mpr ⟨i, k, Nat.le_trans hi hlength, hspans⟩

/-- A steady pattern that is found in an ended line is found in the line alone. -/
theorem occursIn_of_append (hsteady : p.isSteady = true)
    (hoccurs : p.occursIn (line ++ ending) = true) : p.occursIn line = true := by
  obtain ⟨i, j, -, hspans⟩ := occursIn_iff.mp hoccurs
  exact occursIn_iff.mpr ⟨_, _, Nat.min_le_right _ _, spans_min h hsteady hspans⟩

end Lines

/-- A pattern that does not see how a line ends. -/
def ignoresEnd (p : Pattern) : Bool := p.isLasting && p.isSteady

/-- The end of the text may be asked for behind blanks, which are as good as terminators. -/
example : (Pattern.read? "#\\s*$".toList).all ignoresEnd = true ∧
    (Pattern.read? "#$".toList).any ignoresEnd = false := by
  decide +kernel

theorem occursIn_append {p : Pattern} (hp : p.ignoresEnd = true) {line ending : Text}
    (h : Ended line.toArray (line ++ ending).toArray) :
    p.occursIn (line ++ ending) = p.occursIn line := by
  obtain ⟨hlasting, hsteady⟩ := Bool.and_eq_true_iff.mp hp
  apply Bool.eq_iff_iff.mpr
  constructor
  · exact occursIn_of_append h hsteady
  · exact occursIn_append_of_isLasting h hlasting

end Pattern

/-! ## Filters -/

namespace LineFilter

/-- The patterns of a filter are those that its sources are read as. -/
theorem exists_source_of_readPatterns {sources : List Text} {patterns : List Pattern}
    (h : readPatterns sources = .ok patterns) :
    ∀ p ∈ patterns, ∃ source ∈ sources, Pattern.read? source = some p := by
  induction sources generalizing patterns with
  | nil =>
    obtain rfl : patterns = [] := (Except.ok.inj h).symm
    exact fun p hp => absurd hp List.not_mem_nil
  | cons source more ih =>
    rw [readPatterns] at h
    cases hread : Pattern.read? source with
    | none =>
      rw [hread] at h
      cases h
    | some first =>
      rw [hread] at h
      cases hmore : readPatterns more with
      | error faulty =>
        simp only [hmore] at h
        cases h
      | ok rest =>
        simp only [hmore] at h
        cases h
        intro p hp
        rcases List.mem_cons.mp hp with rfl | hp
        · exact ⟨source, List.mem_cons_self, hread⟩
        · obtain ⟨other, hother, hread⟩ := ih hmore p hp
          exact ⟨other, List.mem_cons_of_mem _ hother, hread⟩

theorem exists_source_of_compile {sources : List Text} {annotations : Bool} {filter : LineFilter}
    (h : compile sources annotations = .ok filter) :
    ∀ p ∈ filter.patterns, ∃ source, (source ∈ sources ∨ source = annotationPattern) ∧
      Pattern.read? source = some p := by
  unfold compile at h
  cases hread : readPatterns (if annotations then sources ++ [annotationPattern] else sources) with
  | error faulty =>
    rw [hread] at h
    cases h
  | ok patterns =>
    rw [hread] at h
    cases h
    intro p hp
    obtain ⟨source, hsource, hp⟩ := exists_source_of_readPatterns hread p hp
    refine ⟨source, ?_, hp⟩
    cases annotations with
    | true => simpa using hsource
    | false => exact Or.inl hsource

/-- The comments of the publisher are found however their lines end. -/
theorem ignoresEnd_annotationPattern {p : Pattern}
    (h : Pattern.read? annotationPattern = some p) : p.ignoresEnd = true := by
  have hall : (Pattern.read? annotationPattern).all Pattern.ignoresEnd = true := by decide +kernel
  rw [h] at hall
  exact hall

/-- **How a line ends makes no difference** to a filter of patterns that do not see it: the line is
excluded alone, in front of a line feed, and in front of a carriage return and a line feed, or in
none of these ways. -/
theorem excludes_ended {sources : List Text} {annotations : Bool} {filter : LineFilter}
    (hcompile : compile sources annotations = .ok filter)
    (hsources : ∀ source ∈ sources, ∀ p, Pattern.read? source = some p → p.ignoresEnd = true)
    {line : Text} (hfeed : '\n' ∉ line) (hreturn : '\r' ∉ line) :
    filter.excludes (line ++ ['\n']) = filter.excludes line ∧
      filter.excludes (line ++ ['\r', '\n']) = filter.excludes line := by
  have hpatterns : ∀ p ∈ filter.patterns, p.ignoresEnd = true := by
    intro p hp
    obtain ⟨source, hsource, hread⟩ := exists_source_of_compile hcompile p hp
    rcases hsource with hsource | rfl
    · exact hsources source hsource p hread
    · exact ignoresEnd_annotationPattern hread
  have hending {ending : Text} (h : Ended line.toArray (line ++ ending).toArray) :
      filter.excludes (line ++ ending) = filter.excludes line := by
    apply Bool.eq_iff_iff.mpr
    simp only [excludes, List.any_eq_true]
    apply exists_congr
    intro p
    apply and_congr_right
    intro hp
    rw [Pattern.occursIn_append (hpatterns p hp) h]
  constructor
  · exact hending (ended_append hfeed hreturn (by simp) (by simp))
  · exact hending (ended_append hfeed hreturn (by simp) (by simp))

theorem compile_singleton {source : Text} {p : Pattern} (h : Pattern.read? source = some p) :
    compile [source] false = .ok ⟨[p]⟩ := by
  simp [compile, readPatterns, h, Except.map]

theorem excludes_singleton (p : Pattern) (line : Text) :
    excludes ⟨[p]⟩ line = p.occursIn line := by
  simp [excludes]

/-- Terminators are blanks, but none of them is taken for the blank in front of the sign. -/
theorem excludes_ended_behind_blank :
    ∃ filter, compile ["^\\s#".toList] false = .ok filter ∧
      filter.excludes [' ', '#'] = true ∧ filter.excludes [' ', '#', '\n'] = true ∧
      filter.excludes [' ', '#', '\r', '\n'] = true := by
  have hread : (Pattern.read? "^\\s#".toList).any
      (fun p => p.ignoresEnd && p.occursIn [' ', '#']) = true := by decide +kernel
  obtain ⟨p, hp, hboth⟩ := (Option.any_eq_true _ _).mp hread
  obtain ⟨hignores, hoccurs⟩ := Bool.and_eq_true_iff.mp hboth
  have hsources : ∀ source ∈ ["^\\s#".toList], ∀ q, Pattern.read? source = some q →
      q.ignoresEnd = true := by
    intro source hsource q hq
    obtain rfl := List.mem_singleton.mp hsource
    obtain rfl : p = q := Option.some.inj (hp.symm.trans hq)
    exact hignores
  have hcompile := compile_singleton hp
  have hexcluded : excludes ⟨[p]⟩ [' ', '#'] = true := (excludes_singleton p _).trans hoccurs
  obtain ⟨hfeed, hreturn⟩ :=
    excludes_ended hcompile hsources (show '\n' ∉ [' ', '#'] by decide) (by decide)
  exact ⟨⟨[p]⟩, hcompile, hexcluded, hfeed.trans hexcluded, hreturn.trans hexcluded⟩

/-- A pattern that asks for the end of the text is found in a line only if nothing ends it. -/
theorem not_excludes_ended :
    ¬ ∀ (sources : List Text) (annotations : Bool) (filter : LineFilter) (line : Text),
      compile sources annotations = .ok filter → '\n' ∉ line → '\r' ∉ line →
      filter.excludes (line ++ ['\n']) = filter.excludes line ∧
        filter.excludes (line ++ ['\r', '\n']) = filter.excludes line := by
  intro hall
  have hread : (Pattern.read? ['x', '$']).any
      (fun p => p.occursIn ['x'] && !p.occursIn ['x', '\n']) = true := by decide +kernel
  obtain ⟨p, hp, hboth⟩ := (Option.any_eq_true _ _).mp hread
  obtain ⟨halone, hended⟩ := Bool.and_eq_true_iff.mp hboth
  obtain ⟨hfeed, -⟩ := hall _ false _ ['x'] (compile_singleton hp) (by decide) (by decide)
  rw [excludes_singleton, excludes_singleton, halone] at hfeed
  rw [show p.occursIn ['x', '\n'] = true from hfeed] at hended
  cases hended

end LineFilter

end Tangle
