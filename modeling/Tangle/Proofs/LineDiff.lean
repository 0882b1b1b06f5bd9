import Tangle.LineDiff
import Tangle.Proofs.Edit.Readings
import Tangle.Proofs.Edit.Snake
import Tangle.Proofs.Text

/-!
# Reading line differences

The fragment of a page that shows a difference can be read back. Escaped text has no character that
could begin or end an element, so the fragment falls into its elements at these characters, and each
element tells what became of a line and the line itself. The lines of the old text are those that
were dropped or kept, and the lines of the new one those that were added or kept.
-/

namespace Tangle

/-! ## Escaped text -/

namespace Text

/-- A text without the references that stand for characters in a page. -/
def unescaped : Text → Text
  | [] => []
  | '&' :: 'l' :: 't' :: ';' :: rest => '<' :: unescaped rest
  | '&' :: 'g' :: 't' :: ';' :: rest => '>' :: unescaped rest
  | '&' :: 'a' :: 'm' :: 'p' :: ';' :: rest => '&' :: unescaped rest
  | '&' :: 'q' :: 'u' :: 'o' :: 't' :: ';' :: rest => '"' :: unescaped rest
  | '&' :: '#' :: 'x' :: '2' :: '7' :: ';' :: rest => '\'' :: unescaped rest
  | '&' :: '#' :: 'x' :: '2' :: 'f' :: ';' :: rest => '/' :: unescaped rest
  | c :: rest => c :: unescaped rest

/-- The characters that are written as references. -/
def references : List Char := ['<', '>', '&', '"', '\'', '/']

theorem escapedChar_of_notMem {c : Char} (h : c ∉ references) : escapedChar c = [c] := by
  simp only [references, List.mem_cons, List.not_mem_nil, not_or] at h
  unfold escapedChar
  split <;> simp_all

theorem unescaped_append (c : Char) (rest : Text) :
    unescaped (escapedChar c ++ rest) = c :: unescaped rest := by
  by_cases h : c ∈ references
  · simp only [references, List.mem_cons, List.not_mem_nil, or_false] at h
    rcases h with rfl | rfl | rfl | rfl | rfl | rfl <;> rfl
  · rw [escapedChar_of_notMem h]
    have hand : c ≠ '&' := by
      rintro rfl
      exact h (by decide)
    simp [unescaped, hand]

/-- Escaped text is read back whatever follows it. -/
theorem unescaped_escaped_append (text rest : Text) :
    unescaped (escaped text ++ rest) = text ++ unescaped rest := by
  induction text with
  | nil => rfl
  | cons c text ih =>
    rw [escaped, List.flatMap_cons, List.append_assoc, unescaped_append, ← escaped, ih,
      List.cons_append]

theorem unescaped_append_of_notMem {text : Text} (h : '&' ∉ text) (rest : Text) :
    unescaped (text ++ rest) = text ++ unescaped rest := by
  induction text with
  | nil => rfl
  | cons c text ih =>
    rw [List.mem_cons, not_or] at h
    have hc : c ≠ '&' := Ne.symm h.1
    rw [List.cons_append, List.cons_append, ← ih h.2]
    simp [unescaped, hc]

theorem unescaped_escaped (text : Text) : unescaped (escaped text) = text := by
  simpa [unescaped] using unescaped_escaped_append text []

/-- Escaped text has none of the characters that are written as references, but for the one that
every reference begins with. -/
theorem notMem_escaped {c : Char} (h : c ∈ references) (hand : c ≠ '&') (text : Text) :
    c ∉ escaped text := by
  intro hmem
  obtain ⟨d, -, hd⟩ := List.mem_flatMap.mp hmem
  by_cases hdr : d ∈ references
  · -- a reference begins with an ampersand, and goes on with none of the characters
    have hreference : (references.all fun d => (escapedChar d).all fun c =>
        c = '&' || !references.contains c) = true := by
      decide
    have hother := List.all_eq_true.mp (List.all_eq_true.mp hreference d hdr) c hd
    simp [h, hand] at hother
  · rw [escapedChar_of_notMem hdr, List.mem_singleton] at hd
    subst hd
    exact hdr h

end Text

theorem Text.splitOn_append_of_notMem {c : Char} {text rest part : Text} {more : List Text}
    (h : c ∉ text) (hrest : splitOn c rest = part :: more) :
    splitOn c (text ++ rest) = (text ++ part) :: more := by
  induction text with
  | nil => exact hrest
  | cons d text ih =>
    rw [List.mem_cons, not_or] at h
    rw [List.cons_append, splitOn, if_neg (Ne.symm h.1), ih h.2]
    rfl

namespace LineDiff

/-! ## Lines -/

theorem flatten_lines (text : Text) : (lines text).flatten = text := by
  fun_induction lines text with
  | case1 => rfl
  | case2 rest ih => simp [ih]
  | case3 c rest _ _ ih => simp [ih]
  | case4 c rest _ _ hnone ih =>
    rw [hnone] at ih
    rw [← ih]
    rfl
  | case5 c rest _ _ line more hmore ih =>
    rw [hmore] at ih
    rw [← ih]
    rfl

/-- What can end a line. -/
def lineEnds : List Text := [[], ['\n'], ['\r'], ['\r', '\n']]

/-- A line has one terminator, or none at the end of the text. -/
theorem exists_of_mem_lines {text line : Text} (h : line ∈ lines text) :
    ∃ body, ∃ ending ∈ lineEnds, line = body ++ ending ∧
      ∀ c ∈ body, Text.isTerminator c = false := by
  fun_induction lines text generalizing line with
  | case1 => cases h
  | case2 rest ih =>
    rcases List.mem_cons.mp h with rfl | h
    · exact ⟨[], ['\r', '\n'], by decide, rfl, by simp⟩
    · exact ih h
  | case3 c rest _ hc ih =>
    rcases List.mem_cons.mp h with rfl | h
    · refine ⟨[], [c], ?_, rfl, by simp⟩
      simp only [Bool.or_eq_true, decide_eq_true_eq] at hc
      rcases hc with rfl | rfl <;> decide
    · exact ih h
  | case4 c rest _ hc hnone ih =>
    obtain rfl := List.mem_singleton.mp h
    exact ⟨[c], [], by decide, rfl,
      List.forall_mem_singleton.mpr (by simpa [Text.isTerminator] using hc)⟩
  | case5 c rest _ hc first more hmore ih =>
    rw [hmore] at ih
    rcases List.mem_cons.mp h with rfl | h
    · obtain ⟨body, ending, hending, rfl, hbody⟩ := ih List.mem_cons_self
      refine ⟨c :: body, ending, hending, rfl, List.forall_mem_cons.mpr ⟨?_, hbody⟩⟩
      simpa [Text.isTerminator] using hc
    · exact ih (List.mem_cons_of_mem _ h)

/-- A line without its terminator lacks nothing else. -/
theorem withoutTerminator_of_mem_lines {text line : Text} (h : line ∈ lines text) :
    ∃ ending ∈ lineEnds, line = line.withoutTerminator ++ ending := by
  obtain ⟨body, ending, hending, rfl, hbody⟩ := exists_of_mem_lines h
  refine ⟨ending, hending, ?_⟩
  have hends : ∀ ending ∈ lineEnds, ∀ c ∈ ending, Text.isTerminator c = true := by
    simp [lineEnds, Text.isTerminator]
  rw [Text.withoutTerminator_append_of_forall hbody (hends ending hending)]

/-! ## Elements -/

/-- What became of a line. -/
inductive Kind where
  | del
  | ins
  | eq
  deriving Repr, DecidableEq

/-- How an element tells what became of its line: by its class, and by a sign before the line. -/
def Kind.mark : Kind → Text
  | .del => ['d', 'e', 'l', '"', '>', '-', ' ']
  | .ins => ['i', 'n', 's', '"', '>', '+', ' ']
  | .eq => ['e', 'q', '"', '>', ' ', ' ']

/-- An element of a difference: a line without its terminator, and what became of it. -/
structure Span where
  kind : Kind
  text : Text
  deriving Repr, DecidableEq

/-- How every element begins, behind the character that opens it. -/
def opening : Text := "span class=\"".toList

/-- How every element ends, behind the character that opens its last part. -/
def closing : Text := "/span>".toList

/-- The two parts of an element, without the characters that open them. -/
def Span.parts (span : Span) : List Text :=
  [opening ++ (span.kind.mark ++ Text.escaped span.text), closing]

/-- An element as it stands in a page. -/
def Span.write (span : Span) : Text := span.parts.flatMap ('<' :: ·)

/-- The element that shows a change. -/
def Span.of : Edit.Change Text → Span
  | .drop line => ⟨.del, line.withoutTerminator⟩
  | .add line => ⟨.ins, line.withoutTerminator⟩
  | .keep line => ⟨.eq, line.withoutTerminator⟩

theorem element_eq (kind : Kind) {className : Text} {sign : Char}
    (hmark : kind.mark = className ++ ['"', '>', sign, ' ']) (line : Text) :
    element className sign line = Span.write ⟨kind, line.withoutTerminator⟩ := by
  show '<' :: opening ++ className ++ ['"', '>', sign, ' '] ++
      Text.escaped line.withoutTerminator ++ '<' :: closing = _
  simp only [Span.write, Span.parts, hmark, List.flatMap_cons, List.flatMap_nil, List.append_nil,
    List.cons_append, List.append_assoc]

theorem changeElement_eq (change : Edit.Change Text) :
    changeElement change = (Span.of change).write := by
  cases change with
  | drop line => exact element_eq .del rfl line
  | add line => exact element_eq .ins rfl line
  | keep line => exact element_eq .eq rfl line

/-- How a fragment begins and ends, in the same way. -/
def heading : Text := "pre class=\"diff\">".toList

def trailer : Text := "/pre>".toList

/-- Elements as a fragment of a page. -/
def write (spans : List Span) : Text :=
  '<' :: (heading ++ (spans.flatMap Span.write ++ '<' :: trailer))

theorem write_eq (spans : List Span) :
    write spans = "<pre class=\"diff\">".toList ++ spans.flatMap Span.write ++
      "</pre>".toList := by
  show _ = '<' :: heading ++ spans.flatMap Span.write ++ '<' :: trailer
  simp only [write, List.cons_append, List.append_assoc]

theorem render_eq (before after : Text) :
    render before after = write ((changes before after).map Span.of) := by
  have hspans : (changes before after).flatMap changeElement =
      ((changes before after).map Span.of).flatMap Span.write := by
    rw [List.flatMap_map]
    exact List.flatMap_congr fun change _ => changeElement_eq change
  show '<' :: heading ++ (changes before after).flatMap changeElement ++ '<' :: trailer = _
  rw [hspans, write]
  simp only [List.cons_append, List.append_assoc]

/-! ## Reading back -/

/-- Reads the first part of an element. -/
def readFront? (part : Text) : Option Span := do
  let marked ← part.afterStart? opening
  [Kind.del, Kind.ins, Kind.eq].findSome? fun kind =>
    (marked.afterStart? kind.mark).map fun body => ⟨kind, Text.unescaped body⟩

/-- Reads elements from their parts, up to the end of the fragment. -/
def readParts? : List Text → Option (List Span)
  | [] => none
  | [last] => if last = trailer then some [] else none
  | first :: second :: more =>
    if second = closing then do
      let span ← readFront? first
      let rest ← readParts? more
      pure (span :: rest)
    else none

/-- Reads the elements of a fragment, which falls into parts where one is opened or closed. -/
def read? (fragment : Text) : Option (List Span) :=
  match Text.splitOn '<' fragment with
  | [] :: first :: parts => if first = heading then readParts? parts else none
  | _ => none

theorem readFront?_front (span : Span) :
    readFront? (opening ++ (span.kind.mark ++ Text.escaped span.text)) = some span := by
  obtain ⟨kind, text⟩ := span
  rw [readFront?, Text.afterStart?_append]
  -- no mark begins another one
  cases kind with
  | del => simp [Kind.mark, Text.afterStart?, Text.unescaped_escaped]
  | ins => simp [Kind.mark, Text.afterStart?, Text.unescaped_escaped]
  | eq => simp [Kind.mark, Text.afterStart?, Text.unescaped_escaped]

theorem notMem_front (span : Span) :
    '<' ∉ opening ++ (span.kind.mark ++ Text.escaped span.text) := by
  simp only [List.mem_append, not_or]
  refine ⟨by decide, ?_, Text.notMem_escaped (by decide) (by decide) _⟩
  cases span.kind <;> decide

/-- The characters that open something divide the elements into their parts. -/
theorem splitOn_spans (spans : List Span) :
    Text.splitOn '<' (spans.flatMap Span.write ++ '<' :: trailer) =
      [] :: (spans.flatMap Span.parts ++ [trailer]) := by
  induction spans with
  | nil => rfl
  | cons span spans ih =>
    have hend := Text.splitOn_append_of_notMem (by decide : '<' ∉ closing) ih
    have hfront := Text.splitOn_of_notMem (notMem_front span)
    rw [List.flatMap_cons, List.flatMap_cons, List.append_assoc]
    generalize spans.flatMap Span.write ++ '<' :: trailer = rest at hend
    simp only [Span.write, Span.parts, List.flatMap_cons, List.flatMap_nil, List.append_nil]
    generalize opening ++ (span.kind.mark ++ Text.escaped span.text) = front at hfront
    have hcut : '<' :: front ++ '<' :: closing ++ rest =
        '<' :: (front ++ '<' :: (closing ++ rest)) := by
      simp only [List.cons_append, List.append_assoc]
    rw [hcut, Text.splitOn, if_pos rfl, Text.splitOn_append_cons, hfront, hend, List.append_nil]
    rfl

theorem readParts?_parts (spans : List Span) :
    readParts? (spans.flatMap Span.parts ++ [trailer]) = some spans := by
  induction spans with
  | nil => rfl
  | cons span spans ih =>
    show readParts? (_ :: _ :: (spans.flatMap Span.parts ++ [trailer])) = _
    rw [readParts?, if_pos rfl, readFront?_front, ih]
    rfl

/-- **A fragment is read back** to the elements that it was written from. -/
theorem read?_write (spans : List Span) : read? (write spans) = some spans := by
  have hheading := Text.splitOn_append_of_notMem (by decide : '<' ∉ heading) (splitOn_spans spans)
  rw [List.append_nil] at hheading
  rw [read?, write, Text.splitOn, if_pos rfl, hheading]
  dsimp only
  rw [if_pos rfl, readParts?_parts]

/-- A fragment is written from no other elements. -/
theorem write_injective {spans other : List Span} (h : write spans = write other) :
    spans = other := by
  have hread := read?_write spans
  rw [h, read?_write] at hread
  exact (Option.some.inj hread).symm

/-! ## The two texts -/

/-- The kinds of the elements that tell a line of a side. -/
def Kind.isOn (side : Edit.Side) (kind : Kind) : Bool := kind = side.pick .del .ins || kind = .eq

/-- The elements of a side show its lines, without what ends them. -/
theorem texts_on (side : Edit.Side) (all : List (Edit.Change Text)) :
    ((all.map Span.of).filter fun span => span.kind.isOn side).map Span.text =
      (all.filterMap (Edit.Change.on side)).map Text.withoutTerminator := by
  induction all with
  | nil => rfl
  | cons change all ih =>
    -- a change tells a line of the side exactly if its element is of the side
    cases change with
    | keep line => cases side <;> exact congrArg (line.withoutTerminator :: ·) ih
    | drop line =>
      cases side with
      | old => exact congrArg (line.withoutTerminator :: ·) ih
      | new => exact ih
    | add line =>
      cases side with
      | old => exact ih
      | new => exact congrArg (line.withoutTerminator :: ·) ih

theorem kind_of_eq_iff (change : Edit.Change Text) :
    (Span.of change).kind = .eq ↔ change.isKeep = true := by
  cases change <;> simp [Span.of, Edit.Change.isKeep]

theorem lines_injective {text other : Text} (h : lines text = lines other) : text = other := by
  rw [← flatten_lines text, h, flatten_lines]

/-- Some element is that of a dropped or added line exactly if the texts differ. -/
theorem exists_edit_iff (before after : Text) :
    (∃ span ∈ (changes before after).map Span.of, span.kind ≠ .eq) ↔ before ≠ after := by
  obtain ⟨-, -, hkeep⟩ := Edit.changes_compact_script (lines before) (lines after)
  constructor
  · rintro ⟨span, hspan, hkind⟩ rfl
    obtain ⟨change, hchange, rfl⟩ := List.mem_map.mp hspan
    exact hkind ((kind_of_eq_iff change).mpr (hkeep.mpr rfl change hchange))
  · intro hne
    by_contra hnone
    refine hne (lines_injective (hkeep.mp fun change hchange => ?_))
    rw [← kind_of_eq_iff]
    by_contra hkind
    exact hnone ⟨_, List.mem_map_of_mem hchange, hkind⟩

/-- **A difference can be read back, and tells both texts.** It is a list of elements, and can be
read as no other one. The elements stand for changes of lines: those that are dropped or kept are
the lines of the old text, and those that are added or kept the lines of the new one, each with its
terminator, so that a kept line is the same in both. The elements of a side show its lines without
their terminators, and some line is dropped or added exactly if the texts differ. The lines are
those that the texts fall into, and scripts are made by cutting them alone. -/
theorem render_faithful (before after : Text) :
    let all := changes before after
    let spans := all.map Span.of
    render before after =
      "<pre class=\"diff\">".toList ++ spans.flatMap Span.write ++ "</pre>".toList ∧
    read? (render before after) = some spans ∧
    (∀ other : List Span, render before after =
      "<pre class=\"diff\">".toList ++ other.flatMap Span.write ++ "</pre>".toList →
        other = spans) ∧
    all.filterMap (Edit.Change.on .old) = lines before ∧
    all.filterMap (Edit.Change.on .new) = lines after ∧
    (spans.filter fun span => span.kind.isOn .old).map Span.text =
      (lines before).map Text.withoutTerminator ∧
    (spans.filter fun span => span.kind.isOn .new).map Span.text =
      (lines after).map Text.withoutTerminator ∧
    ((∃ span ∈ spans, span.kind ≠ .eq) ↔ before ≠ after) ∧
    (∀ text, (lines text).flatten = text ∧
      ∀ line ∈ lines text, ∃ ending ∈ lineEnds, line = line.withoutTerminator ++ ending) ∧
    ∀ old new : List Text, Edit.script old new = Edit.conquer Edit.script old new := by
  intro all spans
  have hrender : render before after = write spans := render_eq before after
  obtain ⟨hold, hnew, -⟩ := Edit.changes_compact_script (lines before) (lines after)
  refine ⟨hrender.trans (write_eq spans), ?_, fun other hother => ?_, hold, hnew, ?_, ?_,
    exists_edit_iff before after,
    fun text => ⟨flatten_lines text, fun line => withoutTerminator_of_mem_lines⟩, Edit.script_eq⟩
  · rw [hrender, read?_write]
  · rw [hrender, ← write_eq] at hother
    exact (write_injective hother).symm
  · rw [texts_on]
    exact congrArg _ hold
  · rw [texts_on]
    exact congrArg _ hnew

end LineDiff

end Tangle
