import Tangle.Proofs.History
import Tangle.Proofs.LineDiff
import Tangle.Proofs.PageTemplate

/-!
# The markup of a page

The page of a report has names and lines of documents in it, and none of them can become markup. A
page falls into marks, which are tags with the text behind them. Its marks are those of a fixed frame
that is repeated for every history, every step and every line: `write_pageMarks` says so for the
text, and `marks_write` reads the marks back. So the tags tell how many histories, steps and lines
there are and what became of each line, and nothing else. The names stand behind the tags of
headings, and can be read there.

## Layers

- **Markup**: how a text falls into marks, whoever has written it.
- **Elements**: the marks of a line, a step, a history and a page, each with its text.
- **Outlines**: what the tags of a page depend on.
-/

namespace Tangle

/-! ## Markup -/

namespace Markup

/-- A tag, and the text between it and the next one. -/
structure Mark where
  /-- What stands between the brackets of the tag. -/
  tag : Text
  behind : Text
  deriving Repr, DecidableEq

/-- A text without brackets. -/
def IsPlain (text : Text) : Prop := '<' ∉ text ∧ '>' ∉ text

instance (text : Text) : Decidable (IsPlain text) := inferInstanceAs (Decidable (_ ∧ _))

/-- A mark whose only brackets are those of its tag. -/
structure Mark.Plain (mark : Mark) : Prop where
  tag : IsPlain mark.tag
  behind : IsPlain mark.behind

instance (mark : Mark) : Decidable mark.Plain :=
  decidable_of_iff (IsPlain mark.tag ∧ IsPlain mark.behind)
    ⟨fun h => ⟨h.1, h.2⟩, fun h => ⟨h.tag, h.behind⟩⟩

/-- A mark as it stands in a page. -/
def Mark.write (mark : Mark) : Text := '<' :: (mark.tag ++ '>' :: mark.behind)

/-- Marks as they stand in a page. -/
def write (marks : List Mark) : Text := marks.flatMap Mark.write

/-- The mark that a part of a page holds, parts being divided by the brackets that open tags: its tag
goes up to the first bracket that closes one. -/
def mark? (part : Text) : Option Mark :=
  (part.splitFirst? '>').map fun (tag, behind) => ⟨tag, behind⟩

/-- The marks of a page: every bracket that opens a tag begins one, provided that the tag is closed
before the next one is opened. -/
def marks (page : Text) : List Mark := (Text.splitOn '<' page).tail.filterMap mark?

/-- The texts behind the tags of a kind. -/
def textsBehind (tag : Text) (marks : List Mark) : List Text :=
  marks.filterMap fun mark => if mark.tag = tag then some mark.behind else none

theorem textsBehind_append (tag : Text) (first second : List Mark) :
    textsBehind tag (first ++ second) = textsBehind tag first ++ textsBehind tag second :=
  List.filterMap_append

theorem textsBehind_flatMap {α : Type} (tag : Text) (all : List α) (f : α → List Mark) :
    textsBehind tag (all.flatMap f) = all.flatMap fun a => textsBehind tag (f a) :=
  List.filterMap_flatMap

theorem write_nil : write [] = [] := rfl

theorem write_append (first second : List Mark) :
    write (first ++ second) = write first ++ write second :=
  List.flatMap_append

theorem write_flatMap {α : Type} (all : List α) (f : α → List Mark) :
    write (all.flatMap f) = all.flatMap fun a => write (f a) :=
  List.flatMap_assoc

theorem write_cons (mark : Mark) (more : List Mark) :
    write (mark :: more) = '<' :: (mark.tag ++ '>' :: (mark.behind ++ write more)) := by
  simp only [write, List.flatMap_cons, Mark.write, List.cons_append, List.append_assoc]

theorem isPlain_append {first second : Text} (hfirst : IsPlain first) (hsecond : IsPlain second) :
    IsPlain (first ++ second) := by
  constructor
  · simp [hfirst.1, hsecond.1]
  · simp [hfirst.2, hsecond.2]

/-- Escaped text has no brackets, whatever it was before. -/
theorem isPlain_escaped (text : Text) : IsPlain (Text.escaped text) :=
  ⟨Text.notMem_escaped (by decide) (by decide) text,
    Text.notMem_escaped (by decide) (by decide) text⟩

theorem isPlain_ofNat (n : Nat) : IsPlain (Text.ofNat n) :=
  ⟨Text.notMem_ofNat (by decide) n, Text.notMem_ofNat (by decide) n⟩

/-- The brackets that open tags divide what is written into its marks. -/
theorem splitOn_write {all : List Mark} (h : ∀ mark ∈ all, mark.Plain) :
    Text.splitOn '<' (write all) =
      [] :: all.map fun mark => mark.tag ++ '>' :: mark.behind := by
  induction all with
  | nil => rfl
  | cons mark more ih =>
    obtain ⟨htag, hbehind⟩ := h mark List.mem_cons_self
    have hmore := ih fun m hm => h m (List.mem_cons_of_mem _ hm)
    have hnot : '<' ∉ mark.tag ++ '>' :: mark.behind := by
      simp [htag.1, hbehind.1]
    have hcut := Text.splitOn_append_of_notMem hnot hmore
    rw [List.append_nil, List.append_assoc, List.cons_append] at hcut
    rw [write_cons, Text.splitOn, if_pos rfl, hcut, List.map_cons]

/-- **Marks are read back** from what they are written to, and nothing besides them. -/
theorem marks_write {all : List Mark} (h : ∀ mark ∈ all, mark.Plain) : marks (write all) = all := by
  have hmark : ∀ mark ∈ all, mark? (mark.tag ++ '>' :: mark.behind) = some mark := by
    intro mark hmem
    rw [mark?, Text.splitFirst?_append (h mark hmem).tag.2, Option.map_some]
  rw [marks, splitOn_write h, List.tail_cons, List.filterMap_map]
  calc all.filterMap (mark? ∘ fun mark => mark.tag ++ '>' :: mark.behind)
    _ = all.filterMap some := List.filterMap_congr hmark
    _ = all := List.filterMap_some

end Markup

open Markup

/-! ## The elements of lines -/

namespace LineDiff

/-- The tag of an element tells what became of its line. -/
def Kind.tag : Kind → Text
  | .del => "span class=\"del\"".toList
  | .ins => "span class=\"ins\"".toList
  | .eq => "span class=\"eq\"".toList

/-- The sign before a line. -/
def Kind.sign : Kind → Char
  | .del => '-'
  | .ins => '+'
  | .eq => ' '

/-- The marks of an element. -/
def Span.marks (span : Span) : List Mark :=
  [⟨span.kind.tag, span.kind.sign :: ' ' :: Text.escaped span.text⟩, ⟨"/span".toList, []⟩]

theorem Span.write_marks (span : Span) : Markup.write span.marks = span.write := by
  obtain ⟨kind, text⟩ := span
  cases kind <;> rfl

theorem Span.plain {span : Span} : ∀ mark ∈ span.marks, mark.Plain := by
  intro mark hmark
  have htag : ∀ kind : Kind, IsPlain kind.tag := by
    intro kind
    cases kind <;> decide
  have hsign : ∀ kind : Kind, IsPlain [kind.sign, ' '] := by
    intro kind
    cases kind <;> decide
  rcases List.mem_pair.mp hmark with rfl | rfl
  · exact ⟨htag _, isPlain_append (hsign _) (isPlain_escaped span.text)⟩
  · constructor <;> decide

end LineDiff

namespace History

open LineDiff (Span Kind)

/-! ## The elements of a page -/

/-- The heading of a step, before it is escaped. -/
def heading (name : Text) (revision : Revision) : Text :=
  name ++ ": v".toList ++ Text.ofNat revision.fromVersion ++ " &rarr; v".toList ++
    Text.ofNat revision.toVersion

/-- The elements that the comparison of a step consists of. -/
def spans (revision : Revision) : List Span := (LineDiff.read? revision.comparison).getD []

/-- A step whose comparison is a line difference. -/
def Compared (revision : Revision) : Prop :=
  revision.comparison = LineDiff.write (spans revision)

/-- The marks of a step. -/
def revisionMarks (name : Text) (revision : Revision) : List Mark :=
  [⟨"div class=\"diff\"".toList, ['\n']⟩, ⟨"h3".toList, heading (Text.escaped name) revision⟩,
    ⟨"/h3".toList, ['\n']⟩, ⟨"pre class=\"diff\"".toList, []⟩] ++
    (spans revision).flatMap Span.marks ++ [⟨"/pre".toList, ['\n']⟩, ⟨"/div".toList, ['\n']⟩]

/-- The marks of a history. -/
def elementMarks (history : History) : List Mark :=
  [⟨"section class=\"block\"".toList, ['\n']⟩, ⟨"h2".toList, Text.escaped history.name⟩,
    ⟨"/h2".toList, ['\n']⟩] ++
    history.revisions.flatMap (revisionMarks history.name) ++ [⟨"/section".toList, ['\n']⟩]

/-- The marks that every page begins with. -/
def pageHead : List Mark :=
  [⟨"!DOCTYPE html".toList, ['\n']⟩, ⟨"html".toList, ['\n']⟩, ⟨"head".toList, ['\n']⟩,
    ⟨"meta charset=\"utf-8\"".toList, ['\n']⟩, ⟨"title".toList, "Code block history".toList⟩,
    ⟨"/title".toList, ['\n']⟩, ⟨"link rel=\"stylesheet\" href=\"diff.css\"".toList, ['\n']⟩,
    ⟨"/head".toList, ['\n']⟩, ⟨"body".toList, ['\n']⟩]

/-- The marks that every page ends with. -/
def pageFoot : List Mark := [⟨"/body".toList, ['\n']⟩, ⟨"/html".toList, ['\n']⟩]

/-- The marks of a page. -/
def pageMarks (report : List History) : List Mark :=
  pageHead ++ report.flatMap elementMarks ++ pageFoot

/-- Texts that each begin with a line feed can as well be read as texts that each end in one. -/
theorem cons_flatMap {α : Type} {all : List α} {f g : α → Text}
    (h : ∀ a ∈ all, '\n' :: g a = f a ++ ['\n']) (rest : Text) :
    '\n' :: (all.flatMap g ++ rest) = all.flatMap f ++ '\n' :: rest := by
  induction all with
  | nil => rfl
  | cons a more ih =>
    have hmore := ih fun b hb => h b (List.mem_cons_of_mem _ hb)
    calc '\n' :: ((a :: more).flatMap g ++ rest)
      _ = ('\n' :: g a) ++ (more.flatMap g ++ rest) := by
        rw [List.flatMap_cons, List.append_assoc, List.cons_append]
      _ = f a ++ '\n' :: (more.flatMap g ++ rest) := by
        rw [h a List.mem_cons_self, List.append_assoc, List.singleton_append]
      _ = (a :: more).flatMap f ++ '\n' :: rest := by
        rw [hmore, List.flatMap_cons, List.append_assoc]

theorem write_spans (all : List Span) :
    Markup.write (all.flatMap Span.marks) = all.flatMap Span.write := by
  induction all with
  | nil => rfl
  | cons span more ih =>
    rw [List.flatMap_cons, write_append, ih, Span.write_marks, List.flatMap_cons]

theorem write_revisionMarks (name : Text) {revision : Revision} (h : Compared revision) :
    '\n' :: Markup.write (revisionMarks name revision) =
      revisionElement name revision ++ ['\n'] := by
  have hcomparison : revision.comparison =
      "<pre class=\"diff\">".toList ++ (spans revision).flatMap Span.write ++ "</pre>".toList :=
    h.trans (LineDiff.write_eq _)
  unfold revisionElement revisionMarks heading
  rw [hcomparison, write_append, write_append, write_spans]
  simp [write_cons, write_nil]

theorem write_elementMarks {history : History}
    (h : ∀ revision ∈ history.revisions, Compared revision) :
    '\n' :: Markup.write (elementMarks history) = element history ++ ['\n'] := by
  have hrevisions := cons_flatMap fun revision hrevision =>
    write_revisionMarks history.name (h revision hrevision)
  unfold element elementMarks
  rw [write_append, write_append, write_flatMap]
  simp [write_cons, write_nil, hrevisions]

/-- **A page is written from its marks.** -/
theorem write_pageMarks {report : List History}
    (h : ∀ history ∈ report, ∀ revision ∈ history.revisions, Compared revision) :
    Markup.write (pageMarks report) = page report := by
  have helements := cons_flatMap fun history hhistory => write_elementMarks (h history hhistory)
  have hstylesheet : Text.escaped stylesheetName = "diff.css".toList := by decide
  unfold page pageMarks pageHead pageFoot
  rw [write_append, write_append, write_flatMap, hstylesheet]
  simp [write_cons, write_nil, helements]

/-- Names are escaped where they stand in a heading. -/
theorem isPlain_heading (name : Text) (revision : Revision) :
    IsPlain (heading (Text.escaped name) revision) := by
  apply isPlain_append _ (isPlain_ofNat _)
  apply isPlain_append _ (by decide)
  apply isPlain_append _ (isPlain_ofNat _)
  exact isPlain_append (isPlain_escaped name) (by decide)

theorem plain_revisionMarks (name : Text) (revision : Revision) :
    ∀ mark ∈ revisionMarks name revision, mark.Plain := by
  have htag : IsPlain "h3".toList := by decide
  intro mark hmark
  simp only [revisionMarks, List.cons_append, List.nil_append, List.mem_cons, List.mem_append,
    List.mem_flatMap, List.not_mem_nil, or_false] at hmark
  rcases hmark with rfl | rfl | rfl | rfl | ⟨span, -, hspan⟩ | rfl | rfl
  · decide
  · exact ⟨htag, isPlain_heading name revision⟩
  · decide
  · decide
  · exact Span.plain mark hspan
  · decide
  · decide

theorem plain_elementMarks (history : History) : ∀ mark ∈ elementMarks history, mark.Plain := by
  have htag : IsPlain "h2".toList := by decide
  intro mark hmark
  simp only [elementMarks, List.cons_append, List.nil_append, List.mem_cons, List.mem_append,
    List.mem_flatMap, List.not_mem_nil, or_false] at hmark
  rcases hmark with rfl | rfl | rfl | ⟨revision, -, hrevision⟩ | rfl
  · decide
  · exact ⟨htag, isPlain_escaped history.name⟩
  · decide
  · exact plain_revisionMarks _ _ mark hrevision
  · decide

/-- No bracket of a page stands outside of its tags. -/
theorem plain_pageMarks (report : List History) : ∀ mark ∈ pageMarks report, mark.Plain := by
  have hhead : ∀ mark ∈ pageHead, mark.Plain := by decide
  have hfoot : ∀ mark ∈ pageFoot, mark.Plain := by decide
  intro mark hmark
  simp only [pageMarks, List.mem_append, List.mem_flatMap] at hmark
  rcases hmark with (hmark | ⟨history, -, hmark⟩) | hmark
  · exact hhead mark hmark
  · exact plain_elementMarks history mark hmark
  · exact hfoot mark hmark

/-! ## Outlines -/

/-- What becomes of the lines at each step of each history. -/
abbrev Outline := List (List (List Kind))

/-- The outline of a report. -/
def outline (report : List History) : Outline :=
  report.map fun history => history.revisions.map fun revision => (spans revision).map Span.kind

/-- The tags of a step at which the lines become what is listed. -/
def revisionTags (kinds : List Kind) : List Text :=
  ["div class=\"diff\"".toList, "h3".toList, "/h3".toList, "pre class=\"diff\"".toList] ++
    kinds.flatMap (fun kind => [kind.tag, "/span".toList]) ++ ["/pre".toList, "/div".toList]

/-- The tags of a history with such steps. -/
def elementTags (steps : List (List Kind)) : List Text :=
  ["section class=\"block\"".toList, "h2".toList, "/h2".toList] ++ steps.flatMap revisionTags ++
    ["/section".toList]

/-- The tags of a page with an outline. -/
def pageTags (outline : Outline) : List Text :=
  ["!DOCTYPE html".toList, "html".toList, "head".toList, "meta charset=\"utf-8\"".toList,
    "title".toList, "/title".toList, "link rel=\"stylesheet\" href=\"diff.css\"".toList,
    "/head".toList, "body".toList] ++ outline.flatMap elementTags ++ ["/body".toList, "/html".toList]

theorem tags_revisionMarks (name : Text) (revision : Revision) :
    (revisionMarks name revision).map Mark.tag =
      revisionTags ((spans revision).map Span.kind) := by
  have hspans : ((spans revision).flatMap Span.marks).map Mark.tag =
      ((spans revision).map Span.kind).flatMap fun kind => [kind.tag, "/span".toList] := by
    rw [List.map_flatMap, List.flatMap_map]
    rfl
  rw [revisionMarks, List.map_append, List.map_append, hspans]
  rfl

theorem tags_elementMarks (history : History) :
    (elementMarks history).map Mark.tag =
      elementTags (history.revisions.map fun revision => (spans revision).map Span.kind) := by
  have hrevisions : (history.revisions.flatMap (revisionMarks history.name)).map Mark.tag =
      (history.revisions.map fun revision => (spans revision).map Span.kind).flatMap
        revisionTags := by
    rw [List.map_flatMap, List.flatMap_map]
    exact List.flatMap_congr fun revision _ => tags_revisionMarks history.name revision
  rw [elementMarks, List.map_append, List.map_append, hrevisions]
  rfl

/-- **The tags of a page are those of its outline.** -/
theorem tags_pageMarks (report : List History) :
    (pageMarks report).map Mark.tag = pageTags (outline report) := by
  have helements : (report.flatMap elementMarks).map Mark.tag =
      (outline report).flatMap elementTags := by
    rw [outline, List.map_flatMap, List.flatMap_map]
    exact List.flatMap_congr fun history _ => tags_elementMarks history
  rw [pageMarks, List.map_append, List.map_append, helements]
  rfl

/-! ## Headings -/

/-- No line is taken for a heading. -/
theorem textsBehind_spans {tag : Text} (h : tag ∈ ["h2".toList, "h3".toList]) (all : List Span) :
    textsBehind tag (all.flatMap Span.marks) = [] := by
  have htag : ∀ kind : Kind, kind.tag ∉ ["h2".toList, "h3".toList] := by
    intro kind
    cases kind <;> decide
  have hend : "/span".toList ∉ ["h2".toList, "h3".toList] := by decide
  rw [textsBehind, List.filterMap_eq_nil_iff]
  intro mark hmark
  obtain ⟨span, -, hspan⟩ := List.mem_flatMap.mp hmark
  rcases List.mem_pair.mp hspan with rfl | rfl
  · exact if_neg fun heq : span.kind.tag = tag => htag span.kind (heq ▸ h)
  · exact if_neg fun heq : "/span".toList = tag => hend (heq ▸ h)

theorem histories_revisionMarks (name : Text) (revision : Revision) :
    textsBehind "h2".toList (revisionMarks name revision) = [] := by
  rw [revisionMarks, textsBehind_append, textsBehind_append, textsBehind_spans (by decide)]
  rfl

theorem steps_revisionMarks (name : Text) (revision : Revision) :
    textsBehind "h3".toList (revisionMarks name revision) =
      [heading (Text.escaped name) revision] := by
  rw [revisionMarks, textsBehind_append, textsBehind_append, textsBehind_spans (by decide)]
  rfl

theorem histories_elementMarks (history : History) :
    textsBehind "h2".toList (elementMarks history) = [Text.escaped history.name] := by
  have hrevisions : textsBehind "h2".toList
      (history.revisions.flatMap (revisionMarks history.name)) = [] := by
    rw [textsBehind_flatMap, List.flatMap_eq_nil_iff]
    exact fun revision _ => histories_revisionMarks history.name revision
  rw [elementMarks, textsBehind_append, textsBehind_append, hrevisions]
  rfl

theorem steps_elementMarks (history : History) :
    textsBehind "h3".toList (elementMarks history) =
      history.revisions.map (heading (Text.escaped history.name)) := by
  have hrevisions : textsBehind "h3".toList
      (history.revisions.flatMap (revisionMarks history.name)) =
        history.revisions.map (heading (Text.escaped history.name)) := by
    rw [textsBehind_flatMap, List.map_eq_flatMap]
    exact List.flatMap_congr fun revision _ => steps_revisionMarks history.name revision
  rw [elementMarks, textsBehind_append, textsBehind_append, hrevisions]
  exact List.append_nil _

/-- The headings of a page that are larger are those of its histories. -/
theorem histories_pageMarks (report : List History) :
    textsBehind "h2".toList (pageMarks report) =
      report.map fun history => Text.escaped history.name := by
  have helements : textsBehind "h2".toList (report.flatMap elementMarks) =
      report.map fun history => Text.escaped history.name := by
    rw [textsBehind_flatMap, List.map_eq_flatMap]
    exact List.flatMap_congr fun history _ => histories_elementMarks history
  rw [pageMarks, textsBehind_append, textsBehind_append, helements]
  exact List.append_nil _

/-- The smaller ones are those of its steps. -/
theorem steps_pageMarks (report : List History) :
    textsBehind "h3".toList (pageMarks report) =
      report.flatMap fun history =>
        history.revisions.map (heading (Text.escaped history.name)) := by
  have helements : textsBehind "h3".toList (report.flatMap elementMarks) =
      report.flatMap fun history =>
        history.revisions.map (heading (Text.escaped history.name)) := by
    rw [textsBehind_flatMap]
    exact List.flatMap_congr fun history _ => steps_elementMarks history
  rw [pageMarks, textsBehind_append, textsBehind_append, helements]
  exact List.append_nil _

/-- A heading shows the name, and versions and an arrow behind it. -/
theorem unescaped_heading (name : Text) (revision : Revision) :
    Text.unescaped (heading (Text.escaped name) revision) = heading name revision := by
  have hdigits (n : Nat) : '&' ∉ Text.ofNat n := Text.notMem_ofNat (by decide) n
  -- the reference of the arrow stands for none of the characters that are escaped
  have harrow (rest : Text) : Text.unescaped (" &rarr; v".toList ++ rest) =
      " &rarr; v".toList ++ Text.unescaped rest := by
    simp [Text.unescaped]
  have hlast := Text.unescaped_append_of_notMem (hdigits revision.toVersion) []
  rw [List.append_nil] at hlast
  unfold heading
  rw [List.append_assoc, List.append_assoc, List.append_assoc, Text.unescaped_escaped_append,
    Text.unescaped_append_of_notMem (by decide), Text.unescaped_append_of_notMem (hdigits _),
    harrow, hlast]
  simp [Text.unescaped]

/-! ## The page of fragments -/

section Fragments

variable {fragments : List Fragment} {history : History}

/-- The comparisons in a report of line differences can be read back. -/
theorem compared_of_mem_report (h : history ∈ report LineDiff.render fragments) :
    ∀ revision ∈ history.revisions, Compared revision := by
  intro revision hrevision
  rw [report_eq] at h
  obtain ⟨name, -, rfl⟩ := List.mem_map.mp h
  rw [historyOf, revisionsOf, ← List.map_uncurry_zip_eq_zipWith] at hrevision
  obtain ⟨⟨f, g⟩, -, rfl⟩ := List.mem_map.mp hrevision
  have hrender : LineDiff.render f.content g.content = _ := LineDiff.render_eq _ _
  show LineDiff.render f.content g.content =
    LineDiff.write ((LineDiff.read? (LineDiff.render f.content g.content)).getD [])
  rw [hrender, LineDiff.read?_write, Option.getD_some]

/-- The names in a report are those of fragments. -/
theorem exists_of_mem_report {compare : Text → Text → Text}
    (h : history ∈ report compare fragments) : ∃ f ∈ fragments, f.name = history.name := by
  rw [report_eq] at h
  obtain ⟨name, hname, rfl⟩ := List.mem_map.mp h
  exact (mem_names_iff fragments).mp (List.mem_of_mem_filter hname)

end Fragments

/-- **Documents cannot put markup into a page.** The page of a report of line differences can be
rendered and consists of marks, and no bracket in it belongs to anything but their tags. The tags are those of the outline
of the report, which is how many histories there are, how many steps each of them has, and what
became of each line at each step. So two lists of fragments whose reports have the same outline give
the same tags, whatever their names and lines are. In the headings the names can be read as they
are, and they are names of fragments. -/
theorem markup_of_outline (fragments : List Fragment) :
    let histories := report LineDiff.render fragments
    let all := marks (page histories)
    page? histories = some (page histories) ∧
    (page histories = Markup.write all ∧ ∀ mark ∈ all, mark.Plain) ∧
    (∀ history ∈ histories, ∀ revision ∈ history.revisions, Compared revision) ∧
    all.map Mark.tag = pageTags (outline histories) ∧
    (∀ other : List Fragment, outline (report LineDiff.render other) = outline histories →
      (marks (page (report LineDiff.render other))).map Mark.tag = all.map Mark.tag) ∧
    (textsBehind "h2".toList all).map Text.unescaped = histories.map History.name ∧
    (textsBehind "h3".toList all).map Text.unescaped =
      histories.flatMap (fun history => history.revisions.map (heading history.name)) ∧
    ∀ history ∈ histories, ∃ f ∈ fragments, f.name = history.name := by
  intro histories all
  have hwrite (other : List Fragment) :
      Markup.write (pageMarks (report LineDiff.render other)) =
        page (report LineDiff.render other) :=
    write_pageMarks fun history hhistory => compared_of_mem_report hhistory
  have hmarks (other : List Fragment) :
      marks (page (report LineDiff.render other)) = pageMarks (report LineDiff.render other) := by
    rw [← hwrite, marks_write (plain_pageMarks _)]
  have hall : all = pageMarks histories := hmarks fragments
  refine ⟨page?_eq histories, ⟨?_, ?_⟩, fun history => compared_of_mem_report, ?_, ?_, ?_, ?_,
    fun history => exists_of_mem_report⟩
  · rw [hall]
    exact (hwrite fragments).symm
  · rw [hall]
    exact plain_pageMarks histories
  · rw [hall, tags_pageMarks]
  · intro other houtline
    rw [hall, hmarks, tags_pageMarks, tags_pageMarks, houtline]
  · rw [hall, histories_pageMarks, List.map_map]
    exact List.map_congr_left fun history _ => Text.unescaped_escaped history.name
  · rw [hall, steps_pageMarks, List.map_flatMap]
    refine List.flatMap_congr fun history _ => ?_
    rw [List.map_map]
    exact List.map_congr_left fun revision _ => unescaped_heading history.name revision

/-- Two versions of a fragment that has a tag for its first line. -/
def taggedVersions (name : Text) : List Fragment :=
  [⟨[['<', 'i', '>', '\n']], name, ['p'], 1, 1, ['b']⟩,
    ⟨[['&', '"']], name, ['p'], 2, 3, ['b']⟩]

/-- The tags of a page with one history, in which one step deletes a line and inserts another. -/
def taggedTags : List Text :=
  ["!DOCTYPE html", "html", "head", "meta charset=\"utf-8\"", "title", "/title",
    "link rel=\"stylesheet\" href=\"diff.css\"", "/head", "body", "section class=\"block\"",
    "h2", "/h2", "div class=\"diff\"", "h3", "/h3", "pre class=\"diff\"", "span class=\"del\"",
    "/span", "span class=\"ins\"", "/span", "/pre", "/div", "/section", "/body", "/html"].map
      String.toList

/-- A name that is a tag itself gives the same tags as a plain one, and is read back from the
headings. -/
theorem markup_of_outline_under_two_names :
    let tagged := report LineDiff.render (taggedVersions ['<', 'i', '>'])
    let plain := report LineDiff.render (taggedVersions ['n'])
    outline tagged = [[[.del, .ins]]] ∧ outline plain = outline tagged ∧
    (marks (page tagged)).map Mark.tag = taggedTags ∧
    (marks (page plain)).map Mark.tag = taggedTags ∧
    (textsBehind "h2".toList (marks (page tagged))).map Text.unescaped = [['<', 'i', '>']] ∧
    (textsBehind "h3".toList (marks (page tagged))).map Text.unescaped =
      ["<i>: v1 &rarr; v2".toList] := by
  intro tagged plain
  have hreport (name : Text) : report LineDiff.render (taggedVersions name) =
      [⟨name, [⟨1, 2, LineDiff.render ['<', 'i', '>', '\n'] ['&', '"']⟩]⟩] :=
    report_pair _ rfl Nat.one_lt_two
  -- the same lines are compared under both names
  have hchanges : LineDiff.changes ['<', 'i', '>', '\n'] ['&', '"'] =
      [.drop ['<', 'i', '>', '\n'], .add ['&', '"']] := by
    cbv
  have houtline (name : Text) :
      outline (report LineDiff.render (taggedVersions name)) = [[[.del, .ins]]] := by
    rw [hreport, LineDiff.render_eq, hchanges, outline, List.map_singleton, List.map_singleton,
      spans, LineDiff.read?_write]
    rfl
  obtain ⟨-, -, -, htags, hsame, hnames, hsteps, -⟩ :=
    markup_of_outline (taggedVersions ['<', 'i', '>'])
  have htagged : (marks (page tagged)).map Mark.tag = taggedTags := by
    rw [htags, houtline]
    decide
  refine ⟨houtline _, (houtline _).trans (houtline _).symm, htagged, ?_, ?_, ?_⟩
  · rw [← htagged]
    exact hsame _ ((houtline _).trans (houtline _).symm)
  · rw [hnames, hreport]
    rfl
  · rw [hsteps, hreport]
    rfl

end History

end Tangle
