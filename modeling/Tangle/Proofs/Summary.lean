import Tangle.Proofs.Log
import Tangle.Proofs.Settings

/-!
# Summaries

A command that shows lines ends with a summary, in which errors and warnings are counted apart. Its
numbers are those of the diagnostics that were raised while the command ran, whichever way the
command has taken, with one exception: a listing of documents that hold no fragment says so and
leaves out the summary.

- `Tells.count_eq` says that as many diagnostics of a severity were logged as result.
- `Accounts` says of lines that they count the diagnostics, `ShowsCounts` says it of the text that
  is shown, and `showsCounts_iff` that the two mean the same unless a line is broken by what it
  shows.
- `Command.Reported` says what a command has shown for what was raised. Each command has a lemma on
  this, and `Command.accounts_iff` is about whole runs of the program.
-/

namespace Tangle

/-! ## What is counted in the log -/

/-- The diagnostic that an event raises. -/
def Event.diagnostic? : Event → Option Diagnostic
  | .raised diagnostic => some diagnostic
  | _ => none

/-- The diagnostics that events raise. -/
def raisedIn (events : List Event) : List Diagnostic := events.filterMap Event.diagnostic?

/-- Whether a line of the log is of a severity. -/
def Severity.isAlert (severity : Severity) (line : Text) : Bool := severity.level.isPrefixOf line

theorem raisedIn_map_raised (diagnostics : List Diagnostic) :
    raisedIn (diagnostics.map .raised) = diagnostics := by
  induction diagnostics with
  | nil => rfl
  | cons d more ih => exact congrArg (d :: ·) ih

theorem Severity.isAlert_level (severity other : Severity) (text : Text) :
    severity.isAlert (other.level ++ text) = decide (other = severity) := by
  unfold Severity.isAlert Severity.level
  cases severity <;> cases other <;> simp [List.isPrefixOf]

theorem isAlert_of_severity {severity : Severity} {line : Text} (h : severity.isAlert line = true) :
    isAlert line = true := by
  unfold Severity.isAlert Severity.level at h
  unfold Tangle.isAlert
  cases severity with
  | warning => simp_all
  | error => simp_all

theorem Severity.isAlert_eq_false {line : Text} (h : Tangle.isAlert line = false)
    (severity : Severity) : severity.isAlert line = false := by
  by_contra hline
  rw [Bool.not_eq_false] at hline
  rw [isAlert_of_severity hline] at h
  cases h

/-- The diagnostics of a severity are as many as the lines that are logged for them. -/
theorem length_filter_alert (severity : Severity) (diagnostics : List Diagnostic) :
    ((diagnostics.map Diagnostic.alert).filter severity.isAlert).length =
      severity.count diagnostics := by
  rw [List.filter_map, List.length_map, Severity.count]
  congr 2
  funext d
  exact severity.isAlert_level d.severity _

theorem length_filter_lines (severity : Severity) (events : List Event) :
    ((events.map Event.line).filter severity.isAlert).length =
      severity.count (raisedIn events) := by
  induction events with
  | nil => rfl
  | cons event more ih =>
    cases event with
    | raised d =>
      have hraised : raisedIn (.raised d :: more) = d :: raisedIn more := rfl
      rw [hraised, List.map_cons, line_raised, List.filter_cons, severity.isAlert_level,
        Severity.count, List.filter_cons]
      by_cases h : d.severity = severity <;> simp [h, ih, Severity.count]
    | wrote shown =>
      have hline := severity.isAlert_eq_false (kind_wrote shown).1
      rw [List.map_cons, List.filter_cons_of_neg (by simp [hline]), ih]
      rfl
    | done =>
      have hline := severity.isAlert_eq_false (show isAlert (Event.line .done) = false by decide)
      rw [List.map_cons, List.filter_cons_of_neg (by simp [hline]), ih]
      rfl

/-- **The log counts what results.** Events raise as many diagnostics of a severity as there are
among those that they tell of. -/
theorem Tells.count_eq {events : List Event} {diagnostics : List Diagnostic} {shown : List Text}
    (h : Tells events diagnostics shown) (severity : Severity) :
    severity.count (raisedIn events) = severity.count diagnostics := by
  have halerts : (events.map Event.line).filter severity.isAlert =
      (diagnostics.map Diagnostic.alert).filter severity.isAlert := by
    rw [← h.alerts, List.filter_filter]
    apply List.filter_congr
    intro line _
    cases hline : severity.isAlert line with
    | true => simp [isAlert_of_severity hline]
    | false => simp
  rw [← length_filter_lines, halerts, length_filter_alert]

/-! ## What lines count -/

/-- The number of diagnostics of a severity that a line counts. -/
def Line.counted? (severity : Severity) : Line → Option Nat
  | .errorCount count => if severity = .error then some count else none
  | .warningCount count => if severity = .warning then some count else none
  | _ => none

/-- Lines account for diagnostics: those of each severity are counted in one line, and in none if
there are none. -/
def Accounts (shown : List Line) (diagnostics : List Diagnostic) : Prop :=
  ∀ severity : Severity, shown.filterMap (Line.counted? severity) =
    if severity.count diagnostics = 0 then [] else [severity.count diagnostics]

/-- There are two severities to be looked at. -/
instance Severity.decidableForall (p : Severity → Prop) [DecidablePred p] :
    Decidable (∀ severity, p severity) :=
  decidable_of_iff (p .warning ∧ p .error)
    ⟨fun h => fun | .warning => h.1 | .error => h.2, fun h => ⟨h .warning, h .error⟩⟩

instance (shown : List Line) (diagnostics : List Diagnostic) :
    Decidable (Accounts shown diagnostics) :=
  inferInstanceAs (Decidable (∀ _, _ = _))

theorem accounts_summary (diagnostics : List Diagnostic) :
    Accounts (summary diagnostics) diagnostics := by
  intro severity
  unfold summary
  cases severity <;> by_cases herrors : Severity.error.count diagnostics = 0 <;>
    by_cases hwarnings : Severity.warning.count diagnostics = 0 <;>
      simp [herrors, hwarnings, Line.counted?]

/-- To say that there is no fragment does not account for the warning about that. -/
theorem not_accounts_noFragments {diagnostics : List Diagnostic}
    (h : ∃ d ∈ diagnostics, d.problem = .noBlocks) :
    ¬ Accounts [.noFragments] diagnostics := by
  intro haccounts
  obtain ⟨d, hd, hproblem⟩ := h
  have hwarning : d ∈ diagnostics.filter fun d => d.severity = .warning := by
    rw [List.mem_filter, Diagnostic.severity, hproblem]
    exact ⟨hd, rfl⟩
  have hcount : Severity.warning.count diagnostics ≠ 0 := (List.length_pos_of_mem hwarning).ne'
  have hnone := haccounts .warning
  rw [if_neg hcount] at hnone
  cases hnone

namespace Accounts

variable {shown body : List Line} {diagnostics others : List Diagnostic}

/-- Lines that count nothing can stand in front. -/
theorem append (hbody : ∀ severity, ∀ line ∈ body, Line.counted? severity line = none)
    (h : Accounts shown diagnostics) : Accounts (body ++ shown) diagnostics := by
  intro severity
  rw [List.filterMap_append, List.filterMap_eq_nil_iff.mpr (hbody severity), List.nil_append]
  exact h severity

/-- Only the numbers of the diagnostics matter. -/
theorem congr (hcount : ∀ severity : Severity, severity.count others = severity.count diagnostics)
    (h : Accounts shown diagnostics) : Accounts shown others := by
  intro severity
  rw [hcount severity]
  exact h severity

end Accounts

/-- The summary of what a run yields accounts for what the run has raised, behind lines that count
nothing. -/
theorem Logged.exists_accounts {world after : World} {diagnostics : List Diagnostic}
    {written : List Text} {body : List Line} (h : Logged world after diagnostics written)
    (hbody : ∀ severity, ∀ line ∈ body, Line.counted? severity line = none) :
    ∃ events, after.log = world.log ++ events ∧
      Accounts (body ++ summary diagnostics) (raisedIn events) := by
  obtain ⟨events, hlog, htells⟩ := h
  have hsummary := (accounts_summary diagnostics).append hbody
  exact ⟨events, hlog, hsummary.congr htells.count_eq⟩

/-! ## What the shown text counts -/

/-- The noun for diagnostics of a severity. -/
def Severity.noun : Severity → Text
  | .warning => " warning".toList
  | .error => " error".toList

/-- The color of a count. -/
def Severity.emphasis : Severity → Emphasis
  | .warning => .yellow
  | .error => .red

/-- The text that counts diagnostics of a severity. -/
def Severity.countText (colored : Bool) (severity : Severity) (count : Nat) : Text :=
  emphasized colored severity.emphasis (Text.ofNat count ++ (severity.noun ++ "(s)".toList))

/-- What stands behind a count: in color, the code that ends it. -/
def countTail (colored : Bool) : Text := if colored then terminalCode ['3', '9'] else []

/-- What a count of diagnostics of a severity ends with. -/
def Severity.countEnding (colored : Bool) (severity : Severity) : Text :=
  severity.noun ++ "(s)".toList ++ countTail colored

/-- A text accounts for diagnostics: of its lines, a single one counts those of a severity and has
their number, and none does if there are none. -/
def ShowsCounts (colored : Bool) (output : Text) (diagnostics : List Diagnostic) : Prop :=
  ∀ severity : Severity,
    (Text.lines output).filter
        (fun line => Text.endsWith line (severity.countEnding colored ++ ['\n'])) =
      if severity.count diagnostics = 0 then []
      else [severity.countText colored (severity.count diagnostics) ++ ['\n']]

instance (colored : Bool) (output : Text) (diagnostics : List Diagnostic) :
    Decidable (ShowsCounts colored output diagnostics) :=
  inferInstanceAs (Decidable (∀ _, _ = _))

/-- The color of a count stands around it and is the same for all numbers. -/
theorem exists_emphasized (colored : Bool) (severity : Severity) :
    ∃ start, ∀ text, emphasized colored severity.emphasis text =
      start ++ text ++ countTail colored := by
  unfold emphasized countTail
  cases colored with
  | false => exact ⟨[], fun text => (List.append_nil text).symm⟩
  | true =>
    cases severity with
    | warning => exact ⟨terminalCode ['3', '3'], fun _ => rfl⟩
    | error => exact ⟨terminalCode ['3', '1'], fun _ => rfl⟩

theorem countText_injective (colored : Bool) (severity : Severity) :
    Function.Injective (severity.countText colored) := by
  intro m n h
  obtain ⟨start, hstart⟩ := exists_emphasized colored severity
  unfold Severity.countText at h
  rw [hstart, hstart] at h
  have hnumber := List.append_cancel_left (List.append_cancel_right h)
  exact Text.ofNat_injective (List.append_cancel_right hnumber)

/-! ### How lines end -/

theorem countEnding_plain (severity : Severity) :
    severity.countEnding false = severity.noun ++ ['('] ++ 's' :: [')'] := by
  cases severity <;> rfl

theorem countEnding_colored (severity : Severity) :
    severity.countEnding true = severity.noun ++ "(s)\x1B[39".toList ++ 'm' :: [] := by
  cases severity <;> rfl

theorem endsWith_noun (text : Text) (severity other : Severity) :
    Text.endsWith (text ++ other.noun) severity.noun = decide (other = severity) := by
  cases other <;> cases severity
  case warning.warning => exact Text.endsWith_iff.mpr (List.suffix_append _ _)
  case error.error => exact Text.endsWith_iff.mpr (List.suffix_append _ _)
  case warning.error =>
    have h := Text.endsWith_append_of_ne (text ++ " warnin".toList) " erro".toList []
      (show 'g' ≠ 'r' by decide)
    rwa [List.append_assoc] at h
  case error.warning =>
    have h := Text.endsWith_append_of_ne (text ++ " erro".toList) " warnin".toList []
      (show 'r' ≠ 'g' by decide)
    rwa [List.append_assoc] at h

/-- Counts of different severities end differently. -/
theorem endsWith_countText (colored : Bool) (severity other : Severity) (n : Nat) :
    Text.endsWith (other.countText colored n) (severity.countEnding colored) =
      decide (other = severity) := by
  obtain ⟨start, hstart⟩ := exists_emphasized colored other
  rw [Severity.countText, hstart, Severity.countEnding, Text.endsWith_append]
  rw [← List.append_assoc, ← List.append_assoc, Text.endsWith_append]
  exact endsWith_noun _ severity other

/-- What ends with a number does not end as a count does. -/
theorem endsWith_number (colored : Bool) (severity : Severity) (text : Text) (n : Nat) :
    Text.endsWith (text ++ Text.ofNat n) (severity.countEnding colored) = false := by
  rw [← List.append_nil (text ++ Text.ofNat n)]
  cases colored with
  | false =>
    rw [countEnding_plain, List.append_cons _ 's']
    exact Text.endsWith_ofNat_append _ _ [] (by decide) n
  | true =>
    rw [countEnding_colored]
    exact Text.endsWith_ofNat_append _ _ [] (by decide) n

/-- What ends with a parenthesis ends as a count does only if the rest ends as that of a count. -/
theorem endsWith_parenthesis (colored : Bool) (severity : Severity) {text : Text}
    (h : Text.endsWith text (severity.noun ++ ['('] ++ ['s']) = false) :
    Text.endsWith (text ++ [')']) (severity.countEnding colored) = false := by
  cases colored with
  | false =>
    rw [countEnding_plain, List.append_cons _ 's', Text.endsWith_append]
    exact h
  | true =>
    -- in color a count ends with the code behind it
    rw [countEnding_colored]
    exact Text.endsWith_append_of_ne _ _ [] (by decide)

/-- Only lines that count diagnostics of a severity end as these counts do. -/
theorem endsWith_text (colored : Bool) (severity : Severity) (line : Line) :
    Text.endsWith (line.text colored) (severity.countEnding colored) =
      (line.counted? severity).isSome := by
  unfold Line.text Line.counted?
  cases line with
  | blank => cases colored <;> cases severity <;> decide
  | noneWritten => cases colored <;> cases severity <;> decide
  | noFragments => cases colored <;> cases severity <;> decide
  | fragmentHeading => cases colored <;> cases severity <;> decide
  | writtenCount count least greatest => exact endsWith_number colored severity _ greatest
  | fragment f file =>
    dsimp only
    rw [List.append_cons _ ':']
    exact endsWith_number colored severity _ f.line
  | written path version =>
    dsimp only
    apply endsWith_parenthesis
    -- the version stands where the plural of a count would
    rw [← List.append_nil (_ ++ Text.ofNat version)]
    exact Text.endsWith_ofNat_append _ _ [] (by decide) version
  | published path revisions =>
    dsimp only
    rw [show " change(s))".toList = " change(s".toList ++ [')'] ++ [')'] from rfl,
      ← List.append_assoc, ← List.append_assoc]
    apply endsWith_parenthesis
    exact Text.endsWith_append_of_ne _ _ [] (by decide)
  | fragmentCount count =>
    dsimp only
    rw [show " block(s)".toList = " bloc".toList ++ 'k' :: ['(', 's'] ++ [')'] from rfl,
      ← List.append_assoc, ← List.append_assoc]
    apply endsWith_parenthesis
    -- the plural is that of a count, but the noun is another one
    cases severity with
    | warning =>
      exact Text.endsWith_append_of_ne _ " warnin".toList ['(', 's'] (show 'k' ≠ 'g' by decide)
    | error =>
      exact Text.endsWith_append_of_ne _ " erro".toList ['(', 's'] (show 'k' ≠ 'r' by decide)
  | errorCount count =>
    apply (endsWith_countText colored severity .error count).trans
    cases severity <;> rfl
  | warningCount count =>
    apply (endsWith_countText colored severity .warning count).trans
    cases severity <;> rfl

/-! ### From lines to the text -/

theorem text_of_counted {colored : Bool} {severity : Severity} {line : Line} {n : Nat}
    (h : line.counted? severity = some n) : line.text colored = severity.countText colored n := by
  cases line with
  | errorCount count =>
    simp only [Line.counted?, Option.ite_none_right_eq_some, Option.some.injEq] at h
    obtain ⟨rfl, rfl⟩ := h
    rfl
  | warningCount count =>
    simp only [Line.counted?, Option.ite_none_right_eq_some, Option.some.injEq] at h
    obtain ⟨rfl, rfl⟩ := h
    rfl
  | _ => cases h

/-- The texts that end as the counts of a severity do are those of the lines that count it. -/
theorem filter_endsWith (colored : Bool) (severity : Severity) (shown : List Line) :
    (shown.map fun line => line.text colored ++ ['\n']).filter
        (fun text => Text.endsWith text (severity.countEnding colored ++ ['\n'])) =
      (shown.filterMap (Line.counted? severity)).map
        fun n => severity.countText colored n ++ ['\n'] := by
  induction shown with
  | nil => rfl
  | cons line more ih =>
    rw [List.map_cons, List.filter_cons, Text.endsWith_append, endsWith_text, ih]
    cases hcounted : line.counted? severity with
    | none =>
      rw [List.filterMap_cons_none hcounted]
      rfl
    | some n =>
      rw [List.filterMap_cons_some hcounted, List.map_cons, text_of_counted hcounted]
      rfl

/-- Lines that no line feed breaks are the lines of the text that they make up. -/
theorem lines_text {colored : Bool} {shown : List Line}
    (unbroken : ∀ line ∈ shown, '\n' ∉ line.text colored) :
    Text.lines ((Output.lines shown).text colored) =
      shown.map fun line => line.text colored ++ ['\n'] := by
  unfold Output.text
  dsimp only
  rw [List.flatMap_def]
  apply Text.lines_flatten
  intro text htext
  obtain ⟨line, hline, rfl⟩ := List.mem_map.mp htext
  exact ⟨line.text colored, unbroken line hline, rfl⟩

/-- Unless a line is broken, a text accounts for diagnostics as its lines do. -/
theorem showsCounts_iff {colored : Bool} {shown : List Line}
    (unbroken : ∀ line ∈ shown, '\n' ∉ line.text colored) (diagnostics : List Diagnostic) :
    ShowsCounts colored ((Output.lines shown).text colored) diagnostics ↔
      Accounts shown diagnostics := by
  apply forall_congr'
  intro severity
  -- a count can be read back from its text
  have hinjective : Function.Injective fun n => severity.countText colored n ++ ['\n'] :=
    fun m n h => countText_injective colored severity (List.append_cancel_right h)
  rw [lines_text unbroken, filter_endsWith,
    ← (List.map_injective_iff.mpr hinjective).eq_iff (a := shown.filterMap _)]
  split_ifs <;> rfl

/-! ## What commands show -/

/-- The lines of an output, if it consists of lines. -/
def Output.lines? : Output → Option (List Line)
  | .lines shown => some shown
  | .json _ => none

namespace Command

/-- Whether a command shows lines: all do that have not been asked for JSON. -/
def showsLines : Command → Bool
  | .render _ _ _ .json => false
  | _ => true

/-- A command is left without a summary if it is a listing, and it has been raised that the
documents hold no fragment. -/
def LacksSummary (command : Command) (raised : List Diagnostic) : Prop :=
  (∃ documents file, command = .list documents file) ∧ ∃ d ∈ raised, d.problem = .noBlocks

/-- The lines that a command has shown account for what was raised meanwhile, unless the command is
left without a summary. -/
def Reported (command : Command) (world after : World) (output : Output) : Prop :=
  ∃ shown events, output = .lines shown ∧ after.log = world.log ++ events ∧
    (Accounts shown (raisedIn events) ↔ ¬ command.LacksSummary (raisedIn events))

variable {documents : List Text} {file : Option Text} {renderer : Renderer} {world after : World}
  {output : Output}

theorem reported_of_logged {command : Command} {body : List Line} {diagnostics : List Diagnostic}
    {written : List Text} (hother : ∀ documents file, command ≠ .list documents file)
    (hbody : ∀ severity, ∀ line ∈ body, Line.counted? severity line = none)
    (h : Logged world after diagnostics written) :
    Reported command world after (.lines (body ++ summary diagnostics)) := by
  obtain ⟨events, hlog, haccounts⟩ := h.exists_accounts hbody
  refine ⟨_, events, rfl, hlog, iff_of_true haccounts ?_⟩
  rintro ⟨⟨documents, file, hlist⟩, -⟩
  exact hother documents file hlist

theorem reported_of_render {templates : Text}
    (h : (Command.render documents templates file .text).run renderer world = (.ok output, after)) :
    Reported (.render documents templates file .text) world after output := by
  obtain ⟨settings, chosen, hsettings, h⟩ := Run.ok_of_bind h
  obtain ⟨rendering, rendered, hrendering, h⟩ := Run.ok_of_bind h
  cases h
  obtain rfl := Settings.of_choose_eq_ok hsettings
  have hlogged := Rendering.logged_of_renderDocuments hrendering
  apply reported_of_logged (fun _ _ => Command.noConfusion) ?_ hlogged
  -- in front of the summary there are the written files and, unless nothing was to be rendered,
  -- their number
  intro severity line hline
  rcases List.mem_append.mp hline with hfiles | hnumber
  · split_ifs at hfiles with hnone
    · rw [List.mem_singleton.mp hfiles]
      rfl
    · obtain ⟨entry, -, rfl⟩ := List.mem_map.mp hfiles
      rfl
  · cases hversions : rendering.versions with
    | none =>
      rw [hversions] at hnumber
      cases hnumber
    | some versions =>
      rw [hversions] at hnumber
      simp only [List.mem_cons, List.not_mem_nil, or_false] at hnumber
      rcases hnumber with rfl | rfl <;> rfl

theorem reported_of_diff {directory : Text}
    (h : (Command.diff documents directory).run renderer world = (.ok output, after)) :
    Reported (.diff documents directory) world after output := by
  obtain ⟨publication, published, hpublication, h⟩ := Run.ok_of_bind h
  cases h
  have hlogged := Publication.logged_of_publishDocuments hpublication
  change Reported _ world _ (.lines ([.published _ _] ++ summary publication.diagnostics))
  apply reported_of_logged (fun _ _ => Command.noConfusion) ?_ hlogged
  intro severity line hline
  rw [List.mem_singleton.mp hline]
  rfl

/-- What a listing reads its fragments from: the log grows by the diagnostics that result, and a
missing fragment is among them exactly when there is none. -/
theorem of_extractDocuments_eq_ok {settings : Settings} {extraction : Extraction}
    (h : extractDocuments documents settings world = (.ok extraction, after)) :
    after.log = world.log ++ extraction.diagnostics.map .raised ∧
      ((∃ d ∈ extraction.diagnostics, d.problem = .noBlocks) ↔ extraction.fragments = []) := by
  obtain ⟨paths, resolved, hpaths, h⟩ := Run.ok_of_bind h
  obtain ⟨filter, filtered, hfilter, hextract⟩ := Run.ok_of_bind h
  obtain ⟨-, rfl⟩ := Documents.of_resolveAll_eq_ok hpaths
  rw [Settings.filter_apply] at hfilter
  obtain ⟨-, rfl⟩ := Prod.mk.inj hfilter
  obtain ⟨_, -, hinvariant⟩ := Documents.invariant_of_extract hextract
  obtain ⟨-, -, -, -, rfl⟩ := Documents.of_extract_eq_ok hextract
  exact ⟨rfl, hinvariant.absence⟩

theorem reported_of_list
    (h : (Command.list documents file).run renderer world = (.ok output, after)) :
    Reported (.list documents file) world after output := by
  obtain ⟨settings, chosen, hsettings, h⟩ := Run.ok_of_bind h
  obtain ⟨extraction, extracted, hextraction, h⟩ := Run.ok_of_bind h
  cases h
  obtain rfl := Settings.of_choose_eq_ok hsettings
  obtain ⟨hlog, habsence⟩ := of_extractDocuments_eq_ok hextraction
  refine ⟨_, _, rfl, hlog, ?_⟩
  rw [raisedIn_map_raised]
  unfold Extraction.lines
  by_cases hempty : extraction.fragments = []
  · -- one line says that there is no fragment, and the summary with its warning is left out
    have hraised := habsence.mpr hempty
    rw [hempty, List.isEmpty_nil, if_pos rfl]
    apply iff_of_false (not_accounts_noFragments hraised)
    exact not_not_intro ⟨⟨documents, file, rfl⟩, hraised⟩
  · rw [if_neg (mt List.isEmpty_iff.mp hempty)]
    refine iff_of_true ((accounts_summary _).append ?_) ?_
    · intro severity line hline
      simp only [List.mem_append, List.mem_cons, List.mem_map, List.not_mem_nil, or_false] at hline
      obtain (rfl | ⟨f, -, rfl⟩) | rfl | rfl := hline <;> rfl
    · rintro ⟨-, hraised⟩
      exact hempty (habsence.mp hraised)

theorem reported_of_run {command : Command} (hlines : command.showsLines = true)
    (h : command.run renderer world = (.ok output, after)) :
    Reported command world after output := by
  cases command with
  | render documents templates file format =>
    cases format with
    | text => exact reported_of_render h
    | json => cases hlines
  | diff documents directory => exact reported_of_diff h
  | list documents file => exact reported_of_list h

/-- **Which runs account for what they raise.** A command that shows lines and ends with status zero
has counted all that was raised meanwhile and nothing else, unless it is a listing and it was raised
that the documents hold no fragment: such a listing does not account for this. The same can be seen
in the shown text, as long as no path or name breaks a line of it. How templates are rendered has
no part in this. -/
theorem accounts_iff {arguments names : List Text} {invocation : Invocation} {ending : Ending}
    (asked : ofArguments arguments = .ok invocation)
    (plain : invocation.command.showsLines = true)
    (ended : execute renderer arguments names world = (ending, after)) (well : ending.status = 0) :
    ∃ shown,
      invocation.command.run renderer { world with log := [] } = (.ok (.lines shown), after) ∧
      ending.output = (Output.lines shown).text (isColored invocation.switches names) ∧
      (Accounts shown (raisedIn after.log) ↔
        ¬ invocation.command.LacksSummary (raisedIn after.log)) ∧
      ((∀ line ∈ shown, '\n' ∉ line.text (isColored invocation.switches names)) →
        (ShowsCounts (isColored invocation.switches names) ending.output (raisedIn after.log) ↔
          ¬ invocation.command.LacksSummary (raisedIn after.log))) := by
  unfold execute at ended
  rw [asked] at ended
  dsimp only [ExceptT.run] at ended
  cases hrun : invocation.command.run renderer { world with log := [] } with
  | mk outcome last =>
    rw [hrun] at ended
    cases outcome with
    | error fault =>
      -- a fault ends with another status
      cases ended
      cases well
    | ok output =>
      cases ended
      obtain ⟨shown, events, rfl, hlog, haccounts⟩ := reported_of_run plain hrun
      obtain rfl : after.log = events := hlog
      refine ⟨shown, rfl, rfl, haccounts, ?_⟩
      intro unbroken
      exact (showsCounts_iff unbroken _).trans haccounts

/-- Asks for a report on the document `b` in the directory `d`. -/
def reportArguments : List Text := ["diff".toList, ['b'], "-o".toList, ['d']]

/-- A report on a document with an incomplete declaration counts the warning about that. -/
theorem accounts_iff_at_incomplete_declaration :
    ∃ ending after,
      execute Stencil.renderer reportArguments ["NO_COLOR".toList] reportedWorld =
        (ending, after) ∧
      ending.status = 0 ∧
      ending.output = "wrote d/index.html (0 change(s))\n1 warning(s)\n".toList ∧
      ShowsCounts false ending.output (raisedIn after.log) := by
  obtain ⟨ending, after, hended⟩ : ∃ ending after,
      execute Stencil.renderer reportArguments ["NO_COLOR".toList] reportedWorld =
        (ending, after) := ⟨_, _, rfl⟩
  have hasked : ofArguments reportArguments = .ok ⟨.diff [['b']] ['d'], []⟩ := by decide +kernel
  have hwell : ending.status = 0 := by
    rw [← show _ = ending from congrArg Prod.fst hended]
    decide +kernel
  obtain ⟨shown, hrun, houtput, -, hshows⟩ := accounts_iff hasked rfl hended hwell
  -- the two lines that are shown can be computed
  have hshown :
      ((Command.diff [['b']] ['d']).run Stencil.renderer reportedWorld).1.map Output.lines? =
        .ok (some [.published "d/index.html".toList 0, .warningCount 1]) := by
    decide +kernel
  rw [show (Command.diff [['b']] ['d']).run Stencil.renderer reportedWorld =
    (.ok (.lines shown), after) from hrun] at hshown
  obtain rfl := Option.some.inj (Except.ok.inj hshown)
  refine ⟨ending, after, hended, hwell, houtput.trans (by decide), ?_⟩
  apply (hshows (by decide)).mpr
  rintro ⟨⟨documents, file, hlist⟩, -⟩
  cases hlist

/-- Prose without a fragment, beside a directory for reports. -/
def proseWorld : World where
  files := ⟨[([['b']], .file (.text "# Just prose\n".toList)), ([['d']], .directory)]⟩
  here := []

/-- A listing of prose looks clean, although the same is raised as for a report on it, which shows a
warning. -/
theorem not_showsCounts_for_prose :
    let listed := execute Stencil.renderer ["list".toList, ['b']] ["NO_COLOR".toList] proseWorld
    let reported := execute Stencil.renderer reportArguments ["NO_COLOR".toList] proseWorld
    listed.1.status = 0 ∧ reported.1.status = 0 ∧
      raisedIn listed.2.log = [{ problem := .noBlocks }] ∧
      raisedIn reported.2.log = [{ problem := .noBlocks }] ∧
      listed.1.output = "No code blocks found.\n".toList ∧
      reported.1.output = "wrote d/index.html (0 change(s))\n1 warning(s)\n".toList ∧
      ¬ ShowsCounts false listed.1.output (raisedIn listed.2.log) ∧
      ShowsCounts false reported.1.output (raisedIn reported.2.log) := by
  decide +kernel

end Command

end Tangle
