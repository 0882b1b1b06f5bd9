import Tangle.Extraction

/-!
# Reports and results

Reading reports each problem where it is found, and yields it as well. The reports do not change
what is read, and they are the problems of the result in their order: in every monad, whatever is
done there with a report, reading is reporting the diagnostics of the result and then yielding the
result (`Reporting.extract_eq`, `Reporting.prune_eq`).
-/

namespace Tangle

/-! ## Results by cases -/

section Results

variable (excluded : Text → Bool) (file : Text) (number : Nat)

theorem readBody_eq (name template version : Text) (body : List Text) :
    readBody excluded file number name template version body =
      let kept := body.filter fun l => !excluded l
      let fragment (value : Nat) : Finding :=
        .fragment { lines := dedent kept, name, template, version := value, line := number, file }
      if kept.isEmpty then
        [.problem { problem := .emptyBlock, file := some file, line := some number }]
      else
        match readVersion? version with
        | some value => [fragment value]
        | none =>
          [.problem {
            problem := .nonNumericVersion version
            file := some file
            line := some number }, fragment 0] := by
  rw [readBody, Reporting.readBody]
  dsimp only
  split
  · rfl
  · cases readVersion? version <;> rfl

theorem readLines_nil : readLines excluded file number [] = [] := by
  rw [readLines, Reporting.readLines]
  rfl

theorem readLines_cons_eq (first : Text) (rest : List Text) :
    readLines excluded file number (first :: rest) =
      match Declaration.parse first with
      | none => readLines excluded file (number + 1) rest
      | some declaration =>
        match declaration.name, declaration.template, declaration.version with
        | none, none, none => readLines excluded file (number + 1) rest
        | some name, some template, some version =>
          let body := rest.takeWhile isBodyLine
          readBody excluded file number name template version body ++
            readLines excluded file (number + 1 + body.length) (rest.dropWhile isBodyLine)
        | name, template, version =>
          .problem {
            problem := .incompleteDeclaration name template version
            file := some file
            line := some number } :: readLines excluded file (number + 1) rest := by
  rw [readLines, Reporting.readLines]
  cases Declaration.parse first with
  | none => rfl
  | some declaration =>
    obtain ⟨lang, name, template, version⟩ := declaration
    cases name <;> cases template <;> cases version <;> rfl

theorem pruneAfter_nil (accepted : List Fragment) : pruneAfter accepted [] = ⟨accepted, []⟩ := rfl

theorem pruneAfter_cons_eq (accepted : List Fragment) (f : Fragment) (rest : List Fragment) :
    pruneAfter accepted (f :: rest) =
      match accepted.find? fun g => g.key = f.key with
      | some existing =>
        let pruned := pruneAfter accepted rest
        { pruned with
          diagnostics := {
            problem := .duplicateBlock existing f
            file := some f.file
            line := some f.line } :: pruned.diagnostics }
      | none => pruneAfter (accepted ++ [f]) rest := by
  rw [pruneAfter, Reporting.pruneAfter]
  cases accepted.find? fun g => g.key = f.key <;> rfl

end Results

/-! ## Reports on the way -/

namespace Reporting

variable {m : Type → Type} [Monad m] [LawfulMonad m] (report : Diagnostic → m Unit)

section Lines

/-- Reports the problems among findings, and then yields all of them. -/
def yielding (found : List Finding) : m (List Finding) := do
  (found.filterMap Finding.diagnostic?).forM report
  pure found

/-- A problem that is reported first is the first one of all. -/
theorem yielding_cons (d : Diagnostic) (more : List Finding) :
    yielding report (.problem d :: more) = (do
      let first ← problem report d
      let more ← yielding report more
      pure (first :: more)) := by
  simp [yielding, problem, Finding.diagnostic?]

theorem yielding_append (first more : List Finding) :
    yielding report (first ++ more) = (do
      let first ← yielding report first
      let more ← yielding report more
      pure (first ++ more)) := by
  simp [yielding, List.filterMap_append]

variable (excluded : Text → Bool) (file : Text)

theorem readBody_eq (number : Nat) (name template version : Text) (body : List Text) :
    readBody report excluded file number name template version body =
      yielding report (Tangle.readBody excluded file number name template version body) := by
  rw [Tangle.readBody_eq, readBody]
  dsimp only
  split
  · simp [yielding, problem, Finding.diagnostic?]
  · cases readVersion? version <;>
      simp [yielding, problem, Finding.diagnostic?, List.filterMap_cons]

/-- **Reading lines is reporting the problems among their findings.** -/
theorem readLines_eq (number : Nat) (lines : List Text) :
    readLines report excluded file number lines =
      yielding report (Tangle.readLines excluded file number lines) := by
  -- the cases are those of a line: no declaration, one for nothing, a complete one, any other
  induction number, lines using Tangle.Reporting.readLines.induct with
  | case1 number =>
    rw [readLines, readLines_nil]
    simp [yielding]
  | case2 number first rest hparse ih =>
    rw [readLines, readLines_cons_eq, hparse]
    exact ih
  | case3 number first rest declaration hparse hversion htemplate hname ih =>
    rw [readLines, readLines_cons_eq, hparse]
    simp only [hversion, htemplate, hname]
    exact ih
  | case4 number first rest declaration hparse name template version hversion htemplate hname body
      ih =>
    rw [readLines, readLines_cons_eq, hparse]
    simp only [hversion, htemplate, hname]
    rw [yielding_append, readBody_eq, ← ih]
  | case5 number first rest declaration hparse hsome hincomplete ih =>
    rw [readLines, readLines_cons_eq, hparse]
    obtain ⟨lang, name, template, version⟩ := declaration
    cases name <;> cases template <;> cases version
    case none.none.none => exact (hsome rfl rfl rfl).elim
    case some.some.some => exact (hincomplete _ _ _ rfl rfl rfl).elim
    all_goals
      rw [yielding_cons, ← ih]

/-- **Reading a document is reporting its diagnostics**, and then yielding what it holds. -/
theorem extract_eq (content : Text) :
    extract report excluded file content = (do
      (Tangle.extract excluded file content).diagnostics.forM report
      pure (Tangle.extract excluded file content)) := by
  rw [extract, readLines_eq, yielding, bind_assoc]
  simp only [pure_bind]
  rfl

end Lines

theorem pruneAfter_eq (accepted fragments : List Fragment) :
    pruneAfter report accepted fragments = (do
      (Tangle.pruneAfter accepted fragments).diagnostics.forM report
      pure (Tangle.pruneAfter accepted fragments)) := by
  induction fragments generalizing accepted with
  | nil => simp [pruneAfter, pruneAfter_nil]
  | cons f rest ih =>
    rw [pruneAfter, pruneAfter_cons_eq]
    cases accepted.find? fun g => g.key = f.key with
    | some existing => simp [ih]
    | none => exact ih (accepted ++ [f])

/-- **Leaving duplicates out is reporting them**, and then yielding the others. -/
theorem prune_eq (fragments : List Fragment) :
    prune report fragments = (do
      (Tangle.prune fragments).diagnostics.forM report
      pure (Tangle.prune fragments)) :=
  pruneAfter_eq report [] fragments

end Reporting

end Tangle
