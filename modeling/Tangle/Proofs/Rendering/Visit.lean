import Tangle.Proofs.Template
import Tangle.Rendering

/-!
# The visits of a rendering run

A rendering run is a tour: a list of visits, each of which renders one template at one version in a
scope. The tour is known before the run begins, since no outcome of a visit changes a later scope.
`renderFragments_eq_follow` takes a run apart into its tour, and `visitStep` says what one visit can
do.
-/

namespace Tangle

namespace Rendering

/-! ## Visits -/

/-- One stop of a rendering run: a template, a version, and the scope to render it in. -/
structure Visit where
  identifier : Text
  version : Nat
  scope : Scope
  deriving Repr, DecidableEq

/-- Renders the template of a visit. -/
def Visit.render (directory : TemplateDirectory) (renderer : Renderer) (visit : Visit) :
    Run Rendering :=
  renderOne directory renderer visit.version visit.identifier visit.scope

/-- What a visit does, from one world to another: it passes a template over that cannot be found,
ends the run and leaves the files alone, or writes one file. -/
inductive VisitStep (directory : TemplateDirectory) (renderer : Renderer) (visit : Visit)
    (world : World) : Except Fault Rendering → World → Prop where
  /-- The lookup yields no file, and what it reports is all that the visit yields. -/
  | passed {lookup : TemplateDirectory.Lookup} {after : World}
      (resolved : directory.resolve visit.identifier world = (.ok lookup, after))
      (absent : lookup.path = none)
      (kept : after.files = world.files ∧ after.here = world.here) :
      VisitStep directory renderer visit world
        (.ok { diagnostics := lookup.diagnostics.map (Diagnostic.during visit.version) }) after
  /-- A fault ends the run before a file is changed. -/
  | failed {fault : Fault} {after : World}
      (kept : after.files = world.files ∧ after.here = world.here) :
      VisitStep directory renderer visit world (.error fault) after
  /-- The source of the template is rendered in the scope of the visit, and the text is written with
  a line feed at its end. -/
  | wrote {lookup : TemplateDirectory.Lookup} {looked after : World} {path source text : Text}
      {file : TemplateFile}
      (resolved : directory.resolve visit.identifier world = (.ok lookup, looked))
      (present : lookup.path = some path)
      (named : TemplateFile.ofPath path directory.suffix = .ok file)
      (read : world.files.readText world.here file.path = .ok source)
      (rendered : renderer visit.identifier source visit.scope = some text)
      (written : world.files.writeText world.here (file.outputPath visit.version)
        (withFinalLineFeed text) = .ok after.files)
      (kept : after.here = world.here) :
      VisitStep directory renderer visit world
        (.ok {
          written := [⟨visit.identifier, visit.version, file.outputPath visit.version⟩]
          diagnostics := lookup.diagnostics.map (Diagnostic.during visit.version) }) after

/-- Every visit is such a step. -/
theorem visitStep (directory : TemplateDirectory) (renderer : Renderer) (visit : Visit)
    (world : World) :
    VisitStep directory renderer visit world (visit.render directory renderer world).1
      (visit.render directory renderer world).2 := by
  -- nothing but the last step of a visit changes the files: all others see those of `world`
  have hkeeps := TemplateDirectory.resolve_keepsFiles directory visit.identifier world
  unfold Visit.render renderOne
  rw [Run.bind_apply]
  cases hresolve : directory.resolve visit.identifier world with
  | mk result looked =>
    rw [hresolve] at hkeeps
    obtain ⟨hfiles, hhere⟩ := hkeeps
    cases result with
    | error fault => exact .failed ⟨hfiles, hhere⟩
    | ok lookup =>
      dsimp only
      cases hpath : lookup.path with
      | none => exact .passed hresolve hpath ⟨hfiles, hhere⟩
      | some path =>
        dsimp only
        rw [Run.bind_apply]
        unfold Run.ofExcept
        cases hnamed : TemplateFile.ofPath path directory.suffix with
        | error fault => exact .failed ⟨hfiles, hhere⟩
        | ok file =>
          dsimp only
          rw [Run.bind_apply]
          unfold Run.readText
          rw [hfiles, hhere]
          cases hread : world.files.readText world.here file.path with
          | error cause => exact .failed ⟨hfiles, hhere⟩
          | ok source =>
            dsimp only
            cases hrender : renderer visit.identifier source visit.scope with
            | none => exact .failed ⟨hfiles, hhere⟩
            | some text =>
              dsimp only
              rw [Run.bind_apply]
              unfold Run.writeText
              rw [hfiles, hhere]
              cases hwrite : world.files.writeText world.here (file.outputPath visit.version)
                  (withFinalLineFeed text) with
              | error cause => exact .failed ⟨hfiles, hhere⟩
              | ok files => exact .wrote hresolve hpath hnamed hread hrender hwrite rfl

/-! ## Tours -/

/-- The visits of `count` versions from `version` on. The scopes are advanced at each version, and
every identifier referenced so far is visited in its own scope. -/
def tourFrom (fragments : List Fragment) : Nat → Nat → Scopes → List Visit
  | 0, _, _ => []
  | count + 1, version, scopes =>
    let scopes := advance scopes (fragments.filter fun f => f.version = version) version
    scopes.map (fun entry => ⟨entry.1, version, entry.2⟩) ++
      tourFrom fragments count (version + 1) scopes

/-- The visits of the run that renders fragments, in order. -/
def tour (fragments : List Fragment) : List Visit :=
  match versionRange fragments with
  | none => []
  | some (least, greatest) => tourFrom fragments (greatest - least + 1) least []

/-- Makes the visits of a tour, one after another. -/
def follow (directory : TemplateDirectory) (renderer : Renderer) : List Visit → Run Rendering
  | [] => pure {}
  | visit :: more => do
    let first ← visit.render directory renderer
    let rest ← follow directory renderer more
    pure (first.append rest)

variable (directory : TemplateDirectory) (renderer : Renderer)

theorem append_assoc (a b c : Rendering) : (a.append b).append c = a.append (b.append c) := by
  simp only [append, List.append_assoc]

/-- A visit does not know the versions of the run it belongs to. -/
theorem versions_of_render {visit : Visit} {world after : World} {result : Rendering}
    (h : visit.render directory renderer world = (.ok result, after)) : result.versions = none := by
  have hstep := visitStep directory renderer visit world
  rw [h] at hstep
  cases hstep <;> rfl

theorem versions_of_follow {visits : List Visit} {world after : World} {result : Rendering}
    (h : follow directory renderer visits world = (.ok result, after)) :
    result.versions = none := by
  cases visits with
  | nil =>
    cases h
    rfl
  | cons visit more =>
    obtain ⟨first, between, hfirst, h⟩ := Run.ok_of_bind h
    obtain ⟨rest, last, -, h⟩ := Run.ok_of_bind h
    cases h
    show first.versions = none
    exact versions_of_render directory renderer hfirst

/-- A tour in two parts is the tour of the first part followed by that of the second. -/
theorem follow_append (first more : List Visit) :
    follow directory renderer (first ++ more) = (do
      let a ← follow directory renderer first
      let b ← follow directory renderer more
      pure (a.append b)) := by
  induction first with
  | nil =>
    funext world
    show follow directory renderer more world = _
    rw [follow, pure_bind, Run.bind_apply]
    cases h : follow directory renderer more world with
    | mk result after =>
      cases result with
      | error fault => rfl
      | ok b =>
        -- the result of no visit at all has no versions, and neither has any other
        have hversions := versions_of_follow directory renderer h
        show _ = (Except.ok (append {} b), after)
        rw [append, ← hversions]
        rfl
  | cons visit rest ih =>
    show (do
      let a ← visit.render directory renderer
      let b ← follow directory renderer (rest ++ more)
      pure (a.append b)) = _
    simp only [ih, follow, bind_assoc, pure_bind, append_assoc]

theorem renderScopes_eq_follow (version : Nat) (scopes : Scopes) :
    renderScopes directory renderer version scopes =
      follow directory renderer (scopes.map fun entry => ⟨entry.1, version, entry.2⟩) := by
  induction scopes with
  | nil => rfl
  | cons entry more ih =>
    rw [renderScopes, List.map_cons, follow, ih]
    rfl

theorem walk_eq_follow (fragments : List Fragment) (count version : Nat) (scopes : Scopes) :
    walk fragments directory renderer count version scopes =
      follow directory renderer (tourFrom fragments count version scopes) := by
  induction count generalizing version scopes with
  | zero => rfl
  | succ count ih =>
    rw [walk, tourFrom, follow_append]
    simp only [renderScopes_eq_follow, ih]

/-- The rendering run is its tour: whatever the world, both end in the same way, leave the same
world, and differ in nothing but that the run also tells the range of versions. -/
theorem renderFragments_eq_follow (fragments : List Fragment) :
    renderFragments fragments directory renderer = (do
      let result ← follow directory renderer (tour fragments)
      pure { result with versions := versionRange fragments }) := by
  unfold renderFragments tour
  cases versionRange fragments with
  | none => rfl
  | some range =>
    obtain ⟨least, greatest⟩ := range
    simp only [walk_eq_follow]

end Rendering

end Tangle
