import Tangle.Proofs.Publication
import Tangle.Proofs.Rendering.Faults
import Tangle.Proofs.Rendering.Versions

/-!
# The files after a fault

A run that ends with a fault leaves the files in a state that is known, and that depends on where
the fault arose: before anything was written, at a visit of a rendering run, or at one of the two
files of a report.
-/

namespace Tangle

/-- **The files after a fault.** A rendering run that ends with a fault has either found something
wrong with its documents, its directory or its filter, and then every file is as it was. Or nothing
is wrong with these, and the fault is that of one visit of its tour: the files are those that the
visits before it have left, each of which has written its whole output or has found no template, and
neither this visit nor any later one has written anything. A publication that ends with a fault has
likewise found something wrong and changed no file, or it has failed at one of its two files, the
page being the second. -/
theorem files_after_fault (documents : List Text) (world : World) :
    (∀ root settings renderer fault after,
      renderDocuments documents root settings renderer world = (.error fault, after) →
      (Rendering.SetupFault documents root settings world fault ∧ after.files = world.files) ∨
        (∀ other, ¬ Rendering.SetupFault documents root settings world other) ∧
          ∃ extraction made visit left,
            (Command.extractDocuments documents settings world).1 = .ok extraction ∧
            Rendering.tour extraction.fragments = made ++ visit :: left ∧
            Rendering.Completed ⟨root, settings.suffix⟩ renderer world.here made world.files
              after.files ∧
            Rendering.VisitFault ⟨root, settings.suffix⟩ renderer visit after.files world.here
              fault) ∧
    ∀ directory compare fault after,
      publishDocuments documents directory compare world = (.error fault, after) →
      (Publication.SetupFault documents directory world fault ∧ after.files = world.files) ∨
        (∀ other, ¬ Publication.SetupFault documents directory world other) ∧
          ∃ report,
            Publication.WriteFault directory report world.here world.files after.files fault := by
  constructor
  · intro root settings renderer fault after h
    exact Rendering.fault_of_renderDocuments h
  · intro directory compare fault after h
    exact Publication.fault_of_publishDocuments h

/-- The document `b`, with a fragment for the templates of `p` and a later one for `x.j`. -/
def misnamedText : Text :=
  ("\x7blang='x' name='n' template='p' ver='1'\x7d\n  x\n" ++
    "\x7blang='x' name='m' template='x.j' ver='2'\x7d\n  y\n").toList

/-- The document beside a directory with a template, a file whose name lacks the extension of an
output, and a directory in the place of the page. -/
def misnamedWorld : World where
  files := ⟨[([['b']], .file (.text misnamedText)), ([['d']], .directory),
    ([['d'], ['p', '.', 'c', '.', 'j']], .file (.text ['s'])),
    ([['d'], ['x', '.', 'j']], .file (.text ['s'])),
    ([['d'], History.pageName], .directory)]⟩
  here := []

open Rendering in
/-- The run fails at its last visit, after the template has been rendered at both versions, and the
publication fails at its page, after the stylesheet has been written. -/
theorem files_after_fault_at_misnamed_template :
    (∃ after,
      renderDocuments [['b']] ['d'] shortSettings showScope misnamedWorld =
        (.error (.invalidTemplateExtension ['d', '/', 'x', '.', 'j'] ['j']), after) ∧
      after.files.isFile [] ['d', '/', 'p', '-', '2', '.', 'c'] = true ∧
      ∃ extraction made visit left,
        (Command.extractDocuments [['b']] shortSettings misnamedWorld).1 = .ok extraction ∧
        tour extraction.fragments = made ++ visit :: left ∧
        Completed ⟨['d'], ['j']⟩ showScope [] made misnamedWorld.files after.files ∧
        VisitFault ⟨['d'], ['j']⟩ showScope visit after.files []
          (.invalidTemplateExtension ['d', '/', 'x', '.', 'j'] ['j'])) ∧
    ∃ after,
      publishDocuments [['b']] ['d'] (fun _ new => new) misnamedWorld =
        (.error (.io .isADirectory), after) ∧
      after.files.isFile [] (Path.join ['d'] History.stylesheetName) = true ∧
      ∃ report,
        Publication.WriteFault ['d'] report [] misnamedWorld.files after.files
          (.io .isADirectory) := by
  obtain ⟨hrendering, hpublishing⟩ := files_after_fault [['b']] misnamedWorld
  constructor
  · have hrun : (renderDocuments [['b']] ['d'] shortSettings showScope misnamedWorld).1 =
        .error (.invalidTemplateExtension ['d', '/', 'x', '.', 'j'] ['j']) := by
      decide +kernel
    have hthere : (renderDocuments [['b']] ['d'] shortSettings showScope
        misnamedWorld).2.files.isFile [] ['d', '/', 'p', '-', '2', '.', 'c'] = true := by
      decide +kernel
    have h := Prod.ext (y := (_, (renderDocuments [['b']] ['d'] shortSettings showScope
      misnamedWorld).2)) hrun rfl
    refine ⟨_, h, hthere, ?_⟩
    rcases hrendering _ _ _ _ _ h with ⟨hsetup, -⟩ | ⟨-, hvisit⟩
    · -- no preparation ends with the fault of a visit
      cases hsetup with
      | document faulty => cases faulty
    · exact hvisit
  · have hrun : (publishDocuments [['b']] ['d'] (fun _ new => new) misnamedWorld).1 =
        .error (.io .isADirectory) := by
      decide +kernel
    have hthere : (publishDocuments [['b']] ['d'] (fun _ new => new)
        misnamedWorld).2.files.isFile [] (Path.join ['d'] History.stylesheetName) = true := by
      decide +kernel
    have h := Prod.ext (y := (_, (publishDocuments [['b']] ['d'] (fun _ new => new)
      misnamedWorld).2)) hrun rfl
    refine ⟨_, h, hthere, ?_⟩
    rcases hpublishing _ _ _ _ h with ⟨-, hsame⟩ | ⟨-, hwrite⟩
    · -- the stylesheet was not there before
      rw [hsame] at hthere
      exact absurd hthere (by decide +kernel)
    · exact hwrite

end Tangle
