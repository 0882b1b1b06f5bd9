import Tangle.Fragment

/-!
# Scopes

A scope is the namespace of one template identifier. It holds what the template sees: the contents
of code blocks, bound to their names, and the version that was set last. It lives as long as the
run: a name stays bound until it is bound again.
-/

namespace Tangle

/-- A template namespace: contents bound to names, which are in order, and the version set last. -/
structure Scope where
  bindings : List (Text × Text)
  version : Option Nat
  deriving Repr, DecidableEq

namespace Scope

/-- The scope in which nothing is bound and no version set. -/
def empty : Scope := ⟨[], none⟩

/-- Binds a name in a list of bindings that is ordered by name. -/
def insert {α : Type} (name : Text) (value : α) : List (Text × α) → List (Text × α)
  | [] => [(name, value)]
  | (other, bound) :: more =>
    if name = other then (name, value) :: more
    else if Text.precedes name other then (name, value) :: (other, bound) :: more
    else (other, bound) :: insert name value more

/-- Binds the names of a list, in which each of them has one binding, in such a list. -/
def insertAll {α : Type} (more bindings : List (Text × α)) : List (Text × α) :=
  more.foldr (fun binding bindings => insert binding.1 binding.2 bindings) bindings

/-- Binds a name to a content. -/
def bind (scope : Scope) (name content : Text) : Scope :=
  { scope with bindings := insert name content scope.bindings }

/-- Merges code blocks into a namespace: binds their names to their contents, in order. -/
def merge (scope : Scope) (fragments : List Fragment) : Scope :=
  fragments.foldl (fun scope f => scope.bind f.name f.content) scope

/-- Sets the version. -/
def setVersion (scope : Scope) (version : Nat) : Scope := { scope with version := some version }

/-- The content bound to a name. -/
def get? (scope : Scope) (name : Text) : Option Text :=
  (scope.bindings.find? fun binding => binding.1 = name).map (·.2)

end Scope

end Tangle
