import Tangle.Proofs.Scope
import Tangle.Stencil.Evaluation

/-!
# Contexts

A scope goes through a history of operations: names are bound one by one, those of fragments are
bound together, and versions are set. What it answers afterwards depends on the last operation of
each kind, whatever came in between, and the context that templates see is a map of its own with two
names of which fragments can claim only one.

- `get?_apply` and `version_apply` say what one operation changes, `get?_after` and `version_after`
  what a history comes to.
- `Reflects` says what a context tells of bound contents and of a version, and every context does
  (`reflects_contextOf`).
-/

namespace Tangle

namespace Scope

/-! ## Histories -/

/-- What can be done to a scope. -/
inductive Operation where
  | bind (name content : Text)
  | merge (fragments : List Fragment)
  | setVersion (version : Nat)
  deriving Repr, DecidableEq

namespace Operation

/-- The scope that an operation leaves. -/
def apply (scope : Scope) : Operation → Scope
  | bind name content => scope.bind name content
  | merge fragments => scope.merge fragments
  | setVersion version => scope.setVersion version

/-- The names that an operation binds, with their contents, in order. -/
def bound : Operation → List (Text × Text)
  | bind name content => [(name, content)]
  | merge fragments => fragments.map fun f => (f.name, f.content)
  | setVersion _ => []

/-- The version that an operation sets. -/
def version? : Operation → Option Nat
  | setVersion version => some version
  | _ => none

end Operation

/-- The scope after a history. It begins with nothing bound and no version set. -/
def after (history : List Operation) : Scope := history.foldl Operation.apply empty

/-- All that a history binds, in order. -/
def boundIn (history : List Operation) : List (Text × Text) := history.flatMap Operation.bound

/-- The content of the last of some bindings that has a name. -/
def lastOf? (bindings : List (Text × Text)) (name : Text) : Option Text :=
  ((bindings.filter fun b => b.1 = name).getLast?).map (·.2)

/-- The version that a history sets last. -/
def lastVersion? (history : List Operation) : Option Nat :=
  (history.filterMap Operation.version?).getLast?

theorem lastOf?_append (first second : List (Text × Text)) (name : Text) :
    lastOf? (first ++ second) name = (lastOf? second name).or (lastOf? first name) := by
  simp [lastOf?, List.getLast?_append, Option.map_or]

/-- A name is found among bindings that have it, and only there. -/
theorem lastOf?_eq_none_iff {bindings : List (Text × Text)} {name : Text} :
    lastOf? bindings name = none ↔ name ∉ bindings.map Prod.fst := by
  rw [lastOf?, Option.map_eq_none_iff, List.getLast?_eq_none_iff, List.filter_eq_nil_iff]
  simp only [List.mem_map, not_exists, not_and, decide_eq_true_eq]

theorem merge_cons (scope : Scope) (f : Fragment) (more : List Fragment) :
    scope.merge (f :: more) = (scope.bind f.name f.content).merge more := rfl

theorem version_merge (scope : Scope) (fragments : List Fragment) :
    (scope.merge fragments).version = scope.version := by
  induction fragments generalizing scope with
  | nil => rfl
  | cons f more ih =>
    rw [merge_cons, ih]
    rfl

/-! ## Steps -/

section Steps

variable (scope : Scope) (operation : Operation)

/-- **Step.** After an operation a name has the last content that the operation binds to it, and if
there is none, the content that it had. -/
theorem get?_apply (name : Text) :
    (operation.apply scope).get? name =
      (lastOf? operation.bound name).or (scope.get? name) := by
  cases operation with
  | bind other content =>
    rw [Operation.apply, get?_bind, Operation.bound, lastOf?]
    by_cases h : other = name <;> simp [h]
  | merge fragments =>
    rw [Operation.apply, get?_merge, Operation.bound, lastOf?, List.filter_map, List.getLast?_map]
    simp [Function.comp_def]
  | setVersion version => simp [Operation.apply, Operation.bound, lastOf?]

theorem version_apply :
    (operation.apply scope).version = operation.version?.or scope.version := by
  cases operation with
  | bind name content => rfl
  | merge fragments => exact version_merge scope fragments
  | setVersion version => rfl

theorem ordered_apply (h : Ordered scope.bindings) :
    Ordered (operation.apply scope).bindings := by
  cases operation with
  | bind name content => exact h.insert name content
  | merge fragments => exact ordered_merge h fragments
  | setVersion version => exact h

end Steps

/-! ## Runs -/

section Runs

variable (history : List Operation)

/-- **Run.** After a history a name has the content of its last binding. -/
theorem get?_after (name : Text) : (after history).get? name = lastOf? (boundIn history) name := by
  -- a scope that a history begins with answers for names that the history does not bind
  have hfrom (scope : Scope) : (history.foldl Operation.apply scope).get? name =
      (lastOf? (boundIn history) name).or (scope.get? name) := by
    induction history generalizing scope with
    | nil => rfl
    | cons operation more ih =>
      have hbound : boundIn (operation :: more) = operation.bound ++ boundIn more := rfl
      rw [List.foldl_cons, ih, get?_apply, hbound, lastOf?_append, Option.or_assoc]
  rw [after, hfrom empty]
  exact Option.or_none

/-- **Run.** After a history the version is the one that was set last. -/
theorem version_after : (after history).version = lastVersion? history := by
  have hfrom (scope : Scope) : (history.foldl Operation.apply scope).version =
      (lastVersion? history).or scope.version := by
    induction history generalizing scope with
    | nil => rfl
    | cons operation more ih =>
      rw [List.foldl_cons, ih, version_apply, lastVersion?, lastVersion?, List.filterMap_cons]
      cases operation.version? with
      | none => rfl
      | some version => simp [List.getLast?_cons]
  rw [after, hfrom empty]
  exact Option.or_none

theorem ordered_after : Ordered (after history).bindings := by
  have hfrom {scope : Scope} (h : Ordered scope.bindings) :
      Ordered (history.foldl Operation.apply scope).bindings := by
    induction history generalizing scope with
    | nil => exact h
    | cons operation more ih => exact ih (ordered_apply scope operation h)
  exact hfrom List.Pairwise.nil

end Runs

end Scope

namespace Stencil

open Scope

/-! ## What contexts tell -/

/-- The value of the reserved name: a map that holds a map that holds the version. -/
def reserved (version : Option Nat) : Value :=
  .map [(.ofText "meta".toList, .map [(.ofText versionName, .ofNat? version)])]

/-- A context tells of contents that are bound to names and of a version. It is a map, in which the
reserved name has its value even if it is bound, and the version can be claimed. -/
structure Reflects (context : List (Text × Value)) (content? : Text → Option Text)
    (version : Option Nat) : Prop where
  nodup : (context.map Prod.fst).Nodup
  mem_names_iff : ∀ name, name ∈ context.map Prod.fst ↔
    (content? name).isSome ∨ name = versionName ∨ name = metaName
  meta_mem : (metaName, reserved version) ∈ context
  version_mem : (versionName, match content? versionName with
    | some content => .ofText content
    | none => .ofNat? version) ∈ context
  content_mem : ∀ name content, name ≠ metaName → content? name = some content →
    (name, .ofText content) ∈ context

theorem ordered_contextOf (scope : Scope) : Ordered (contextOf scope) := by
  have hshort : Ordered (Scope.insert versionName (Value.ofNat? scope.version) []) :=
    Ordered.insert List.Pairwise.nil _ _
  exact (hshort.insertAll _).insert _ _

/-- What is found in a context: the reserved name always has its own value, any other name has the
content that is bound to it, and the version is found where it is not bound. -/
theorem find?_contextOf (scope : Scope) (name : Text) :
    (contextOf scope).find? (fun b => b.1 = name) =
      if name = metaName then some (metaName, reserved scope.version)
      else ((scope.get? name).map fun content => (name, Value.ofText content)).or
        (if name = versionName then some (versionName, .ofNat? scope.version) else none) := by
  have hbound : ((scope.bindings.map fun b => (b.1, Value.ofText b.2)).find? fun b => b.1 = name) =
      (scope.get? name).map fun content => (name, Value.ofText content) := by
    rw [List.find?_map, Scope.get?, Option.map_map]
    refine Option.map_congr fun b hb => ?_
    have hname : b.1 = name := by simpa using List.find?_some hb
    rw [hname]
    rfl
  -- the names are put in one after another, and what is put in last is found first
  unfold contextOf
  dsimp only
  rw [find?_insert, find?_insertAll, hbound, find?_insert, List.find?_nil]
  simp only [eq_comm (a := metaName), eq_comm (a := versionName)]
  rfl

/-- **The context of a scope tells of its bindings and of its version.** -/
theorem reflects_contextOf (scope : Scope) :
    Reflects (contextOf scope) scope.get? scope.version where
  nodup := (ordered_contextOf scope).nodup_names
  mem_names_iff := by
    intro name
    have hfound : name ∈ (contextOf scope).map Prod.fst ↔
        ((contextOf scope).find? fun b => b.1 = name).isSome := by
      simp [List.find?_isSome]
    rw [hfound, find?_contextOf]
    by_cases hmeta : name = metaName
    · simp [hmeta]
    rw [if_neg hmeta]
    by_cases hversion : name = versionName
    · simp [hversion]
    · simp [hmeta, hversion]
  meta_mem := List.mem_of_find?_eq_some ((find?_contextOf scope metaName).trans (if_pos rfl))
  version_mem := by
    have hmeta : ¬ versionName = metaName := by decide
    have hfind := find?_contextOf scope versionName
    rw [if_neg hmeta, if_pos rfl] at hfind
    cases h : scope.get? versionName <;> rw [h] at hfind <;> exact List.mem_of_find?_eq_some hfind
  content_mem := by
    intro name content hname h
    have hfind := find?_contextOf scope name
    rw [if_neg hname, h] at hfind
    exact List.mem_of_find?_eq_some hfind

/-- **What scopes answer.** After any history a name has the content of its last binding, the bound
names are those that were ever bound, each of them once, the version is the one that was set last,
and the context tells of just that. -/
theorem answers_after (history : List Operation) :
    (∀ name, (after history).get? name = lastOf? (boundIn history) name) ∧
    (∀ name, (after history).get? name = none ↔ name ∉ (boundIn history).map Prod.fst) ∧
    ((after history).bindings.map Prod.fst).Nodup ∧
    (∀ name, name ∈ (after history).bindings.map Prod.fst ↔
      name ∈ (boundIn history).map Prod.fst) ∧
    (∀ name content, (name, content) ∈ (after history).bindings ↔
      lastOf? (boundIn history) name = some content) ∧
    (after history).version = lastVersion? history ∧
    Reflects (contextOf (after history)) (lastOf? (boundIn history)) (lastVersion? history) := by
  have hordered := ordered_after history
  have hget := get?_after history
  have hnone (name : Text) : (after history).get? name = none ↔
      name ∉ (boundIn history).map Prod.fst := by
    rw [hget, lastOf?_eq_none_iff]
  refine ⟨hget, hnone, hordered.nodup_names, ?_, ?_, version_after history, ?_⟩
  · intro name
    rw [← not_iff_not, notMem_names_iff, hnone]
  · intro name content
    rw [hordered.mem_iff, hget]
  · have hreflects := reflects_contextOf (after history)
    rwa [version_after, funext hget] at hreflects

/-- A fragment can claim the version, but not the reserved name. -/
example : contextOf (after [.setVersion 2, .bind metaName ['x'],
    .merge [⟨[['y', '\n']], versionName, [], 2, 1, []⟩], .setVersion 3]) =
      [(metaName, reserved (some 3)), (versionName, .ofText ['y', '\n'])] := rfl

end Stencil

end Tangle
