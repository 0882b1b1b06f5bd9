import Tangle.Text

/-!
# Values of a settings file

What a settings file says, as nested tables of values. A table remembers how it came to be, for this
decides what may still be added to it:

* a header opens a table once, also one that was only on the way to another header's table;
* a dotted key makes tables on its way, and only further dotted keys add to them;
* an inline table is complete where it stands.
-/

namespace Tangle.Toml

/-- How a table came to be. -/
inductive Origin where
  /-- It lies on the way to the table of a header. -/
  | implied
  | header
  /-- It lies on the way of a dotted key. -/
  | dotted
  | inline
  deriving Repr, DecidableEq

/-- A value. -/
inductive Value where
  | string (text : Text)
  | integer (value : Int)
  | float (spelling : Text)
  | boolean (value : Bool)
  /-- A date, a time of day, or both. -/
  | moment (spelling : Text)
  | array (items : List Value)
  | table (origin : Origin) (entries : List (Text × Value))
  /-- The tables of headers in double brackets, the last one first. -/
  | tables (items : List (List (Text × Value)))
  deriving Repr

/-- The entries of a table, in the order in which they were made. -/
abbrev Entries := List (Text × Value)

namespace Entries

/-- The value with a name. -/
def get? (entries : Entries) (name : Text) : Option Value :=
  (entries.find? fun entry => entry.1 = name).map (·.2)

/-- Gives a value to a name, which may have one already. -/
def put (entries : Entries) (name : Text) (value : Value) : Entries :=
  if entries.any fun entry => entry.1 = name then
    entries.map fun entry => if entry.1 = name then (name, value) else entry
  else entries ++ [(name, value)]

end Entries

/-- A key: the names of the tables on its way, and its own name. -/
structure Key where
  path : List Text
  name : Text
  deriving Repr, DecidableEq

/-- Changes the table that a path of names leads to. Tables that are missing on the way are made.
Dotted keys do not enter the table of a header, and nothing enters an inline table. -/
def within (dotted : Bool) (change : Origin → Entries → Option Entries) :
    List Text → Origin → Entries → Option Entries
  | [], origin, entries => change origin entries
  | name :: path, _, entries =>
    match entries.get? name with
    | none => do
      let origin := if dotted then .dotted else .implied
      let inner ← within dotted change path origin []
      some (entries.put name (.table origin inner))
    | some (.table origin inner) =>
      if origin = .inline || (dotted && origin = .header) then none
      else do
        let inner ← within dotted change path origin inner
        some (entries.put name (.table origin inner))
    | some (.tables (last :: before)) => do
      let last ← within dotted change path .header last
      some (entries.put name (.tables (last :: before)))
    | some _ => none

/-- Adds a value under a key. The last table on the way of a dotted key belongs to dotted keys. -/
def addPair (key : Key) (value : Value) : Origin → Entries → Option Entries :=
  within true
    (fun origin entries =>
      if (origin == .dotted) == key.path.isEmpty || (entries.get? key.name).isSome then none
      else some (entries.put key.name value))
    key.path

/-- Opens the table of a header. -/
def openTable (name : Text) (_ : Origin) (entries : Entries) : Option Entries :=
  match entries.get? name with
  | none => some (entries.put name (.table .header []))
  | some (.table .implied inner) => some (entries.put name (.table .header inner))
  | some _ => none

/-- Opens one more of the tables of a header in double brackets. -/
def openNext (name : Text) (_ : Origin) (entries : Entries) : Option Entries :=
  match entries.get? name with
  | none => some (entries.put name (.tables [[]]))
  | some (.tables items) => some (entries.put name (.tables ([] :: items)))
  | some _ => none

/-- The inline table with the given pairs. -/
def inlineTable (pairs : List (Key × Value)) : Option Value :=
  (pairs.foldlM (fun entries pair => addPair pair.1 pair.2 .inline entries) []).map
    (.table .inline)

/-- What a line of a settings file says. -/
inductive Statement where
  | pair (key : Key) (value : Value)
  | header (key : Key)
  | nextHeader (key : Key)
  deriving Repr

/-- A settings file as far as it is read: its tables, and the path to the open one. -/
structure Document where
  root : Entries
  current : List Text
  deriving Repr

namespace Document

/-- Follows a statement. -/
def follow (document : Document) : Statement → Option Document
  | .pair key value => do
    let root ← within false (addPair key value) document.current .header document.root
    some { document with root }
  | .header key => do
    let root ← within false (openTable key.name) key.path .header document.root
    some ⟨root, key.path ++ [key.name]⟩
  | .nextHeader key => do
    let root ← within false (openNext key.name) key.path .header document.root
    some ⟨root, key.path ++ [key.name]⟩

/-- The tables that statements describe. -/
def ofStatements (statements : List Statement) : Option Entries :=
  (statements.foldlM follow ⟨[], []⟩).map root

end Document

end Tangle.Toml
