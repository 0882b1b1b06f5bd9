import Tangle.Decimal.Shortest
import Tangle.Text.Html
import Tangle.Text.Quoted

/-!
# Values of templates

What expressions in templates evaluate to, how values are shown, and how they compare. A name that
stands for nothing has the undefined value, which is shown as the empty text.
-/

namespace Tangle.Stencil

/-- A value of an expression. -/
inductive Value where
  | undefined
  | none
  | bool (value : Bool)
  | int (value : Int)
  | float (value : Float)
  /-- A text, and whether it is markup already and needs no escaping. -/
  | text (value : Text) (markup : Bool)
  | list (items : List Value)
  /-- A map, its entries in the order of their keys. -/
  | map (entries : List (Value × Value))
  deriving Inhabited

namespace Value

/-- A plain text. -/
def ofText (t : Text) : Value := .text t false

/-- A number that may be absent. -/
def ofNat? : Option Nat → Value
  | some n => .int n
  | Option.none => .none

/-- The least integer that arithmetic can give, and the first one beyond the greatest. -/
def intBound : Int := Int.ofNat (Nat.pow 2 127)

/-- An integer, if arithmetic can give it. -/
def ofInt? (n : Int) : Option Value := if -intBound ≤ n ∧ n < intBound then some (.int n) else .none

/-! ## Showing -/

/-- The names of the two truth values. -/
def boolText (b : Bool) : Text := if b then "True".toList else "False".toList

mutual

/-- A value as it stands inside a list or a map. -/
def nestedText : Value → Text
  | undefined => "undefined".toList
  | none => "None".toList
  | bool b => boolText b
  | int n => (toString n).toList
  | float x => Decimal.compactText x
  | text t _ => Text.quoted t
  | list items => '[' :: Text.joinWith [',', ' '] (itemTexts items) ++ [']']
  | map entries => '{' :: Text.joinWith [',', ' '] (entryTexts entries) ++ ['}']

/-- The members of a list. -/
def itemTexts : List Value → List Text
  | [] => []
  | item :: more => nestedText item :: itemTexts more

/-- The entries of a map. -/
def entryTexts : List (Value × Value) → List Text
  | [] => []
  | (key, value) :: more =>
    (nestedText key ++ [':', ' '] ++ nestedText value) :: entryTexts more

end

/-- A value as it is shown. -/
def shown : Value → Text
  | undefined => []
  | text t _ => t
  | float x => Decimal.plainText x
  | value => nestedText value

/-- A value as it is shown where all that is no markup is escaped. -/
def shownEscaped : Value → Text
  | text t markup => if markup then t else Text.escaped t
  | list items => Text.escaped (nestedText (list items))
  | map entries => Text.escaped (nestedText (map entries))
  | value => shown value

/-! ## Truth -/

/-- Whether a value counts as true. -/
def isTrue : Value → Bool
  | undefined => false
  | none => false
  | bool b => b
  | int n => n ≠ 0
  | float x => x != 0
  | text t _ => !t.isEmpty
  | list items => !items.isEmpty
  | map entries => !entries.isEmpty

/-! ## Numbers -/

/-- A truth value or an integer as an integer. -/
def int? : Value → Option Int
  | bool b => some (if b then 1 else 0)
  | int n => some n
  | _ => Option.none

/-- The number nearest to an integer. -/
def floatOfInt (n : Int) : Float :=
  if n < 0 then -(Float.ofNat n.natAbs) else Float.ofNat n.natAbs

/-- A truth value or a number as a floating-point number. -/
def float? : Value → Option Float
  | float x => some x
  | value => value.int?.map floatOfInt

/-- Two values brought to a common form. -/
inductive Pair where
  | ints (a b : Int)
  | floats (a b : Float)
  | texts (a b : Text)

/-- Brings two values to a common form: texts, floating-point numbers if one is, or integers. -/
def pair? (a b : Value) : Option Pair :=
  match a, b with
  | text s _, text t _ => some (.texts s t)
  | float x, b => b.float?.map (Pair.floats x)
  | a, float y => a.float?.map (Pair.floats · y)
  | a, b => do
    let m ← a.int?
    let n ← b.int?
    pure (.ints m n)

/-! ## Comparison -/

mutual

/-- Equality. A truth value equals the numbers one or zero. -/
def equal : Value → Value → Bool
  | list items, other =>
    match other with
    | list others => equalItems items others
    | _ => false
  | map entries, other =>
    match other with
    | map others => equalEntries entries others
    | _ => false
  | undefined, other =>
    match other with
    | undefined => true
    | _ => false
  | none, other =>
    match other with
    | none => true
    | _ => false
  | a, b =>
    match pair? a b with
    | some (.ints m n) => m = n
    | some (.floats x y) => x == y
    | some (.texts s t) => s = t
    | Option.none => false

/-- Equality member by member. -/
def equalItems : List Value → List Value → Bool
  | [], others => others.isEmpty
  | item :: more, others =>
    match others with
    | other :: rest => equal item other && equalItems more rest
    | [] => false

/-- Equality entry by entry. -/
def equalEntries : List (Value × Value) → List (Value × Value) → Bool
  | [], others => others.isEmpty
  | (key, value) :: more, others =>
    match others with
    | (otherKey, otherValue) :: rest =>
      equal key otherKey && equal value otherValue && equalEntries more rest
    | [] => false

end

/-- The order of the kinds of values. -/
def rank : Value → Nat
  | undefined => 0
  | none => 1
  | bool _ => 2
  | int _ => 3
  | float _ => 3
  | text _ _ => 4
  | list _ => 5
  | map _ => 6

/-- The order of texts. -/
def compareTexts (s t : Text) : Ordering :=
  if s = t then .eq else if Text.precedes s t then .lt else .gt

mutual

/-- The order of values: by kind, and within a kind by number, text, or member by member. -/
def compare : Value → Value → Ordering
  | list items, other =>
    match other with
    | list others => compareItems items others
    | other => Ord.compare (5 : Nat) other.rank
  | map entries, other =>
    match other with
    | map others => compareEntries entries others
    | other => Ord.compare (6 : Nat) other.rank
  | a, b =>
    if a.rank ≠ b.rank then Ord.compare a.rank b.rank
    else
      match pair? a b with
      | some (.ints m n) => Ord.compare m n
      | some (.floats x y) => if x < y then .lt else if y < x then .gt else .eq
      | some (.texts s t) => compareTexts s t
      | Option.none => .eq

/-- The order of lists. -/
def compareItems : List Value → List Value → Ordering
  | [], others => if others.isEmpty then .eq else .lt
  | item :: more, others =>
    match others with
    | other :: rest => (compare item other).then (compareItems more rest)
    | [] => .gt

/-- The order of maps. -/
def compareEntries : List (Value × Value) → List (Value × Value) → Ordering
  | [], others => if others.isEmpty then .eq else .lt
  | (key, value) :: more, others =>
    match others with
    | (otherKey, otherValue) :: rest =>
      ((compare key otherKey).then (compare value otherValue)).then (compareEntries more rest)
    | [] => .gt

end

/-! ## Parts -/

/-- Puts an entry into a map, in place of one with an equal key. -/
def insertEntry (key value : Value) : List (Value × Value) → List (Value × Value)
  | [] => [(key, value)]
  | (other, bound) :: more =>
    match compare key other with
    | .lt => (key, value) :: (other, bound) :: more
    | .eq => (other, value) :: more
    | .gt => (other, bound) :: insertEntry key value more

/-- A map with the given entries, of which later ones replace earlier ones. -/
def ofEntries (entries : List (Value × Value)) : Value :=
  .map (entries.foldl (fun sorted entry => insertEntry entry.1 entry.2 sorted) [])

/-- A map from names to values. -/
def ofFields (fields : List (Text × Value)) : Value :=
  ofEntries (fields.map fun field => (ofText field.1, field.2))

/-- The member at an index; a negative one counts from the end. -/
def memberAt {α : Type} (items : List α) (index : Int) : Option α :=
  if 0 ≤ index then items[index.toNat]?
  else if index.natAbs ≤ items.length then items[items.length - index.natAbs]?
  else Option.none

/-- The part of a value that a key or an index leads to, undefined where there is none. -/
def member (value key : Value) : Value :=
  match value, key with
  | list items, key =>
    match key with
    | int i => (memberAt items i).getD .undefined
    | _ => .undefined
  | text t _, key =>
    match key with
    | int i => ((memberAt t i).map fun c => ofText [c]).getD .undefined
    | _ => .undefined
  | map entries, key => ((entries.find? fun entry => equal entry.1 key).map (·.2)).getD .undefined
  | _, _ => .undefined

/-- The members that a loop goes through. -/
def members? : Value → Option (List Value)
  | undefined => some []
  | none => some []
  | text t _ => some (t.map fun c => ofText [c])
  | list items => some items
  | map entries => some (entries.map (·.1))
  | _ => Option.none

/-- The number of members. -/
def length? : Value → Option Nat
  | text t _ => some t.length
  | list items => some items.length
  | map entries => some entries.length
  | _ => Option.none

/-- Whether a container holds a value: a text its parts, a list its members, a map its keys. -/
def contains? (container value : Value) : Option Bool :=
  match container with
  | undefined => some false
  | text t _ => some (Text.includes t value.shown)
  | list items => some (items.any fun item => equal item value)
  | map entries => some (entries.any fun entry => equal entry.1 value)
  | _ => Option.none

end Value

end Tangle.Stencil
