import Tangle.Stencil.Value

/-!
# Expressions and statements of templates

The trees that the text of a template stands for.
-/

namespace Tangle.Stencil

/-- Operations on two values. -/
inductive Binary where
  | add | subtract | multiply | divide | floorDivide | modulo | power | concat
  | equal | notEqual | less | lessEqual | greater | greaterEqual | isIn
  deriving Repr, DecidableEq

/-- An expression. -/
inductive Expression where
  | constant (value : Value)
  | name (name : Text)
  | list (items : List Expression)
  | map (entries : List (Expression × Expression))
  /-- The part of a value under a name. -/
  | attribute (subject : Expression) (name : Text)
  /-- The part of a value at an index or under a key. -/
  | item (subject key : Expression)
  /-- The members from one index up to another, in steps. -/
  | slice (subject : Expression) (start stop step : Option Expression)
  | call (subject : Expression) (arguments : List Expression)
  | filter (name : Text) (subject : Expression) (arguments : List Expression)
  | test (name : Text) (subject : Expression) (arguments : List Expression)
  | negate (subject : Expression)
  | not (subject : Expression)
  | binary (operation : Binary) (left right : Expression)
  | and (left right : Expression)
  | or (left right : Expression)
  | choice (test yes : Expression) (no : Option Expression)
  deriving Inhabited

/-- A part of a template. -/
inductive Statement where
  | text (contents : Text)
  | emit (value : Expression)
  /-- Gives names to a value, or to its members if there are several names. -/
  | assign (names : List Text) (value : Expression)
  /-- Gives a name to the text of a body, after filters with their arguments. -/
  | capture (name : Text) (filters : List (Text × List Expression)) (body : List Statement)
  | choice (test : Expression) (yes no : List Statement)
  /-- Goes through the members of a value that pass a test. -/
  | loop (names : List Text) (source : Expression) (test : Option Expression)
      (body otherwise : List Statement)
  deriving Inhabited

end Tangle.Stencil
