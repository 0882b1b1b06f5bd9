import Tangle.Toml.Value

/-!
# Unquoted values

The values that are written without quotes or brackets: truth values, numbers, dates and times.
Underscores may stand between the digits of a number.
-/

namespace Tangle.Toml

/-! ## Digits -/

/-- Takes the underscores out of a list of digits. Each one has a digit on both sides. -/
def plainDigits? (isDigit : Char → Bool) : Text → Option Text
  | [] => none
  | [d] => if isDigit d then some [d] else none
  | d :: '_' :: rest => if isDigit d then (plainDigits? isDigit rest).map (d :: ·) else none
  | d :: rest => if isDigit d then (plainDigits? isDigit rest).map (d :: ·) else none

/-- A text without the sign at its front, and whether that is a minus sign. -/
def takeSign : Text → Bool × Text
  | '-' :: rest => (true, rest)
  | '+' :: rest => (false, rest)
  | text => (false, text)

/-- The digits of a whole part, which has no needless zero at its front. -/
def wholeDigits? (text : Text) : Option Text :=
  match plainDigits? isDigit text with
  | some ('0' :: _ :: _) => none
  | digits => digits

/-! ## Whole numbers -/

/-- The number that digits write in a base up to sixteen. -/
def numberInBase? (base : Nat) (text : Text) : Option Nat :=
  let isDigitOfBase (c : Char) : Bool := (Unicode.hexDigit? c).any (· < base)
  (plainDigits? isDigitOfBase text).map fun digits =>
    digits.foldl (fun n d => n * base + (Unicode.hexDigit? d).getD 0) 0

/-- The whole number that a text writes. It lies between `-2^127` and `2^128 - 1`. -/
def integer? (text : Text) : Option Int :=
  let number : Option Int :=
    match text with
    | '0' :: 'x' :: rest => (numberInBase? 16 rest).map Int.ofNat
    | '0' :: 'o' :: rest => (numberInBase? 8 rest).map Int.ofNat
    | '0' :: 'b' :: rest => (numberInBase? 2 rest).map Int.ofNat
    | text =>
      let (negative, rest) := takeSign text
      (wholeDigits? rest).map fun digits =>
        let n := Int.ofNat (Text.digitsValue digits)
        if negative then -n else n
  number.filter fun n => -Int.ofNat (Nat.pow 2 127) ≤ n && n < Int.ofNat (Nat.pow 2 128)

/-! ## Numbers with a fraction or an exponent -/

/-- Whether a number written with the given digits, of which `places` follow the point, is too large
for a double-precision number when it is rounded to the nearest one. -/
def overflows (digits : Text) (places : Nat) (exponent : Int) : Bool :=
  let digits := digits.dropWhile (· = '0')
  let magnitude := Int.ofNat digits.length - Int.ofNat places + exponent
  if digits.isEmpty || magnitude < 309 then false
  else if 309 < magnitude then true
  else
    let bound := Nat.pow 2 1024 - Nat.pow 2 970
    let n := Text.digitsValue digits
    if exponent - places < 0 then bound * Nat.pow 10 (places - exponent).toNat ≤ n
    else bound ≤ n * Nat.pow 10 (exponent - places).toNat

/-- The exponent that a text writes. -/
def exponent? (text : Text) : Option Int :=
  let (negative, rest) := takeSign text
  (plainDigits? isDigit rest).map fun digits =>
    let n := Int.ofNat (Text.digitsValue digits)
    if negative then -n else n

/-- Whether a text writes a number with a fraction, an exponent or both that is not too large. -/
def isFinite (text : Text) : Bool :=
  let (_, rest) := takeSign text
  let isMark (c : Char) : Bool := c = '.' || c = 'e' || c = 'E'
  let isExponentMark (c : Char) : Bool := c = 'e' || c = 'E'
  match wholeDigits? (rest.takeWhile (!isMark ·)), rest.dropWhile (!isMark ·) with
  | some whole, '.' :: rest =>
    match plainDigits? isDigit (rest.takeWhile (!isExponentMark ·)),
        rest.dropWhile (!isExponentMark ·) with
    | some fraction, [] => !overflows (whole ++ fraction) fraction.length 0
    | some fraction, _ :: rest =>
      (exponent? rest).any fun e => !overflows (whole ++ fraction) fraction.length e
    | none, _ => false
  | some whole, _ :: rest => (exponent? rest).any fun e => !overflows whole 0 e
  | _, _ => false

/-- Whether a text writes infinity or no number. -/
def isSpecial (text : Text) : Bool :=
  let (_, rest) := takeSign text
  rest = "inf".toList || rest = "nan".toList

/-! ## Dates and times -/

/-- The number that two digits write, if it is in a range. -/
def twoDigits? (a b : Char) (least greatest : Nat) : Option Nat :=
  if isDigit a && isDigit b then
    let n := Text.digitsValue [a, b]
    if least ≤ n && n ≤ greatest then some n else none
  else none

/-- The number of days in a month. -/
def daysIn (year month : Nat) : Nat :=
  if month = 2 then
    if year % 4 = 0 && (year % 100 ≠ 0 || year % 400 = 0) then 29 else 28
  else if month = 4 || month = 6 || month = 9 || month = 11 then 30
  else 31

/-- What follows a date in a text that begins with one. -/
def afterDate? : Text → Option Text
  | a :: b :: c :: d :: '-' :: e :: f :: '-' :: g :: h :: rest => do
    let century ← twoDigits? a b 0 99
    let year ← twoDigits? c d 0 99
    let month ← twoDigits? e f 1 12
    let _ ← twoDigits? g h 1 (daysIn (century * 100 + year) month)
    some rest
  | _ => none

/-- What follows a time of day in a text that begins with one. Seconds may be left out. -/
def afterTime? : Text → Option Text
  | a :: b :: ':' :: c :: d :: rest => do
    let _ ← twoDigits? a b 0 23
    let _ ← twoDigits? c d 0 59
    match rest with
    | ':' :: e :: f :: rest =>
      let _ ← twoDigits? e f 0 60
      match rest with
      | '.' :: rest =>
        if rest.head?.any isDigit then some (rest.dropWhile isDigit) else none
      | rest => some rest
    | rest => some rest
  | _ => none

/-- Whether a text is empty or writes the distance from universal time. -/
def isOffset : Text → Bool
  | [] => true
  | ['Z'] | ['z'] => true
  | [s, a, b, ':', c, d] =>
    (s = '+' || s = '-') && (twoDigits? a b 0 23).isSome && (twoDigits? c d 0 59).isSome
  | _ => false

/-- Whether a text writes a date, a time of day, or both. -/
def isMoment (text : Text) : Bool :=
  match afterDate? text with
  | some [] => true
  | some (c :: rest) => (c = 'T' || c = 't' || c = ' ') && (afterTime? rest).any isOffset
  | none => afterTime? text = some []

/-! ## All of them -/

/-- The value that an unquoted text writes. -/
def Value.ofUnquoted? (text : Text) : Option Value :=
  if text = "true".toList then some (.boolean true)
  else if text = "false".toList then some (.boolean false)
  else
    match integer? text with
    | some n => some (.integer n)
    | none =>
      if isFinite text || isSpecial text then some (.float text)
      else if isMoment text then some (.moment text)
      else none

end Tangle.Toml
