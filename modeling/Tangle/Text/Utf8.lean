import Tangle.Text

/-!
# UTF-8

Reading octets as text. Where the octets are no text, the longest beginning of a character is passed
over as one unit, so that every faulty place is one unit of the reading.
-/

namespace Tangle.Utf8

/-- What the first octet of a character says: the bits it holds, the interval of the second octet,
and the number of octets that follow. -/
structure Lead where
  bits : Nat
  least : Nat
  greatest : Nat
  following : Nat

/-- The meaning of an octet at the start of a character of several octets. -/
def lead? (octet : Nat) : Option Lead :=
  if 0xC2 ≤ octet ∧ octet ≤ 0xDF then some ⟨octet - 0xC0, 0x80, 0xBF, 1⟩
  else if octet = 0xE0 then some ⟨0, 0xA0, 0xBF, 2⟩
  else if octet = 0xED then some ⟨0xD, 0x80, 0x9F, 2⟩
  else if 0xE1 ≤ octet ∧ octet ≤ 0xEF then some ⟨octet - 0xE0, 0x80, 0xBF, 2⟩
  else if octet = 0xF0 then some ⟨0, 0x90, 0xBF, 3⟩
  else if 0xF1 ≤ octet ∧ octet ≤ 0xF3 then some ⟨octet - 0xF0, 0x80, 0xBF, 3⟩
  else if octet = 0xF4 then some ⟨4, 0x80, 0x8F, 3⟩
  else none

/-- Reads the octets of a text. `pending` is the character being read: its bits so far, the interval
of the next octet, and how many are missing. Faulty units are `none`. -/
def readFrom (pending : Option Lead) : List UInt8 → List (Option Char)
  | [] => if pending.isSome then [none] else []
  | octet :: rest =>
    let n := octet.toNat
    let fresh (before : List (Option Char)) : List (Option Char) :=
      if n < 0x80 then before ++ some (Char.ofNat n) :: readFrom none rest
      else
        match lead? n with
        | some lead => before ++ readFrom (some lead) rest
        | none => before ++ none :: readFrom none rest
    match pending with
    | none => fresh []
    | some lead =>
      if lead.least ≤ n ∧ n ≤ lead.greatest then
        let bits := lead.bits * 64 + (n - 0x80)
        if lead.following ≤ 1 then some (Char.ofNat bits) :: readFrom none rest
        else readFrom (some ⟨bits, 0x80, 0xBF, lead.following - 1⟩) rest
      else fresh [none]

/-- The characters and the faulty units of a list of octets. -/
def read (octets : List UInt8) : List (Option Char) := readFrom none octets

/-- The text that octets spell, if there is one. -/
def text? (octets : List UInt8) : Option Text := (read octets).mapM id

/-- The text that octets spell, with the replacement character for each faulty unit. -/
def lossyText (octets : List UInt8) : Text := (read octets).map fun c => c.getD '\uFFFD'

/-- The number of octets of a text. -/
def size (text : Text) : Nat := text.foldr (fun c size => c.utf8Size + size) 0

end Tangle.Utf8
