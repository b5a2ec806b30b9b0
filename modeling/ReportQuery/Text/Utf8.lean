/-!
# Octets as text

The text of a sequence of octets in UTF-8. Nothing is refused: a run of octets that begins a
character and cannot be completed stands for one replacement character, and so does an octet
that begins none.
-/

namespace ReportQuery.Text

/-- The character that stands for octets that are no text. -/
def replacement : Char := '\ufffd'

/-- A character that has begun: its bits so far, how many octets it still needs, and the range
of the next one. -/
structure Begun where
  bits : Nat
  owed : Nat
  least : Nat := 0x80
  greatest : Nat := 0xbf
deriving Repr, DecidableEq

/-- The first octet of a character: the text it completes, and the character it begins. -/
def beginOctet (b : Nat) : List Char × Option Begun :=
  if b < 0x80 then ([Char.ofNat b], none)
  else if 0xc2 ≤ b ∧ b ≤ 0xdf then ([], some { bits := b - 0xc0, owed := 1 })
  else if 0xe0 ≤ b ∧ b ≤ 0xef then
    ([], some { bits := b - 0xe0, owed := 2
                least := if b = 0xe0 then 0xa0 else 0x80
                greatest := if b = 0xed then 0x9f else 0xbf })
  else if 0xf0 ≤ b ∧ b ≤ 0xf4 then
    ([], some { bits := b - 0xf0, owed := 3
                least := if b = 0xf0 then 0x90 else 0x80
                greatest := if b = 0xf4 then 0x8f else 0xbf })
  else ([replacement], none)

/-- One more octet. One that does not continue the character that has begun begins another. -/
def nextOctet (begun : Option Begun) (b : Nat) : List Char × Option Begun :=
  match begun with
  | none => beginOctet b
  | some p =>
    if p.least ≤ b ∧ b ≤ p.greatest then
      let bits := p.bits * 0x40 + (b - 0x80)
      if p.owed = 1 then ([Char.ofNat bits], none)
      else ([], some { bits, owed := p.owed - 1 })
    else
      let (text, begun) := beginOctet b
      (replacement :: text, begun)

/-- The text of the octets after a character that may have begun. -/
def ofOctetsFrom (begun : Option Begun) : List UInt8 → List Char
  | [] => if begun.isSome then [replacement] else []
  | b :: bs =>
    let (text, begun) := nextOctet begun b.toNat
    text ++ ofOctetsFrom begun bs

/-- The text of the octets. -/
def ofOctets (octets : List UInt8) : List Char :=
  ofOctetsFrom none octets

end ReportQuery.Text
