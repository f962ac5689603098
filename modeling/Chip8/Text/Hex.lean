import Chip8.Text.Digits

/-!
# Hexadecimal text

Addresses, words and bytes are written with upper-case hexadecimal digits, padded with zeros to a
least width. A minus sign counts towards that width, and a number too long for it is written in
full.
-/

namespace Chip8.Text

/-- The upper-case hexadecimal digit of a number below sixteen. -/
def hexDigit (d : Nat) : Char :=
  if d < 10 then Char.ofNat (0x30 + d) else Char.ofNat (0x37 + d)

/-- The hexadecimal digits of a number, with zeros in front up to the given width. -/
def hexDigits (width n : Nat) : List Char :=
  let ds := (digits 16 n).map hexDigit
  List.replicate (width - ds.length) '0' ++ ds

/-- An integer in hexadecimal, zero padded to a width that includes its sign. -/
def hex (width : Nat) (n : Int) : String :=
  if n < 0 then String.ofList ('-' :: hexDigits (width - 1) n.natAbs)
  else String.ofList (hexDigits width n.toNat)

/-- A word of fixed width in hexadecimal, zero padded. -/
def hexBits (width : Nat) (b : BitVec w) : String := hex width b.toNat

end Chip8.Text
