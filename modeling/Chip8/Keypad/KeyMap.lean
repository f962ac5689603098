import Chip8.Word
import Chip8.ArgumentError

/-!
# Key maps

A key map says which host keys produce which keys of the hexadecimal keypad. A host key is named by
a text that is compared in upper case, so that `a` and `A` are the same key; only the name of a
single character can denote a key.
-/

namespace Chip8

/-- The known arrangements of host keys. -/
inductive KeyMap where
  /-- Host keys named after the digit they produce. -/
  | hex
  /-- The left-hand block of a keyboard, in the square of the COSMAC keypad. -/
  | cosmac
  deriving DecidableEq, Repr

namespace KeyMap

/-- The name of a key map. -/
def name : KeyMap → String
  | hex => "hex"
  | cosmac => "cosmac"

/-- Each host key of a key map with the key it produces. -/
def entries : KeyMap → List (Char × Nibble)
  | hex =>
    [('0', 0x0), ('1', 0x1), ('2', 0x2), ('3', 0x3), ('4', 0x4), ('5', 0x5), ('6', 0x6),
      ('7', 0x7), ('8', 0x8), ('9', 0x9), ('A', 0xA), ('B', 0xB), ('C', 0xC), ('D', 0xD),
      ('E', 0xE), ('F', 0xF)]
  | cosmac =>
    [('1', 0x1), ('2', 0x2), ('3', 0x3), ('4', 0xC), ('A', 0x7), ('C', 0xB), ('D', 0x9),
      ('E', 0x6), ('F', 0xE), ('Q', 0x4), ('R', 0xD), ('S', 0x8), ('V', 0xF), ('W', 0x5),
      ('X', 0x0), ('Z', 0xA)]

/-- The key that a host key produces. -/
def code? (m : KeyMap) (key : Char) : Option Nibble := m.entries.lookup key

/-- The key map of a name. Case does not matter, and no character beyond ASCII has a lower-case
form that occurs in a name. -/
def ofName? (text : String) : Option KeyMap :=
  let lowered := text.toList.map Char.toLower
  if lowered = "hex".toList then some hex
  else if lowered = "cosmac".toList then some cosmac
  else none

/-- The key map of a name, or the reason why there is none. -/
def ofName (text : String) : Except ArgumentError KeyMap :=
  match ofName? text with
  | some m => .ok m
  | none => .error (.keyMap text)

/-- The upper-case form of a character. Two letters beyond ASCII have an upper-case form within it:
the long s and the dotless i. Other characters beyond ASCII are left alone, since no key is named
by their upper-case form. -/
def upperCase (c : Char) : Char :=
  if c = 'ſ' then 'S' else if c = 'ı' then 'I' else c.toUpper

/-- The host key that a text names in a key map, in upper case, and the key it produces. -/
def find? (m : KeyMap) (text : String) : Option (Char × Nibble) :=
  match text.toList with
  | [c] => (m.code? (upperCase c)).map (upperCase c, ·)
  | _ => none

/-- The key that the host key named by a text produces. -/
def codeOf? (m : KeyMap) (text : String) : Option Nibble := (m.find? text).map (·.2)

end KeyMap

end Chip8
