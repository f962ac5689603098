import Chip8.Keypad.KeyMap
import Chip8.Text.Hex

/-!
# The keypad

The keypad knows at most one held key: the most recent event decides. A key can be held through a
host key, which is then remembered by name, or directly by its code.
-/

namespace Chip8

/-- A held key: its code, and the host key that produced it if there was one. -/
structure HeldKey where
  code : Nibble
  hostKey : Option Char
  deriving DecidableEq, Repr

/-- The keypad: which host keys produce its keys, and which key is held. -/
structure Keypad where
  keyMap : KeyMap
  held : Option HeldKey
  deriving DecidableEq, Repr

namespace Keypad

/-- A keypad on which no key is held. -/
def released (m : KeyMap) : Keypad := ⟨m, none⟩

/-- The code of the held key. -/
def heldCode (k : Keypad) : Option Nibble := k.held.map (·.code)

/-- The held key as the executor sees it: a number, or nothing. -/
def reading (k : Keypad) : Option Int := k.heldCode.map fun code => (code.toNat : Int)

/-- The host key that produced the held key. -/
def hostKey (k : Keypad) : Option Char := k.held.bind (·.hostKey)

/-- Whether the held key has the given code. -/
def isHeld (k : Keypad) (code : Int) : Bool := k.reading == some code

/-- Hold a host key. A host key that produces no key leaves none held. -/
def press (k : Keypad) (text : String) : Keypad :=
  { k with held := (k.keyMap.find? text).map fun (key, code) => ⟨code, some key⟩ }

/-- Hold no key. Letting go of any host key has this effect, since only one key is tracked. -/
def release (k : Keypad) : Keypad := { k with held := none }

/-- Hold a key directly by its code. -/
def pressCode (k : Keypad) (code : Int) : Except ArgumentError Keypad :=
  if 0 ≤ code ∧ code ≤ 15 then .ok { k with held := some ⟨.ofInt 4 code, none⟩ }
  else .error (.keyCode code)

/-- A one-line summary. -/
def summary (k : Keypad) : String :=
  let held := match k.heldCode with
    | none => "none"
    | some code => Text.hexBits 1 code
  "Keyboard(key_map='" ++ k.keyMap.name ++ "', held=" ++ held ++ ")"

end Keypad

end Chip8
