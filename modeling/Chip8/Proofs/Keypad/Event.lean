import Chip8.Keypad.Basic

/-!
# Events of the keypad

What a host can do to the keypad, and what is held after several events one after the other. An
event that is refused changes nothing.
-/

namespace Chip8.Keypad

/-- Something that a host does to the keypad. -/
inductive Event where
  | down (key : String)
  | up (key : String)
  | code (code : Int)
  | clear
  deriving DecidableEq, Repr

/-- The keypad after an event, whether it was refused or not. -/
def after (k : Keypad) : Event → Keypad
  | .down key => k.press key
  | .up _ | .clear => k.release
  | .code code => (k.pressCode code).toOption.getD k

/-- The keypad after events one after the other. -/
def afterAll (k : Keypad) (events : List Event) : Keypad := events.foldl after k

end Chip8.Keypad
