import Chip8.Word

/-!
# Countdown timers

A timer holds a byte that falls by one each cycle until it reaches zero. The machine has two: the
delay timer, which programs read back, and the sound timer, which is heard while it runs.
-/

namespace Chip8

/-- A counter that runs down to zero and stays there. -/
structure Timer where
  value : Byte
  deriving DecidableEq, Repr

namespace Timer

/-- A timer loaded with an integer, reduced to a byte. -/
def ofInt (value : Int) : Timer := ⟨.ofInt 8 value⟩

/-- A timer that has run down. -/
def idle : Timer := ⟨0⟩

/-- Whether the timer is still counting. -/
def isActive (t : Timer) : Bool := t.value != 0

/-- Count down by one, stopping at zero. -/
def tick (t : Timer) : Timer := if t.value = 0 then t else ⟨t.value - 1⟩

/-- Count up by one, stopping at the largest byte. -/
def increment (t : Timer) : Timer := if t.value = 0xFF then t else ⟨t.value + 1⟩

/-- A one-line summary. -/
def summary (t : Timer) : String := s!"Timer(value={t.value.toNat})"

/-- A tick takes one from the value, with zero left as it is. -/
theorem toNat_tick (t : Timer) : t.tick.value.toNat = t.value.toNat - 1 := by
  rw [tick]
  split
  · simp_all
  · bv_omega

end Timer

end Chip8
