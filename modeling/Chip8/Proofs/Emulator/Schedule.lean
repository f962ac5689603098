import Chip8.Proofs.Emulator.Footprint
import Chip8.Proofs.Keypad.Event

/-!
# Scheduled cycles

A schedule says for every cycle which events of the keypad come before it and whether the picture is
presented after it. Neither is seen by anything but keypad and picture, so each cycle of a schedule
is told by the instruction that it performs.
-/

namespace Chip8

/-- What the host does about one cycle. -/
structure Turn where
  /-- The events of the keypad before the cycle. -/
  keys : List Keypad.Event
  /-- Whether the picture is presented after it. -/
  presenting : Bool

/-- What the host does about each of the cycles to come. -/
abbrev Schedule := Nat → Turn

namespace Emulator

/-- The emulator after events of its keypad. -/
def keyed (e : Emulator) (keys : List Keypad.Event) : Emulator :=
  e.withKeypad (e.machine.keypad.afterAll keys)

/-- One cycle, after the events that come before it. -/
def turn (e : Emulator) (t : Turn) : Outcome Unit := (e.keyed t.keys).cycle t.presenting

/-- The first cycles of a schedule, up to a number of them or the first fault. -/
def played (e : Emulator) (s : Schedule) : Nat → Outcome Unit
  | 0 => ⟨.ok (), e⟩
  | n + 1 => (e.played s n).andThen fun _ r => r.turn (s n)

/-- The emulator after the first cycles of a schedule. -/
def stateAt (e : Emulator) (s : Schedule) (n : Nat) : Emulator := (e.played s n).emulator

/-- The word that a cycle of a schedule executes. Cycles are counted from one. -/
def wordAt (e : Emulator) (s : Schedule) (n : Nat) : Word :=
  (e.stateAt s (n - 1)).machine.currentWord

theorem wordAt_succ (e : Emulator) (s : Schedule) (n : Nat) :
    e.wordAt s (n + 1) = (e.stateAt s n).machine.currentWord := rfl

variable {e : Emulator} {s : Schedule} {n : Nat}

/-! ## Runs of a schedule -/

theorem completed_of_succ (h : (e.played s (n + 1)).result = .ok ()) :
    (e.played s n).result = .ok () := by
  rw [played, Outcome.andThen] at h
  cases ran : (e.played s n).result with
  | error f =>
    rw [ran] at h
    contradiction
  | ok _ => rfl

/-- A run without a fault has none in its beginning. -/
theorem completed_of_le {m : Nat} (le : m ≤ n) (h : (e.played s n).result = .ok ()) :
    (e.played s m).result = .ok () := by
  induction n with
  | zero => rwa [Nat.le_zero.mp le]
  | succ n ih =>
    rcases Nat.le_succ_iff.mp le with before | rfl
    · exact ih before (completed_of_succ h)
    · exact h

theorem played_succ (h : (e.played s n).result = .ok ()) :
    e.played s (n + 1) = (e.stateAt s n).turn (s n) := by
  rw [played, Outcome.andThen, h]
  rfl

/-- A fault ends the run. -/
theorem played_succ_of_error {f : Fault} (h : (e.played s n).result = .error f) :
    e.played s (n + 1) = e.played s n := by
  rw [played, Outcome.andThen, h]
  exact congrArg (Outcome.mk · _) h.symm

/-- The last cycle of a run without a fault has none either, and the run ends as it does. -/
theorem last_turn (h : (e.played s (n + 1)).result = .ok ()) :
    ((e.stateAt s n).turn (s n)).result = .ok () ∧
      e.stateAt s (n + 1) = ((e.stateAt s n).turn (s n)).emulator := by
  have last := played_succ (completed_of_succ h)
  rw [last] at h
  exact ⟨h, congrArg Outcome.emulator last⟩

/-! ## One cycle of a schedule -/

/-- A presentation changes the mark of the picture and, if the hook holds a key, the keypad. -/
theorem exists_machine_present (e : Emulator) :
    ∃ dirty keypad, e.present.2.machine = { e.machine with
      framebuffer := { e.machine.framebuffer with dirty := dirty }
      keypad := keypad } := by
  rw [present]
  split
  · cases e.hook with
    | press key => exact ⟨false, e.machine.keypad.press key, rfl⟩
    | _ => exact ⟨false, e.machine.keypad, rfl⟩
  · exact ⟨e.machine.framebuffer.dirty, e.machine.keypad, rfl⟩

/-- A cycle of a schedule performs the instruction that the word at the program counter encodes,
and after that only keypad and mark of the picture may change. -/
theorem exists_of_turn {t : Turn} (completed : (e.turn t).result = .ok ()) :
    ∃ i m source dirty keypad, e.machine.currentWord.Encodes i ∧
      (e.keyed t.keys).machine.fetch.2.tickTimers.perform (e.keyed t.keys).machine.keypad.reading
        e.source i = some (m, source) ∧
      (e.turn t).emulator.machine = { m with
        framebuffer := { m.framebuffer with dirty := dirty }
        keypad := keypad } := by
  rw [turn, result_cycle] at completed
  obtain ⟨i, encoded, performed⟩ := exists_of_advance completed
  rw [turn, emulator_cycle_of_ok _ _ completed]
  cases t.presenting with
  | false => exact ⟨i, _, _, _, _, encoded, performed, rfl⟩
  | true =>
    obtain ⟨dirty, keypad, presented⟩ := (e.keyed t.keys).advance.emulator.exists_machine_present
    exact ⟨i, _, _, dirty, keypad, encoded, performed, presented⟩

/-- But for the keypad, a cycle of a schedule stays within the footprint of its word. -/
theorem footprint_turn {t : Turn} (completed : (e.turn t).result = .ok ()) :
    Machine.Footprint (e.keyed t.keys).machine
      { (e.turn t).emulator.machine with keypad := (e.keyed t.keys).machine.keypad }
      e.machine.currentWord := by
  obtain ⟨i, m, source, dirty, keypad, encoded, performed, after⟩ := exists_of_turn completed
  have footprint := Machine.Footprint.of_perform performed encoded
  rw [after]
  exact ⟨footprint.pc_eq, footprint.register_eq, footprint.index_eq, footprint.layout_eq,
    footprint.cell_eq, footprint.pushed, footprint.popped, footprint.stack_eq, footprint.size_eq,
    footprint.pixels_eq, footprint.delay_eq, footprint.sound_eq, rfl⟩

/-! ## The hook of a schedule -/

theorem hook_turn (e : Emulator) (t : Turn) : (e.turn t).emulator.hook = e.hook := by
  have keyed : (e.keyed t.keys).hook = e.hook := rfl
  rw [turn, hook_cycle, keyed]

theorem hook_stateAt (e : Emulator) (s : Schedule) (n : Nat) : (e.stateAt s n).hook = e.hook := by
  induction n with
  | zero => rfl
  | succ n ih =>
    cases ran : (e.played s n).result with
    | error f => rw [stateAt, played_succ_of_error ran, ← stateAt, ih]
    | ok _ => rw [stateAt, played_succ ran, hook_turn, ih]

/-! ## A program at the start of memory -/

/-- An emulator that is about to run a program from the start of memory. -/
def running (program : List Byte) : Emulator :=
  { clearing with
    machine := { clearing.machine with memory := clearingMemory.writeBlock 0 program } }

end Emulator

end Chip8
