import Chip8.Proofs.Emulator.Paced
import Chip8.Proofs.Machine.Footprint

/-!
# The footprint of a cycle

A cycle that completes changes its machine within the footprint of the word it executed, and the
random source only for a word that draws. A presentation at its end takes the mark of the picture
and is outside every footprint, unless the hook holds a key.
-/

namespace Chip8.Emulator

variable {e : Emulator}

/-- A cycle that completes has performed the instruction that its word encodes. -/
theorem exists_of_advance (h : e.advance.result = .ok ()) :
    ∃ i, e.machine.currentWord.Encodes i ∧
      e.machine.fetch.2.tickTimers.perform e.machine.keypad.reading e.source i =
        some (e.advance.emulator.machine, e.advance.emulator.source) := by
  have executed : e.ready.machine.execute e.machine.currentWord.toNat e.machine.keypad.reading
      e.source e.machine.pc.toNat =
        .ok (e.advance.emulator.machine, e.advance.emulator.source) := by
    rw [advance, complete] at *
    split at h
    · contradiction
    · assumption
  obtain ⟨i, decoded, performed⟩ := Machine.exists_of_execute executed
  rw [Word.ofInt_toNat, Instruction.decode_eq_some_iff] at decoded
  exact ⟨i, decoded, performed⟩

/-- Presentation takes the mark of the picture, and leaves the rest of the machine alone unless the
hook holds a key. -/
theorem machine_present (quiet : ∀ key, e.hook ≠ .press key) :
    e.present.2.machine = e.machine.clean := by
  have clean := congrArg machine (bare_present quiet)
  rw [← Machine.clean_of_not_dirty e.dirty_present]
  exact clean

/-- A cycle that completes stays within the footprint of its word. The program goes on where the
word says; registers, index register, memory, stack, picture and timers that the word does not name
are as they were, the timers having been counted down once; a random byte is drawn by a word of
family `C` and by no other; and nobody touches the keypad but a hook that holds a key. -/
theorem cycle_footprint (e : Emulator) (presenting : Bool)
    (quiet : ∀ key, e.hook ≠ .press key) (completed : (e.cycle presenting).result = .ok ()) :
    let p := e.machine.pc
    let w := Word.ofBytes (e.machine.memory.get p) (e.machine.memory.get (p + 1))
    let after := (e.cycle presenting).emulator
    Machine.Footprint e.machine after.machine w ∧
      after.source = (if w.family = 0xC then e.source.next.2 else e.source) ∧
      after = { e with
        machine := after.machine
        source := after.source
        cycles := e.cycles + 1
        frames := after.frames
        stopRequested := after.stopRequested
        redraws := after.redraws
        journal := after.journal } := by
  rw [result_cycle] at completed
  obtain ⟨i, encoded, performed⟩ := exists_of_advance completed
  have footprint := Machine.Footprint.of_perform performed encoded
  have source := Machine.source_of_perform performed encoded
  have advanced := e.rest_advance
  rw [e.cycles_advance_of_ok completed] at advanced
  rw [emulator_cycle_of_ok e presenting completed]
  cases presenting with
  | false =>
    refine ⟨footprint, source, ?_⟩
    rw [if_neg Bool.false_ne_true, advanced]
  | true =>
    have quiet' : ∀ key, e.advance.emulator.hook ≠ .press key := by rwa [hook_advance]
    have presented := e.advance.emulator.rest_present
    rw [if_pos rfl]
    refine ⟨?_, ?_, ?_⟩
    · rw [machine_present quiet']
      exact footprint.clean
    · rw [presented]
      exact source
    · rw [presented, advanced]

/-- The cycle that clears the picture goes on with the next word and changes no register. -/
theorem cycle_footprint_clearing :
    (clearing.cycle true).result = .ok () ∧
      (clearing.cycle true).emulator.machine.pc.toNat = clearing.machine.nextPc 0x00E0 ∧
      ∀ r, (clearing.cycle true).emulator.machine.register r = clearing.machine.register r := by
  have completed : (clearing.cycle true).result = .ok () := by decide +kernel
  have quiet : ∀ key, clearing.hook ≠ .press key := by
    intro key
    exact Hook.noConfusion
  obtain ⟨footprint, -, -⟩ := cycle_footprint clearing true quiet completed
  have word : clearing.machine.currentWord = 0x00E0 := by decide +kernel
  have footprint : Machine.Footprint clearing.machine (clearing.cycle true).emulator.machine
      clearing.machine.currentWord := footprint
  rw [word] at footprint
  refine ⟨completed, footprint.pc_eq, ?_⟩
  intro r
  apply footprint.register_eq
  revert r
  decide

end Chip8.Emulator
