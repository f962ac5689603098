import Chip8.Proofs.Emulator.Cycle
import Chip8.Proofs.IntMachine.Simulation
import Chip8.Proofs.Machine.Faults

/-!
# Faults of a cycle

A cycle faults exactly if its word fits no pattern of the instruction set, or is a return and the
stack is empty. By then the word has been fetched and the timers have been counted down, and nothing
else has happened.
-/

namespace Chip8

/-- A tick is a subtraction that stops at zero. -/
theorem Timer.tick_eq_ofInt (t : Timer) : t.tick = .ofInt (max 0 ((t.value.toNat : Int) - 1)) := by
  have value_eq : t.tick.value = BitVec.ofInt 8 (max 0 ((t.value.toNat : Int) - 1)) := by
    apply BitVec.eq_of_toNat_eq
    rw [toNat_tick, BitVec.toNat_ofInt]
    omega
  exact congrArg Timer.mk value_eq

namespace Emulator

variable (e : Emulator) (presenting : Bool)

/-- An emulator whose cycle was cut short by a fault. -/
def interrupted : Emulator :=
  { e with
    machine := { e.machine with
      pc := .ofNat 12 ((e.machine.pc.toNat + 2) % 4096)
      delay := .ofInt (max 0 ((e.machine.delay.value.toNat : Int) - 1))
      sound := .ofInt (max 0 ((e.machine.sound.value.toNat : Int) - 1)) }
    journal := e.journal ++
      if e.config.trace then #[.traced e.machine.pc e.machine.currentWord] else #[] }

theorem ready_eq_interrupted : e.ready = e.interrupted := by
  have next : e.machine.pc + 2 = BitVec.ofNat 12 ((e.machine.pc.toNat + 2) % 4096) := by bv_omega
  have traced : (if e.config.trace then [Event.traced e.machine.pc e.machine.currentWord]
      else []).toArray =
      if e.config.trace then #[.traced e.machine.pc e.machine.currentWord] else #[] := by
    split <;> rfl
  rw [ready, note, traced, interrupted, ← Timer.tick_eq_ofInt, ← Timer.tick_eq_ofInt, ← next]
  rfl

theorem result_advance_eq_error_iff (f : Fault) :
    e.advance.result = .error f ↔
      e.ready.machine.execute e.machine.currentWord.toNat e.ready.machine.keypad.reading
        e.ready.source e.machine.pc.toNat = .error f := by
  rw [advance, complete]
  split <;> simp_all

theorem emulator_advance_of_error {f : Fault} (h : e.advance.result = .error f) :
    e.advance.emulator = e.ready := by
  rw [result_advance_eq_error_iff] at h
  rw [advance, complete, h]

/-- A cycle faults exactly if the word at the program counter has no meaning or is a return without
a return address, with that word and that address as its report. It leaves a machine that has moved
past the word and counted its timers down, and an emulator that is otherwise unchanged. Carried out
on integers with every access checked, the cycle is refused for no other reason. -/
theorem cycle_faults (e : Emulator) (presenting : Bool) :
    let p := e.machine.pc
    let w := Word.ofBytes (e.machine.memory.get p) (e.machine.memory.get (p + 1))
    let cycled := e.cycle presenting
    (∀ f, cycled.result = .error f ↔
      (¬ w.IsInstruction ∧ f = .invalidOpcode w.toNat (some p.toNat)) ∨
        (Pattern.ret.Matches w ∧ e.machine.stack = [] ∧ f = .emptyStack (some p.toNat))) ∧
      (∀ f, cycled.result = .error f → cycled.emulator = e.interrupted) ∧
      ∀ refusal s,
        (IntMachine.cycle e.source.next.1.toNat).run e.machine.numbers = .error refusal s ↔
          ∃ f, refusal = .fault f ∧ cycled.result = .error f ∧
            s = cycled.emulator.machine.numbers := by
  refine ⟨?_, ?_, ?_⟩
  · intro f
    rw [result_cycle, result_advance_eq_error_iff, Machine.execute_eq_error_iff,
      BitVec.ofInt_natCast, BitVec.ofNat_toNat, BitVec.setWidth_eq]
    rfl
  · intro f h
    rw [result_cycle] at h
    rw [emulator_cycle_of_error e presenting h, emulator_advance_of_error e h, ready_eq_interrupted]
  · intro refusal s
    rw [IntMachine.run_cycle, result_cycle]
    cases ran : e.advance.result with
    | ok _ => simp
    | error f =>
      rw [emulator_cycle_of_error e presenting ran]
      simp only [EStateM.Result.error.injEq, Except.error.injEq]
      constructor
      · rintro ⟨rfl, rfl⟩
        exact ⟨f, rfl, rfl, rfl⟩
      · rintro ⟨_, rfl, rfl, rfl⟩
        exact ⟨rfl, rfl⟩

end Emulator

end Chip8
