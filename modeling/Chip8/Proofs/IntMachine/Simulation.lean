import Chip8.Emulator.Cycle
import Chip8.Proofs.IntMachine.Families

/-!
# The machine computes over the integers

Executing any integer as a word, with any reading of the keypad and any random draw, the machine
over the integers does what `Machine.execute` does: it comes to the same numbers or is refused with
the same fault, and it is refused for no other reason. A refused word has changed nothing. The same
holds of a cycle.
-/

namespace Chip8

namespace IntMachine

variable (m : Machine) (word : Int) (reading : Option Int) {drawn : Int} {source : Random.Source}
  (pc : Int)

theorem beq_toNat (a b : Byte) : ((a.toNat : Int) == b.toNat) = (a == b) := by
  rw [Bool.eq_iff_iff, beq_iff_eq, beq_iff_eq, Int.natCast_inj, BitVec.toNat_inj]

theorem bne_toNat (a b : Byte) : ((a.toNat : Int) != b.toNat) = (a != b) := by
  simp only [bne, beq_toNat]

/-- A word is answered like the instruction it decodes to. -/
theorem run_execute_decode (hdrawn : BitVec.ofInt 8 drawn = source.next.1) :
    (execute word reading drawn pc).run m.numbers =
      m.answer word reading source pc (Instruction.decode (.ofInt 16 word)) := by
  generalize ran : (execute word reading drawn pc).run m.numbers = result
  simp only [execute, family_eq, x_eq word, y_eq word, n_eq word, nn_eq, nnn_eq,
    Int.toNat_natCast] at ran
  rw [Instruction.decode]
  split
  case h_1 h =>
    have zero := run_executeZero m word reading source pc h
    simp only [Instruction.decode, h] at zero
    simp only [h, BitVec.reduceToNat] at ran
    exact ran.symm.trans zero
  case h_2 h => simp [← ran, h, Machine.answer, Machine.perform, Machine.setPc]
  case h_3 h =>
    simp [← ran, h, Machine.answer, Machine.perform, Machine.setPc, Machine.push, Machine.jump]
  case h_4 h => simp [← ran, h, Machine.answer, Machine.perform, ← beq_toNat]
  case h_5 h => simp [← ran, h, Machine.answer, Machine.perform, ← bne_toNat]
  case h_6 h =>
    generalize Word.n (.ofInt 16 word) = n at *
    by_cases blank : n = 0#4
    · subst blank
      simp [← ran, h, Machine.answer, Machine.perform, ← beq_toNat]
    · have blank' : n.toNat ≠ 0 := by bv_omega
      simp [← ran, h, blank, blank', Machine.answer]
  case h_7 h => simp [← ran, h, Machine.answer, Machine.perform]
  case h_8 h => simp [← ran, h, Machine.answer, Machine.perform, ofInt_add]
  case h_9 h =>
    simp only [h, BitVec.reduceToNat, run_executeAlu m word reading source pc] at ran
    exact ran.symm
  case h_10 h =>
    generalize Word.n (.ofInt 16 word) = n at *
    by_cases blank : n = 0#4
    · subst blank
      simp [← ran, h, Machine.answer, Machine.perform, ← bne_toNat]
    · have blank' : n.toNat ≠ 0 := by bv_omega
      simp [← ran, h, blank, blank', Machine.answer]
  case h_11 h => simp [← ran, h, Machine.answer, Machine.perform, Machine.setIndex]
  case h_12 h =>
    have first : (getRegister 0).run m.numbers = .ok (m.register 0).toNat m.numbers :=
      run_getRegister m 0
    simp [← ran, h, Machine.answer, Machine.perform, first, Machine.setPc, BitVec.ofInt_add]
  case h_13 h => simp [← ran, h, Machine.answer, Machine.perform, ofInt_land, hdrawn]
  case h_14 h => simp [← ran, h, Machine.answer, Machine.perform]
  case h_15 h =>
    have key := run_executeKey m word reading source pc h
    simp only [Instruction.decode, h] at key
    simp only [h, BitVec.reduceToNat] at ran
    exact ran.symm.trans key
  case h_16 =>
    rw [← run_executeMisc m word reading source pc, ← ran]
    split
    case h_16 => rfl
    all_goals simp_all [imp_false, ← BitVec.toNat_inj]

/-- Executing a word over the integers comes to the numbers of the machine that executes it, or is
refused with the same fault before anything has changed. -/
theorem run_execute (hdrawn : BitVec.ofInt 8 drawn = source.next.1) :
    (execute word reading drawn pc).run m.numbers =
      match m.execute word reading source pc with
      | .ok (m', _) => .ok () m'.numbers
      | .error f => .error (.fault f) m.numbers := by
  rw [run_execute_decode m word reading pc hdrawn]
  simp only [Machine.answer, Machine.execute]
  cases Instruction.decode (.ofInt 16 word) with
  | none => rfl
  | some i =>
    cases performed : m.perform reading source i with
    | none => simp only [performed]
    | some result => simp only [performed]

/-- Every integer is what some source draws. -/
theorem run_execute_script (drawn : Int) :
    (execute word reading drawn pc).run m.numbers =
      match m.execute word reading (.script #[.ofInt 8 drawn] 0) pc with
      | .ok (m', _) => .ok () m'.numbers
      | .error f => .error (.fault f) m.numbers :=
  run_execute m word reading pc rfl

/-- A cycle over the integers comes to the numbers of the emulator's machine after its cycle, and is
refused exactly when the cycle faults. -/
theorem run_cycle (e : Emulator) :
    (cycle e.source.next.1.toNat).run e.machine.numbers =
      match e.advance.result with
      | .ok () => .ok () e.advance.emulator.machine.numbers
      | .error f => .error (.fault f) e.advance.emulator.machine.numbers := by
  have executed := run_execute e.ready.machine e.machine.currentWord.toNat
    e.ready.machine.keypad.reading e.machine.pc.toNat (ofInt_toNat e.ready.source.next.1)
  simp only [cycle, EStateM.run_bind, EStateM.run_get, run_fetch, run_tickTimers,
    Machine.numbers_pc, Machine.numbers_held]
  refine executed.trans ?_
  rw [Emulator.advance, Emulator.complete]
  cases e.ready.machine.execute e.machine.currentWord.toNat e.ready.machine.keypad.reading
    e.ready.source e.machine.pc.toNat with
  | error f => rfl
  | ok executed => rfl

end IntMachine

end Chip8
