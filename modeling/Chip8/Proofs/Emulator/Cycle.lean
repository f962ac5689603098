import Chip8.Emulator.Cycle

/-!
# Parts of a cycle

What presentation and the cycle itself each change. A cycle that faults does not come to its
presentation, and presentation changes nothing that the cycle has computed.
-/

namespace Chip8.Emulator

variable (e : Emulator) (presenting : Bool)

/-! ## Presentation after a cycle -/

theorem result_cycle : (e.cycle presenting).result = e.advance.result := by
  rw [cycle]
  cases e.advance with
  | mk result emulator => cases result <;> rfl

theorem emulator_cycle_of_error {f : Fault} (h : e.advance.result = .error f) :
    (e.cycle presenting).emulator = e.advance.emulator := by
  rw [cycle]
  cases ran : e.advance with
  | mk result emulator =>
    rw [ran] at h
    obtain rfl : result = .error f := h
    rfl

theorem emulator_cycle_of_ok (h : e.advance.result = .ok ()) :
    (e.cycle presenting).emulator =
      if presenting then e.advance.emulator.present.2 else e.advance.emulator := by
  rw [cycle]
  cases ran : e.advance with
  | mk result emulator =>
    rw [ran] at h
    obtain rfl : result = .ok () := h
    rfl

theorem cycle_false : e.cycle false = e.advance := by
  rw [cycle]
  cases e.advance with
  | mk result emulator => cases result <;> rfl

/-! ## What presentation changes -/

@[simp]
theorem dirty_present : e.present.2.machine.framebuffer.dirty = false := by
  rw [present]
  split
  · cases e.hook <;> rfl
  · simp_all

@[simp]
theorem hook_present : e.present.2.hook = e.hook := by
  rw [present]
  split
  · cases e.hook <;> rfl
  · rfl

/-- Presentation counts a frame if it finds the picture marked. -/
theorem frames_present :
    e.present.2.frames = e.frames + if e.machine.framebuffer.dirty then 1 else 0 := by
  rw [present]
  split
  · cases e.hook <;> rfl
  · rfl

/-- Presentation changes machine, count of frames, requests to stop and noted redraws. -/
theorem rest_present :
    e.present.2 = { e with
      machine := e.present.2.machine
      frames := e.present.2.frames
      stopRequested := e.present.2.stopRequested
      redraws := e.present.2.redraws } := by
  rw [present]
  split
  · cases e.hook <;> rfl
  · rfl

/-! ## What a cycle leaves alone -/

/-- A cycle without presentation changes machine, random source, count of cycles and journal. -/
theorem rest_advance :
    e.advance.emulator = { e with
      machine := e.advance.emulator.machine
      source := e.advance.emulator.source
      cycles := e.advance.emulator.cycles
      journal := e.advance.emulator.journal } := by
  rw [advance, complete]
  split <;> rfl

@[simp]
theorem hook_advance : e.advance.emulator.hook = e.hook := by
  rw [advance, complete]
  split <;> rfl

@[simp]
theorem hook_cycle : (e.cycle presenting).emulator.hook = e.hook := by
  cases ran : e.advance.result with
  | error f => rw [e.emulator_cycle_of_error presenting ran, hook_advance]
  | ok _ =>
    rw [e.emulator_cycle_of_ok presenting ran]
    split
    · rw [hook_present, hook_advance]
    · rw [hook_advance]

@[simp]
theorem frames_advance : e.advance.emulator.frames = e.frames := by
  rw [advance, complete]
  split <;> rfl

theorem cycles_advance_of_ok (h : e.advance.result = .ok ()) :
    e.advance.emulator.cycles = e.cycles + 1 := by
  rw [advance, complete] at *
  split at h
  · contradiction
  · rfl

theorem cycles_advance_of_error {f : Fault} (h : e.advance.result = .error f) :
    e.advance.emulator.cycles = e.cycles := by
  rw [advance, complete] at *
  split at h
  · rfl
  · contradiction

end Chip8.Emulator
