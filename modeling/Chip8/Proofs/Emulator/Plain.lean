import Chip8.Proofs.Emulator.Cycle
import Chip8.Proofs.Machine.Mark

/-!
# Plain cycles

A plain run executes cycles and never looks at the picture. What a cycle computes depends only on
the bare emulator, the one without the mark of the picture, the hook, the count of frames, requests
to stop and the notes taken; so emulators that agree on the rest go through the same cycles.
-/

namespace Chip8.Emulator

variable (e : Emulator)

/-- Cycles without presentation, up to a number of them or the first fault. -/
def plain : Nat → Outcome Unit
  | 0 => ⟨.ok (), e⟩
  | count + 1 => (plain count).andThen fun _ p => p.cycle false

/-- The emulator without what serves its presentation. -/
def bare : Emulator :=
  { e with
    machine := e.machine.clean
    hook := .none
    frames := 0
    stopRequested := false
    redraws := #[]
    journal := #[] }

/-- Whether the next cycle would mark a clean picture. -/
def marks : Bool :=
  (({ e with machine := e.machine.clean } : Emulator).cycle
    false).emulator.machine.framebuffer.dirty

/-! ## What a cycle depends on -/

theorem bare_advance_eq :
    e.bare.advance =
      match e.bare.ready.machine.execute e.machine.currentWord.toNat
        e.ready.machine.keypad.reading e.ready.source e.machine.pc.toNat with
      | .error fault => ⟨.error fault, e.bare.ready⟩
      | .ok (machine, source) =>
        ⟨.ok (), { e.bare.ready with
          machine := machine, source := source, cycles := e.cycles + 1 }.note
            (e.bare.ready.machine.executionEvents e.machine.currentWord)⟩ :=
  rfl

/-- A cycle has the result and the bare outcome of the same cycle on the bare emulator, and the
picture is marked afterwards if it was before or that cycle marks it. -/
theorem advance_bare :
    e.advance.result = e.bare.advance.result ∧
      e.advance.emulator.bare = e.bare.advance.emulator.bare ∧
      e.advance.emulator.machine.framebuffer.dirty =
        (e.bare.advance.emulator.machine.framebuffer.dirty || e.machine.framebuffer.dirty) := by
  have executed : e.ready.machine.execute e.machine.currentWord.toNat
      e.ready.machine.keypad.reading e.ready.source e.machine.pc.toNat = _ :=
    e.bare.ready.machine.execute_markIf e.machine.framebuffer.dirty e.machine.currentWord.toNat
      e.ready.machine.keypad.reading e.ready.source e.machine.pc.toNat
  rw [bare_advance_eq, advance, complete, executed]
  cases e.bare.ready.machine.execute e.machine.currentWord.toNat
      e.ready.machine.keypad.reading e.ready.source e.machine.pc.toNat with
  | error f => exact ⟨rfl, rfl, rfl⟩
  | ok result => exact ⟨rfl, rfl, rfl⟩

theorem marks_eq : e.marks = e.bare.advance.emulator.machine.framebuffer.dirty := by
  have clean_bare : ({ e with machine := e.machine.clean } : Emulator).bare = e.bare := rfl
  rw [marks, cycle_false, (advance_bare _).2.2, clean_bare]
  exact Bool.or_false _

theorem dirty_advance :
    e.advance.emulator.machine.framebuffer.dirty = (e.marks || e.machine.framebuffer.dirty) := by
  rw [marks_eq, e.advance_bare.2.2]

/-! ## Plain runs -/

theorem plain_succ_of_ok {count : Nat} (h : (e.plain count).result = .ok ()) :
    e.plain (count + 1) = (e.plain count).emulator.cycle false := by
  rw [plain, Outcome.andThen, h]

end Chip8.Emulator
