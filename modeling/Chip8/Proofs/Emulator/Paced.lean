import Chip8.Emulator.Paced
import Chip8.Proofs.Emulator.Plain

/-!
# Paced runs compute like plain runs

Whatever the clock says, a paced run is a plain run of the cycles it executes with presentations in
between. `Keeps` is the invariant of its loop: the bare emulators agree, and the picture is marked
or a frame has been counted exactly if the plain run has marked the picture.
-/

namespace Chip8.Emulator

/-! ## The loop -/

/-- How a paced run may end if its cycles keep a property of the emulator and the number of cycles:
with its last presentation, or with the fault of a cycle. -/
inductive Ends (kept : Nat → Emulator → Prop) : Outcome Nat → Prop
  | finished {r : Emulator} {count : Nat} (seconds : Float) (before : kept count r) :
    Ends kept (r.finishPaced count seconds)
  | faulted {r : Emulator} {count : Nat} {f : Fault} (presenting : Bool) (before : kept count r)
    (fault : (r.cycle presenting).result = .error f) :
    Ends kept ⟨.error f, (r.cycle presenting).emulator⟩

section

variable {σ : Type} {clock : Clock (StateM σ)} {seconds : Float} {decisions : Nat} {e : Emulator}
  {o : Outcome Nat} {t t' : σ} {kept : Nat → Emulator → Prop}

/-- What its cycles keep, a paced run keeps, whatever the clock reads. -/
theorem runPacedFrom_ends {periods : Periods} {pace : Pace}
    (step : ∀ count r presenting, kept count r → (r.cycle presenting).result = .ok () →
      kept (count + 1) (r.cycle presenting).emulator)
    (before : kept pace.executed e)
    (ran : (runPacedFrom clock periods seconds decisions pace e).run t = (some o, t')) :
    Ends kept o := by
  induction decisions generalizing pace e t with
  | zero => cases ran
  | succ decisions ih =>
    rw [runPacedFrom] at ran
    by_cases stopped : e.stopRequested = true
    · rw [if_pos stopped] at ran
      cases ran
      exact .finished seconds before
    · rw [if_neg stopped, StateT.run_bind] at ran
      rcases read : clock.now.run t with ⟨now, t₁⟩
      rw [read] at ran
      change StateT.run _ t₁ = _ at ran
      cases choice : pace.decide seconds now with
      | finish =>
        rw [choice] at ran
        cases ran
        exact .finished seconds before
      | sleep pause =>
        rw [choice] at ran
        exact ih before ran
      | cycle =>
        rw [choice] at ran
        cases cycled : (e.cycle (pace.frameDue now)).result with
        | error f =>
          simp only [cycled] at ran
          cases ran
          exact .faulted _ before cycled
        | ok _ =>
          simp only [cycled] at ran
          exact ih (step _ _ _ before cycled) ran

theorem runPaced_ends
    (step : ∀ count r presenting, kept count r → (r.cycle presenting).result = .ok () →
      kept (count + 1) (r.cycle presenting).emulator)
    (before : kept 0 { e with stopRequested := false })
    (ran : (e.runPaced clock seconds decisions).run t = (.ok (some o), t')) : Ends kept o := by
  rw [runPaced] at ran
  cases accepted : Periods.ofConfig e.config with
  | error refused =>
    rw [accepted] at ran
    cases ran
  | ok periods =>
    rw [accepted] at ran
    let loop := (runPacedFrom clock periods seconds decisions
      (.starting periods (clock.now.run t).1) { e with stopRequested := false }).run
        (clock.now.run t).2
    change ((.ok loop.1, loop.2) : Except ArgumentError (Option (Outcome Nat)) × σ) = _ at ran
    simp only [Prod.mk.injEq, Except.ok.injEq] at ran
    exact runPacedFrom_ends step before (Prod.ext ran.1 ran.2 : loop = (some o, t'))

end

/-! ## The invariant -/

/-- Presentation leaves the bare emulator alone, unless the hook acts on the keypad. -/
theorem bare_present {e : Emulator} (quiet : ∀ key, e.hook ≠ .press key) :
    e.present.2.bare = e.bare := by
  rw [present]
  split
  · cases hook : e.hook with
    | press key => exact absurd hook (quiet key)
    | _ => rfl
  · rfl

/-- The emulator `r` comes from `e` by `count` plain cycles and presentations in between. -/
structure Keeps (e r : Emulator) (count : Nat) : Prop where
  ran : (e.plain count).result = .ok ()
  bare_eq : r.bare = (e.plain count).emulator.bare
  hook_eq : r.hook = e.hook
  frames_le : e.frames ≤ r.frames
  shown : (r.machine.framebuffer.dirty = true ∨ e.frames < r.frames) ↔
    (e.plain count).emulator.machine.framebuffer.dirty = true

namespace Keeps

variable {e r : Emulator} {count : Nat}

/-- A run starts with no cycle executed; a request to stop does not matter. -/
theorem start (e : Emulator) (stop : Bool) : Keeps e { e with stopRequested := stop } 0 where
  ran := rfl
  bare_eq := rfl
  hook_eq := rfl
  frames_le := Nat.le_refl _
  shown := by simp [plain]

theorem present (quiet : ∀ key, e.hook ≠ .press key) (h : Keeps e r count) :
    Keeps e r.present.2 count where
  ran := h.ran
  bare_eq := by
    rw [bare_present (by rwa [h.hook_eq]), h.bare_eq]
  hook_eq := by rw [hook_present, h.hook_eq]
  frames_le := by
    have := h.frames_le
    rw [frames_present]
    omega
  shown := by
    have := h.frames_le
    rw [dirty_present, frames_present, ← h.shown]
    cases r.machine.framebuffer.dirty with
    | true => simp; omega
    | false => simp

/-- The cycle of the paced run has the result of the next plain cycle. -/
theorem result_advance (h : Keeps e r count) :
    r.advance.result = (e.plain count).emulator.advance.result := by
  rw [r.advance_bare.1, h.bare_eq, ← (e.plain count).emulator.advance_bare.1]

theorem bare_advance (h : Keeps e r count) :
    r.advance.emulator.bare = (e.plain count).emulator.advance.emulator.bare := by
  rw [r.advance_bare.2.1, h.bare_eq, ← (e.plain count).emulator.advance_bare.2.1]

theorem advance (h : Keeps e r count) (executed : r.advance.result = .ok ()) :
    Keeps e r.advance.emulator (count + 1) := by
  have next : e.plain (count + 1) = (e.plain count).emulator.advance := by
    rw [e.plain_succ_of_ok h.ran, cycle_false]
  have marks_eq : r.marks = (e.plain count).emulator.marks := by
    rw [r.marks_eq, h.bare_eq, (e.plain count).emulator.marks_eq]
  constructor
  · rw [next, ← h.result_advance, executed]
  · rw [next, h.bare_advance]
  · rw [hook_advance, h.hook_eq]
  · rw [frames_advance]
    exact h.frames_le
  · rw [next, dirty_advance, dirty_advance, frames_advance, marks_eq, Bool.or_eq_true,
      Bool.or_eq_true, or_assoc, h.shown]

theorem cycle (quiet : ∀ key, e.hook ≠ .press key) (h : Keeps e r count) (presenting : Bool)
    (executed : (r.cycle presenting).result = .ok ()) :
    Keeps e (r.cycle presenting).emulator (count + 1) := by
  rw [result_cycle] at executed
  rw [emulator_cycle_of_ok r presenting executed]
  cases presenting with
  | true => exact (h.advance executed).present quiet
  | false => exact h.advance executed

theorem clean_eq (h : Keeps e r count) :
    r.machine.clean = (e.plain count).emulator.machine.clean := by
  have same := congrArg machine h.bare_eq
  exact same

theorem source_eq (h : Keeps e r count) : r.source = (e.plain count).emulator.source := by
  have same := congrArg source h.bare_eq
  exact same

theorem cycles_eq (h : Keeps e r count) : r.cycles = (e.plain count).emulator.cycles := by
  have same := congrArg cycles h.bare_eq
  exact same

/-- The last presentation leaves the machine of the plain run, with the mark taken. -/
theorem machine_present (quiet : ∀ key, e.hook ≠ .press key) (h : Keeps e r count) :
    r.present.2.machine = (e.plain count).emulator.machine.clean := by
  rw [← (h.present quiet).clean_eq, Machine.clean_of_not_dirty r.dirty_present]

end Keeps

/-- A clock that reads off a list of times, and zero from its end on. -/
def scriptedClock : Clock (StateM (List Float)) where
  now := modifyGet fun times => (times.headD 0, times.tail)
  sleep _ := pure ()

/-- The memory whose first word clears the picture. -/
def clearingMemory : Memory where
  layout := .standard
  cells := (Array.replicate 4096 0).set 1 0xE0 (by rw [Array.size_replicate]; decide)
  size_cells := by
    have fits : Layout.standard.blankCells.size = (Array.replicate 4096 (0 : Byte)).size :=
      Span.size_splice_of_le _ 0x50 Font.rows.toArray (by
        rw [Array.size_replicate]
        decide)
    rw [fits, Array.size_set]

/-- An emulator that is about to clear its picture. -/
def clearing : Emulator where
  config := { rows_pos := by decide, cols_pos := by decide, cyclesPerSecond_pos := by decide,
              frameRate_pos := by decide, keyMap_known := by decide }
  layout := .standard
  machine := (Machine.powerOn clearingMemory (.dark .standard) (.released .hex)).jump 0
  origin := .silent
  source := .silent
  image := []
  hook := .record
  cycles := 0
  frames := 0
  stopRequested := false
  redraws := #[]
  journal := #[]

end Chip8.Emulator
