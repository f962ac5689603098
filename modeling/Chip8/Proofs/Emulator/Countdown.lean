import Mathlib.Data.Nat.Find
import Chip8.Proofs.Emulator.Schedule

/-!
# Timers count cycles

Each cycle counts both timers down, whatever it executes, and only `F?15` and `F?18` load them. So a
timer tells how many cycles ago it was loaded, and `F?07` reads what the delay timer tells.
-/

namespace Chip8

/-- The timers of a machine. -/
inductive Countdown where
  | delay
  | sound
  deriving DecidableEq, Repr

/-- The low byte of the words that load a timer. -/
def Countdown.loadingByte : Countdown → Byte
  | delay => 0x15
  | sound => 0x18

namespace Word

/-- The word loads a timer from `VX`: `F?15` or `F?18`. -/
def Loads (w : Word) (c : Countdown) : Prop := w.family = 0xF ∧ w.nn = c.loadingByte

/-- The word reads the delay timer into `VX`: `F?07`. -/
def ReadsDelay (w : Word) : Prop := w.family = 0xF ∧ w.nn = 0x07

instance (w : Word) (c : Countdown) : Decidable (w.Loads c) := inferInstanceAs (Decidable (_ ∧ _))

end Word

namespace Machine

/-- One of the timers. -/
def countdown (m : Machine) : Countdown → Timer
  | .delay => m.delay
  | .sound => m.sound

theorem countdown_tickTimers (m : Machine) (c : Countdown) :
    m.tickTimers.countdown c = (m.countdown c).tick := by
  cases c <;> rfl

variable {m m' : Machine} {reading : Option Int} {source source' : Random.Source}
  {i : Instruction} {w : Word}

/-- An instruction leaves a timer alone, unless its word is the one that loads it. -/
theorem countdown_of_perform (h : m.perform reading source i = some (m', source'))
    (encoded : w.Encodes i) (c : Countdown) :
    m'.countdown c = if w.Loads c then ⟨m.register w.x⟩ else m.countdown c := by
  by_cases loads : w.Loads c
  · rw [if_pos loads]
    obtain ⟨family, low⟩ := loads
    cases c with
    | delay =>
      obtain rfl : i = .setDelay w.x := encoded.unique ⟨family, low, rfl⟩
      cases h
      rfl
    | sound =>
      obtain rfl : i = .setSound w.x := encoded.unique ⟨family, low, rfl⟩
      cases h
      rfl
  · rw [if_neg loads]
    cases c with
    | delay => exact delay_of_perform h encoded loads
    | sound => exact sound_of_perform h encoded loads

theorem register_of_readsDelay (h : m.perform reading source i = some (m', source'))
    (encoded : w.Encodes i) (reads : w.ReadsDelay) : m'.register w.x = m.delay.value := by
  obtain ⟨family, low⟩ := reads
  obtain rfl : i = .readDelay w.x := encoded.unique ⟨family, low, rfl⟩
  cases h
  rw [register_setRegister, if_pos rfl]

end Machine

namespace Emulator

/-! ## One cycle -/

section

variable {e : Emulator} {t : Turn}

/-- A cycle counts a timer down, unless its word loads it. -/
theorem countdown_turn (completed : (e.turn t).result = .ok ()) (c : Countdown) :
    (e.turn t).emulator.machine.countdown c =
      if e.machine.currentWord.Loads c then ⟨e.machine.register e.machine.currentWord.x⟩
      else (e.machine.countdown c).tick := by
  obtain ⟨i, m, source, dirty, keypad, encoded, performed, after⟩ := exists_of_turn completed
  have performed_eq := Machine.countdown_of_perform performed encoded c
  rw [Machine.countdown_tickTimers] at performed_eq
  rw [after]
  cases c <;> exact performed_eq

/-- A word that reads the delay timer finds it counted down. -/
theorem register_turn_of_readsDelay (completed : (e.turn t).result = .ok ())
    (reads : e.machine.currentWord.ReadsDelay) :
    (e.turn t).emulator.machine.register e.machine.currentWord.x = e.machine.delay.tick.value := by
  obtain ⟨i, m, source, dirty, keypad, encoded, performed, after⟩ := exists_of_turn completed
  rw [after]
  exact Machine.register_of_readsDelay performed encoded reads

theorem cycles_turn (completed : (e.turn t).result = .ok ()) :
    (e.turn t).emulator.cycles = e.cycles + 1 := by
  rw [turn, result_cycle] at completed
  have counted := cycles_advance_of_ok (e.keyed t.keys) completed
  rw [turn, emulator_cycle_of_ok _ _ completed]
  cases t.presenting with
  | false => exact counted
  | true =>
    rw [if_pos rfl, rest_present]
    exact counted

end

/-! ## Runs of cycles -/

/-- The last of the first `n` cycles that loaded a timer, zero if none did. -/
def lastLoad (e : Emulator) (s : Schedule) (c : Countdown) (n : Nat) : Nat :=
  Nat.findGreatest (fun j => (e.wordAt s j).Loads c) n

/-- The value that a timer was loaded with in a cycle, and the value at the start for cycle zero. -/
def loadedIn (e : Emulator) (s : Schedule) (c : Countdown) (j : Nat) : Nat :=
  if j = 0 then (e.machine.countdown c).value.toNat
  else ((e.stateAt s (j - 1)).machine.register (e.wordAt s j).x).toNat

/-- What is left after cycle `n` of a timer that was last loaded in cycle `j`. -/
def leftAfter (e : Emulator) (s : Schedule) (c : Countdown) (j n : Nat) : Nat :=
  e.loadedIn s c j - (n - j)

variable {e : Emulator} {s : Schedule} {n : Nat}

/-- A timer holds what is left of its last load. -/
theorem countdown_stateAt (completed : (e.played s n).result = .ok ()) (c : Countdown) :
    ((e.stateAt s n).machine.countdown c).value.toNat = e.leftAfter s c (e.lastLoad s c n) n := by
  induction n with
  | zero => rfl
  | succ n ih =>
    have before := ih (completed_of_succ completed)
    obtain ⟨last, after⟩ := last_turn completed
    rw [after, countdown_turn last c, ← wordAt_succ]
    by_cases loads : (e.wordAt s (n + 1)).Loads c
    · have here : e.lastLoad s c (n + 1) = n + 1 := Nat.findGreatest_eq loads
      rw [if_pos loads, here, leftAfter, Nat.sub_self, Nat.sub_zero]
      rfl
    · have earlier : e.lastLoad s c (n + 1) = e.lastLoad s c n := Nat.findGreatest_of_not loads
      have le : e.lastLoad s c n ≤ n := Nat.findGreatest_le n
      rw [if_neg loads, Timer.toNat_tick, before, earlier, leftAfter, leftAfter]
      omega

theorem cycles_stateAt (completed : (e.played s n).result = .ok ()) :
    (e.stateAt s n).cycles = e.cycles + n := by
  induction n with
  | zero => rfl
  | succ n ih =>
    obtain ⟨last, after⟩ := last_turn completed
    rw [after, cycles_turn last, ih (completed_of_succ completed), Nat.add_assoc]

/-- After a run without a fault, each timer holds what it was last loaded with, or held at the
start, less the number of cycles since then and not below zero. The sound timer is active exactly
while that is positive, and a cycle that reads the delay timer finds what the same count gives for
it. Every cycle counts, also one that waits for a key. -/
theorem timers_count (e : Emulator) (s : Schedule) (n : Nat)
    (completed : (e.played s n).result = .ok ()) :
    (e.stateAt s n).cycles = e.cycles + n ∧
      (∀ c, ((e.stateAt s n).machine.countdown c).value.toNat =
        e.leftAfter s c (e.lastLoad s c n) n) ∧
      ((e.stateAt s n).machine.sound.isActive = true ↔
        0 < e.leftAfter s .sound (e.lastLoad s .sound n) n) ∧
      ∀ m, 0 < m → m ≤ n → (e.wordAt s m).ReadsDelay →
        ((e.stateAt s m).machine.register (e.wordAt s m).x).toNat =
          e.leftAfter s .delay (e.lastLoad s .delay (m - 1)) m := by
  refine ⟨cycles_stateAt completed, countdown_stateAt completed, ?_, ?_⟩
  · have value := countdown_stateAt completed .sound
    rw [← value, Timer.isActive, bne_iff_ne, Nat.pos_iff_ne_zero, ne_eq, ne_eq,
      ← BitVec.toNat_inj]
    rfl
  · intro m pos le reads
    obtain ⟨m, rfl⟩ : ∃ k, m = k + 1 := Nat.exists_eq_succ_of_ne_zero (Nat.ne_of_gt pos)
    have reached := completed_of_le le completed
    obtain ⟨last, after⟩ := last_turn reached
    have value : (e.stateAt s m).machine.delay.value.toNat =
        e.leftAfter s .delay (e.lastLoad s .delay m) m :=
      countdown_stateAt (completed_of_succ reached) .delay
    have le : e.lastLoad s .delay m ≤ m := Nat.findGreatest_le m
    rw [after, wordAt_succ, register_turn_of_readsDelay last reads, Timer.toNat_tick, value,
      Nat.add_sub_cancel, leftAfter, leftAfter]
    omega

/-- Both timers are loaded with nine, a key is waited for, and the delay timer is read. -/
def timing : List Byte :=
  [0x60, 0x09, 0xF0, 0x15, 0xF0, 0x18, 0xF1, 0x0A, 0xF2, 0x07]

/-- The wait takes three cycles, and the delay timer is read five cycles after it was loaded. -/
theorem timers_count_timing :
    let s : Schedule := fun k => ⟨if k = 5 then [.down "a"] else [], true⟩
    let e := (running timing).stateAt s 7
    e.cycles = 7 ∧ e.machine.delay.value.toNat = 4 ∧ e.machine.sound.isActive = true ∧
      (e.machine.register 2).toNat = 4 := by
  intro s e
  have completed : ((running timing).played s 7).result = .ok () := by decide +kernel
  have reads : ((running timing).wordAt s 7).ReadsDelay := ⟨by decide +kernel, by decide +kernel⟩
  have target : ((running timing).wordAt s 7).x = 2 := by decide +kernel
  have left : (running timing).leftAfter s .delay ((running timing).lastLoad s .delay 7) 7 = 4 ∧
      (running timing).leftAfter s .delay ((running timing).lastLoad s .delay 6) 7 = 4 ∧
      (running timing).leftAfter s .sound ((running timing).lastLoad s .sound 7) 7 = 5 := by
    decide +kernel
  obtain ⟨cycles, values, active, read⟩ := timers_count (running timing) s 7 completed
  have found := read 7 (by decide) (by decide) reads
  rw [target, left.2.1] at found
  exact ⟨cycles, (values .delay).trans left.1, active.mpr (left.2.2 ▸ by decide), found⟩

end Emulator

end Chip8
