import Chip8.Proofs.Emulator.Schedule
import Chip8.Proofs.Machine.Inputs

/-!
# What a program sees of its inputs

Two emulators whose machines differ in their keypads alone go through the same cycles for as long as
no word asks for an input: the same words, the same machine but for the keypad, the same counts and
the same fault. Their random sources, the events of their keypads and what else a host keeps beside
the machine may be anything.
-/

namespace Chip8

/-- The second machine is the first but for its keypad. -/
def Machine.Alike (m m' : Machine) : Prop := ∃ keypad, m' = m.withKeypad keypad

namespace Machine.Alike

variable {m m' : Machine}

theorem currentWord_eq (h : Alike m m') : m'.currentWord = m.currentWord := by
  obtain ⟨keypad, rfl⟩ := h
  exact m.currentWord_withKeypad keypad

theorem dirty_eq (h : Alike m m') : m'.framebuffer.dirty = m.framebuffer.dirty := by
  obtain ⟨keypad, rfl⟩ := h
  rfl

theorem clean (h : Alike m m') : Alike m.clean m'.clean := by
  obtain ⟨keypad, rfl⟩ := h
  exact ⟨keypad, m.clean_withKeypad keypad⟩

end Machine.Alike

namespace Emulator

/-- From two emulators, two others are reached that have alike machines and have counted the same
cycles and frames since. -/
structure InStep (e₁ e₂ r₁ r₂ : Emulator) : Prop where
  machine : r₁.machine.Alike r₂.machine
  cycles : ∃ count, r₁.cycles = e₁.cycles + count ∧ r₂.cycles = e₂.cycles + count
  frames : ∃ count, r₁.frames = e₁.frames + count ∧ r₂.frames = e₂.frames + count

namespace InStep

variable {e₁ e₂ r₁ r₂ q₁ q₂ : Emulator}

theorem start (alike : e₁.machine.Alike e₂.machine) : InStep e₁ e₂ e₁ e₂ :=
  ⟨alike, ⟨0, rfl, rfl⟩, ⟨0, rfl, rfl⟩⟩

/-- Whatever happens to the keypads, the machines stay alike. -/
theorem keyed (alike : e₁.machine.Alike e₂.machine) (keys₁ keys₂ : List Keypad.Event) :
    InStep e₁ e₂ (e₁.keyed keys₁) (e₂.keyed keys₂) := by
  obtain ⟨keypad, same⟩ := alike
  refine ⟨⟨(e₂.keyed keys₂).machine.keypad, ?_⟩, ⟨0, rfl, rfl⟩, ⟨0, rfl, rfl⟩⟩
  rw [Emulator.keyed, withKeypad, same]
  rfl

theorem trans (h : InStep e₁ e₂ r₁ r₂) (h' : InStep r₁ r₂ q₁ q₂) : InStep e₁ e₂ q₁ q₂ := by
  obtain ⟨cycles, cycles₁, cycles₂⟩ := h.cycles
  obtain ⟨cycles', cycles₁', cycles₂'⟩ := h'.cycles
  obtain ⟨frames, frames₁, frames₂⟩ := h.frames
  obtain ⟨frames', frames₁', frames₂'⟩ := h'.frames
  refine ⟨h'.machine, ⟨cycles + cycles', ?_, ?_⟩, ⟨frames + frames', ?_, ?_⟩⟩ <;> omega

end InStep

/-! ## One cycle -/

section

variable {e₁ e₂ : Emulator}

/-- A cycle whose word asks for no input has the same result on alike machines and leaves alike
machines. -/
theorem advance_alike (alike : e₁.machine.Alike e₂.machine)
    (unasked : ¬ e₁.machine.currentWord.AsksInput) :
    e₂.advance.result = e₁.advance.result ∧
      e₁.advance.emulator.machine.Alike e₂.advance.emulator.machine := by
  have word_eq := alike.currentWord_eq
  obtain ⟨keypad, same⟩ := alike
  have pc_eq : e₂.machine.pc = e₁.machine.pc := by
    rw [same]
    rfl
  have ready_eq : e₂.ready.machine = e₁.ready.machine.withKeypad keypad := by
    change e₂.machine.fetch.2.tickTimers = _
    rw [same]
    rfl
  have unasked' : ¬ Word.AsksInput (.ofInt 16 e₁.machine.currentWord.toNat) := by
    rwa [Word.ofInt_toNat]
  rw [advance, complete, advance, complete, word_eq, pc_eq]
  rcases e₁.ready.machine.execute_withKeypad keypad unasked' e₁.ready.machine.keypad.reading
    e₂.ready.machine.keypad.reading e₁.ready.source e₂.ready.source e₁.machine.pc.toNat with
    ⟨f, first, second⟩ | ⟨m, rest, rest', first, second⟩
  · rw [← ready_eq] at second
    rw [first, second]
    exact ⟨rfl, keypad, ready_eq⟩
  · rw [← ready_eq] at second
    rw [first, second]
    exact ⟨rfl, keypad, rfl⟩

theorem advance_inStep (alike : e₁.machine.Alike e₂.machine)
    (unasked : ¬ e₁.machine.currentWord.AsksInput) :
    InStep e₁ e₂ e₁.advance.emulator e₂.advance.emulator := by
  obtain ⟨result_eq, machine⟩ := advance_alike alike unasked
  refine ⟨machine, ?_, 0, e₁.frames_advance, e₂.frames_advance⟩
  cases ran : e₁.advance.result with
  | error f =>
    rw [ran] at result_eq
    exact ⟨0, e₁.cycles_advance_of_error ran, e₂.cycles_advance_of_error result_eq⟩
  | ok _ =>
    rw [ran] at result_eq
    exact ⟨1, e₁.cycles_advance_of_ok ran, e₂.cycles_advance_of_ok result_eq⟩

/-- A presentation of the same picture counts the same, unless a hook holds a key. -/
theorem present_inStep (quiet₁ : ∀ key, e₁.hook ≠ .press key) (quiet₂ : ∀ key, e₂.hook ≠ .press key)
    (alike : e₁.machine.Alike e₂.machine) : InStep e₁ e₂ e₁.present.2 e₂.present.2 := by
  refine ⟨?_, ⟨0, ?_, ?_⟩, _, e₁.frames_present, ?_⟩
  · rw [machine_present quiet₁, machine_present quiet₂]
    exact alike.clean
  · rw [e₁.rest_present]
    rfl
  · rw [e₂.rest_present]
    rfl
  · rw [e₂.frames_present, alike.dirty_eq]

/-- A cycle counts and presents the same on alike machines, whatever happened to the keypads
before. -/
theorem turn_inStep {t₁ t₂ : Turn} (quiet₁ : ∀ key, e₁.hook ≠ .press key)
    (quiet₂ : ∀ key, e₂.hook ≠ .press key) (alike : e₁.machine.Alike e₂.machine)
    (presenting : t₁.presenting = t₂.presenting) (unasked : ¬ e₁.machine.currentWord.AsksInput) :
    (e₂.turn t₂).result = (e₁.turn t₁).result ∧
      InStep e₁ e₂ (e₁.turn t₁).emulator (e₂.turn t₂).emulator := by
  have keyed := InStep.keyed alike t₁.keys t₂.keys
  have result_eq := (advance_alike keyed.machine unasked).1
  have advanced := keyed.trans (advance_inStep keyed.machine unasked)
  rw [turn, turn, result_cycle, result_cycle]
  refine ⟨result_eq, ?_⟩
  cases ran : (e₁.keyed t₁.keys).advance.result with
  | error f =>
    rw [ran] at result_eq
    rw [emulator_cycle_of_error _ _ ran, emulator_cycle_of_error _ _ result_eq]
    exact advanced
  | ok _ =>
    rw [ran] at result_eq
    rw [emulator_cycle_of_ok _ _ ran, emulator_cycle_of_ok _ _ result_eq, ← presenting]
    cases t₁.presenting with
    | false => exact advanced
    | true =>
      refine advanced.trans (present_inStep ?_ ?_ advanced.machine)
      · rw [hook_advance]
        exact quiet₁
      · rw [hook_advance]
        exact quiet₂

end

/-! ## Runs of cycles -/

section

variable {e₁ e₂ : Emulator} {s₁ s₂ : Schedule} {n : Nat}

theorem played_inStep (quiet₁ : ∀ key, e₁.hook ≠ .press key)
    (quiet₂ : ∀ key, e₂.hook ≠ .press key) (alike : e₁.machine.Alike e₂.machine)
    (presenting : ∀ k, (s₁ k).presenting = (s₂ k).presenting)
    (unasked : ∀ k < n, (e₁.played s₁ k).result = .ok () → ¬ (e₁.wordAt s₁ (k + 1)).AsksInput) :
    (e₂.played s₂ n).result = (e₁.played s₁ n).result ∧
      InStep e₁ e₂ (e₁.stateAt s₁ n) (e₂.stateAt s₂ n) := by
  induction n with
  | zero => exact ⟨rfl, .start alike⟩
  | succ n ih =>
    obtain ⟨result_eq, before⟩ := ih fun k lt => unasked k (Nat.lt_succ_of_lt lt)
    cases ran : (e₁.played s₁ n).result with
    | error f =>
      rw [ran] at result_eq
      rw [stateAt, stateAt, played_succ_of_error ran, played_succ_of_error result_eq]
      exact ⟨result_eq.trans ran.symm, before⟩
    | ok _ =>
      rw [ran] at result_eq
      have quiet₁' : ∀ key, (e₁.stateAt s₁ n).hook ≠ .press key := by rwa [hook_stateAt]
      have quiet₂' : ∀ key, (e₂.stateAt s₂ n).hook ≠ .press key := by rwa [hook_stateAt]
      obtain ⟨turned, after⟩ := turn_inStep quiet₁' quiet₂' before.machine (presenting n)
        (unasked n (Nat.lt_succ_self n) ran)
      rw [stateAt, stateAt, played_succ ran, played_succ result_eq]
      exact ⟨turned, before.trans after⟩

end

/-- Let two emulators differ in their keypads, their random sources and in what a host keeps beside
the machine, with hooks that leave the keypad alone, and let different things happen to their
keypads between cycles. As long as no word that the first one executes asks for an input, the second
one executes the same words, either both complete a cycle or both end with the same fault, and they
count the same cycles and frames and have the same machine but for the keypad. -/
theorem inputs_unseen (e₁ e₂ : Emulator) (s₁ s₂ : Schedule) (n : Nat)
    (quiet₁ : ∀ key, e₁.hook ≠ .press key) (quiet₂ : ∀ key, e₂.hook ≠ .press key)
    (alike : ∃ keypad, e₂.machine = { e₁.machine with keypad := keypad })
    (presenting : ∀ k, (s₁ k).presenting = (s₂ k).presenting)
    (unasked : ∀ k < n, (e₁.played s₁ k).result = .ok () → ¬ (e₁.wordAt s₁ (k + 1)).AsksInput) :
    ∀ k ≤ n, e₂.wordAt s₂ k = e₁.wordAt s₁ k ∧
      (e₂.played s₂ k).result = (e₁.played s₁ k).result ∧
      (∃ keypad,
        (e₂.stateAt s₂ k).machine = { (e₁.stateAt s₁ k).machine with keypad := keypad }) ∧
      (∃ count, (e₁.stateAt s₁ k).cycles = e₁.cycles + count ∧
        (e₂.stateAt s₂ k).cycles = e₂.cycles + count) ∧
      ∃ count, (e₁.stateAt s₁ k).frames = e₁.frames + count ∧
        (e₂.stateAt s₂ k).frames = e₂.frames + count := by
  have reached {k : Nat} (le : k ≤ n) := played_inStep (n := k) quiet₁ quiet₂ alike presenting
    fun j lt => unasked j (Nat.lt_of_lt_of_le lt le)
  intro k le
  obtain ⟨result_eq, inStep⟩ := reached le
  -- The word of a cycle stands in the machine before it.
  have before := (reached (Nat.le_trans (Nat.sub_le k 1) le)).2.machine
  exact ⟨before.currentWord_eq, result_eq, inStep.machine, inStep.cycles, inStep.frames⟩

/-- A program that draws a random byte it does not keep, clears the picture, calls a glyph up and
draws it, and then runs into a word without a meaning. -/
def heedless : List Byte := [0xC3, 0x00, 0x00, 0xE0, 0xF1, 0x29, 0xD1, 0x25, 0x00, 0x00]

/-- Another key held, another random source and other counts do not change what the program does. -/
theorem inputs_unseen_heedless :
    let e := running heedless
    let e' : Emulator := { e with
      machine := { e.machine with keypad := e.machine.keypad.press "a" }
      source := .ofScript [1, 2, 3], hook := .none, cycles := 40, frames := 2 }
    let s : Schedule := fun k => ⟨[.code k], k != 1⟩
    let s' : Schedule := fun k => ⟨[], k != 1⟩
    (e'.played s' 5).result = .error (.invalidOpcode 0 (some 8)) ∧
      (e'.stateAt s' 5).cycles = 44 ∧
      ∃ keypad, (e'.stateAt s' 5).machine = { (e.stateAt s 5).machine with keypad := keypad } := by
  intro e e' s s'
  have quiet : ∀ key, e.hook ≠ .press key := by
    intro key
    exact Hook.noConfusion
  have quiet' : ∀ key, e'.hook ≠ .press key := by
    intro key
    exact Hook.noConfusion
  have unasked : ∀ k < 5, (e.played s k).result = .ok () → ¬ (e.wordAt s (k + 1)).AsksInput := by
    intro k lt _
    revert k
    decide +kernel
  have failed : (e.played s 5).result = .error (.invalidOpcode 0 (some 8)) ∧
      (e.stateAt s 5).cycles = 4 := by decide +kernel
  obtain ⟨-, result_eq, machine, ⟨count, counted, counted'⟩, -⟩ :=
    inputs_unseen e e' s s' 5 quiet quiet' ⟨_, rfl⟩ (fun _ => rfl) unasked 5 (Nat.le_refl 5)
  refine ⟨result_eq.trans failed.1, ?_, machine⟩
  have start : e.cycles = 0 := rfl
  have start' : e'.cycles = 40 := rfl
  omega

end Emulator

end Chip8
