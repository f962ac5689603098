import Chip8.Proofs.Emulator.Footprint
import Chip8.Proofs.Emulator.Repeat

/-!
# Waiting for a key

The word `F?0A` waits by going back to itself. Without a held key each cycle leaves an emulator that
waits again, with timers that have run on and a picture that was shown if it was marked; with one,
the next cycle stores its code and goes on.
-/

namespace Chip8

namespace Machine

variable (m : Machine) (x : Nibble) (source : Random.Source)

/-- Going back after the fetch leaves the program counter where it was. -/
theorem rewind_fetch : m.fetch.2.tickTimers.rewind = m.tickTimers := by
  have back : m.pc + 2 - 2 = m.pc := by bv_omega
  exact congrArg (fun pc => { m.tickTimers with pc := pc }) back

theorem perform_waitKey_none (h : m.keypad.held = none) :
    m.fetch.2.tickTimers.perform m.keypad.reading source (.waitKey x) =
      some (m.tickTimers, source) := by
  have reading : m.keypad.reading = none := by
    simp only [Keypad.reading, Keypad.heldCode, h, Option.map_none]
  rw [reading, ← m.rewind_fetch]
  rfl

theorem perform_waitKey_some {key : HeldKey} (h : m.keypad.held = some key) :
    m.fetch.2.tickTimers.perform m.keypad.reading source (.waitKey x) =
      some (m.fetch.2.tickTimers.setRegister x (.ofInt 8 key.code.toNat), source) := by
  have reading : m.keypad.reading = some (key.code.toNat : Int) := by
    simp only [Keypad.reading, Keypad.heldCode, h, Option.map_some]
  rw [reading]
  rfl

end Machine

namespace Emulator

variable {e w v p : Emulator} {x : Nibble} {m n : Nat}

/-- The emulator waits for a key: the word at its program counter is `Fx0A`, no key is held and
there is no hook that could hold one. -/
structure Waits (e : Emulator) (x : Nibble) : Prop where
  word : e.machine.currentWord = Word.ofDigits 0xF x 0x0 0xA
  free : e.machine.keypad.held = none
  silent : e.hook = .none

/-- The emulator `w` comes from `e` by `n` cycles of waiting: timers have counted down, cycles are
counted, and a picture that was marked has been shown once. -/
structure Waited (e w : Emulator) (n : Nat) : Prop where
  machine_eq : w.machine = { e.machine with
    delay := w.machine.delay
    sound := w.machine.sound
    framebuffer := w.machine.framebuffer }
  framebuffer_eq : w.machine.framebuffer = { e.machine.framebuffer with
    dirty := if n = 0 then e.machine.framebuffer.dirty else false }
  delay_eq : w.machine.delay.value.toNat = e.machine.delay.value.toNat - n
  sound_eq : w.machine.sound.value.toNat = e.machine.sound.value.toNat - n
  cycles_eq : w.cycles = e.cycles + n
  frames_eq : w.frames = e.frames + if n ≠ 0 ∧ e.machine.framebuffer.dirty = true then 1 else 0
  rest_eq : w = { e with
    machine := w.machine
    cycles := w.cycles
    frames := w.frames
    journal := w.journal }

/-- The next cycle of `p` gives `VX` the code of a key and goes on with the word after the one that
`e` waits at. Besides these, only timers and the mark of the picture change in the machine. -/
def Resumes (e p : Emulator) (x : Nibble) (code : Int) : Prop :=
  ∃ r, p.cycle true = ⟨.ok (), r⟩ ∧
    ((r.machine.register x).toNat : Int) = code ∧
    r.machine.pc.toNat = (e.machine.pc.toNat + 2) % 4096 ∧
    r.machine = { p.machine with
      registers := (p.machine.setRegister x (.ofInt 8 code)).registers
      pc := p.machine.pc + 2
      delay := p.machine.delay.tick
      sound := p.machine.sound.tick
      framebuffer := p.machine.framebuffer.clean }

/-! ## One cycle -/

/-- Without a hook, a presentation takes the mark of the picture and counts a frame for it. -/
theorem present_of_silent (silent : e.hook = .none) :
    e.present.2 = { e with
      machine := e.machine.clean
      frames := e.frames + if e.machine.framebuffer.dirty then 1 else 0 } := by
  rw [present]
  cases marked : e.machine.framebuffer.dirty with
  | true =>
    have unhooked (r : Emulator) : e.hook.act r = r := by
      rw [silent]
      rfl
    exact unhooked _
  | false =>
    rw [Machine.clean_of_not_dirty marked]
    rfl

/-- A cycle whose word encodes an instruction that is performed completes with its effect, and with
the presentation of the picture. -/
theorem cycle_of_perform {i : Instruction} {m : Machine} {source : Random.Source}
    (encoded : e.machine.currentWord.Encodes i) (silent : e.hook = .none)
    (performed : e.machine.fetch.2.tickTimers.perform e.machine.keypad.reading e.source i =
      some (m, source)) :
    ∃ journal, e.cycle true = ⟨.ok (), { e with
      machine := m.clean
      source := source
      cycles := e.cycles + 1
      frames := e.frames + if m.framebuffer.dirty then 1 else 0
      journal := journal }⟩ := by
  have executed : e.ready.machine.execute e.machine.currentWord.toNat
      e.ready.machine.keypad.reading e.ready.source e.machine.pc.toNat = .ok (m, source) :=
    Machine.execute_of_encodes e.machine.pc.toNat encoded performed
  have advanced : ∃ journal, e.advance = ⟨.ok (), { e with
      machine := m, source := source, cycles := e.cycles + 1, journal := journal }⟩ := by
    rw [advance, complete, executed]
    exact ⟨_, rfl⟩
  obtain ⟨journal, advanced⟩ := advanced
  refine ⟨journal, ?_⟩
  rw [cycle, advanced, Outcome.andThen_ok]
  exact congrArg (Outcome.mk (.ok ())) (present_of_silent silent)

theorem encodes_waitKey (x : Nibble) : (Word.ofDigits 0xF x 0x0 0xA).Encodes (.waitKey x) := by
  simp [Word.Encodes]

/-- A cycle of waiting completes. -/
theorem Waits.exists_cycle (waits : e.Waits x) :
    ∃ w, e.cycle true = ⟨.ok (), w⟩ ∧ Waited e w 1 := by
  have encoded : e.machine.currentWord.Encodes (.waitKey x) := by
    rw [waits.word]
    exact encodes_waitKey x
  obtain ⟨journal, cycled⟩ := cycle_of_perform encoded waits.silent
    (e.machine.perform_waitKey_none x e.source waits.free)
  have same : e.machine.tickTimers.framebuffer = e.machine.framebuffer := rfl
  refine ⟨_, cycled, rfl, rfl, e.machine.delay.toNat_tick, e.machine.sound.toNat_tick, rfl, ?_, rfl⟩
  simp [same]

/-- A cycle with a held key stores its code. -/
theorem resumes_of_held {key : HeldKey}
    (word : p.machine.currentWord = Word.ofDigits 0xF x 0x0 0xA) (silent : p.hook = .none)
    (held : p.machine.keypad.held = some key) (same : p.machine.pc = e.machine.pc) :
    e.Resumes p x key.code.toNat := by
  have encoded : p.machine.currentWord.Encodes (.waitKey x) := by
    rw [word]
    exact encodes_waitKey x
  obtain ⟨journal, cycled⟩ := cycle_of_perform encoded silent
    (p.machine.perform_waitKey_some x p.source held)
  refine ⟨_, cycled, ?_, ?_, rfl⟩
  · have stored : (p.machine.fetch.2.tickTimers.setRegister x (.ofInt 8 key.code.toNat)).register x =
        .ofInt 8 key.code.toNat := by
      rw [Machine.register_setRegister, if_pos rfl]
    have small := key.code.isLt
    refine (congrArg (fun b : Byte => (b.toNat : Int)) stored).trans ?_
    rw [BitVec.toNat_ofInt]
    omega
  · have next : (p.machine.pc + 2).toNat = (p.machine.pc.toNat + 2) % 4096 := by bv_omega
    rw [← same, ← next]
    rfl

/-! ## Repeated cycles -/

namespace Waited

theorem refl (e : Emulator) : Waited e e 0 := by
  refine ⟨rfl, rfl, rfl, rfl, rfl, ?_, rfl⟩
  simp

theorem trans (first : Waited e w m) (second : Waited w v n) : Waited e v (m + n) := by
  have delay := second.delay_eq
  have sound := second.sound_eq
  have cycles := second.cycles_eq
  have frames := second.frames_eq
  rw [first.delay_eq] at delay
  rw [first.sound_eq] at sound
  rw [first.cycles_eq] at cycles
  rw [first.frames_eq, first.framebuffer_eq] at frames
  refine ⟨?_, ?_, by omega, by omega, by omega, ?_, ?_⟩
  · rw [second.machine_eq, first.machine_eq]
  · rw [second.framebuffer_eq, first.framebuffer_eq]
    by_cases hm : m = 0 <;> by_cases hn : n = 0 <;> simp [hm, hn]
  · rw [frames]
    by_cases hm : m = 0 <;> by_cases hn : n = 0 <;> simp [hm, hn]
  · rw [second.rest_eq, first.rest_eq]

/-- What waited goes on waiting. -/
theorem waits (h : Waited e w n) (waits : e.Waits x) : w.Waits x := by
  refine ⟨?_, ?_, ?_⟩
  · rw [h.machine_eq]
    exact waits.word
  · rw [h.machine_eq]
    exact waits.free
  · rw [h.rest_eq]
    exact waits.silent

theorem pc_eq (h : Waited e w n) : w.machine.pc = e.machine.pc := by
  rw [h.machine_eq]

theorem keypad_eq (h : Waited e w n) : w.machine.keypad = e.machine.keypad := by
  rw [h.machine_eq]

end Waited

/-- Without a held key, any number of cycles is spent waiting. -/
theorem Waits.exists_repeated (waits : e.Waits x) (n : Nat) :
    ∃ w, repeated (cycle · true) n e = ⟨.ok (), w⟩ ∧ Waited e w n := by
  induction n generalizing e with
  | zero => exact ⟨e, rfl, .refl e⟩
  | succ n ih =>
    obtain ⟨w, cycled, once⟩ := waits.exists_cycle
    obtain ⟨v, rest, more⟩ := ih (once.waits waits)
    refine ⟨v, (repeated_succ_of_ok cycled n).trans rest, ?_⟩
    rw [Nat.add_comm]
    exact once.trans more

/-! ## Keys -/

/-- A held key ends the wait, whatever way it came to be held. -/
theorem Waits.resumes (waits : w.Waits x) (same : w.machine.pc = e.machine.pc) (keypad : Keypad)
    (key : HeldKey) (held : keypad.held = some key) :
    e.Resumes (w.withKeypad keypad) x key.code.toNat :=
  resumes_of_held waits.word waits.silent held same

theorem pressCode_eq {code : Int} (h : 0 ≤ code ∧ code ≤ 15) :
    w.pressCode code = .ok (w.withKeypad
      { w.machine.keypad with held := some ⟨.ofInt 4 code, none⟩ }) := by
  rw [pressCode, Keypad.pressCode, if_pos h]
  rfl

/-- A host key without a code leaves no key held, as it was. -/
theorem Waits.press_eq (waits : w.Waits x) {key : String}
    (h : w.machine.keypad.keyMap.codeOf? key = none) : w.press key = w := by
  rw [KeyMap.codeOf?, Option.map_eq_none_iff] at h
  have released : w.machine.keypad.press key = w.machine.keypad := by
    rw [Keypad.press, h, Option.map_none, ← waits.free]
  rw [press, released]
  rfl

/-- While no key is held, `Fx0A` is executed again and again: any number of cycles completes, counts
down the timers, shows a picture that was marked and changes nothing else. After them, holding a key
by its code or by a host key that has one makes the next cycle store that code in `VX` and go on. A
host key without a code changes nothing: the cycles after it are those without it. -/
theorem keyWait (e : Emulator) (x : Nibble) (waits : e.Waits x) (n : Nat) :
    ∃ w, repeated (cycle · true) n e = ⟨.ok (), w⟩ ∧ Waited e w n ∧
      (∀ code : Int, 0 ≤ code → code ≤ 15 →
        ∃ p, w.pressCode code = .ok p ∧ e.Resumes p x code) ∧
      (∀ key code, e.machine.keypad.keyMap.codeOf? key = some code →
        e.Resumes (w.press key) x code.toNat) ∧
      ∀ key, e.machine.keypad.keyMap.codeOf? key = none →
        ∀ k, repeated (cycle · true) k (w.press key) = repeated (cycle · true) (n + k) e := by
  obtain ⟨w, ran, waited⟩ := waits.exists_repeated n
  have still := waited.waits waits
  refine ⟨w, ran, waited, ?_, ?_, ?_⟩
  · intro code low high
    have digit : ((BitVec.ofInt 4 code).toNat : Int) = code := by
      rw [BitVec.toNat_ofInt]
      omega
    refine ⟨_, pressCode_eq ⟨low, high⟩, ?_⟩
    have resumed := still.resumes waited.pc_eq
      { w.machine.keypad with held := some ⟨.ofInt 4 code, none⟩ } _ rfl
    rwa [digit] at resumed
  · intro key code translated
    rw [← waited.keypad_eq, KeyMap.codeOf?, Option.map_eq_some_iff] at translated
    obtain ⟨⟨host, code'⟩, found, rfl⟩ := translated
    apply still.resumes waited.pc_eq _ ⟨code', some host⟩
    rw [Keypad.press, found]
    rfl
  · intro key untranslated k
    rw [← waited.keypad_eq] at untranslated
    rw [still.press_eq untranslated, repeated_add, ran, Outcome.andThen_ok]

/-- An emulator that waits at the last address, so that the word it waits at goes round to the first
one, with a running timer and a picture to be shown. -/
def waitingAtTop : Emulator :=
  { clearing with
    hook := .none
    machine := { clearing.machine with
      memory := clearingMemory.writeBlock 0xFFF [0xF3, 0x0A]
      pc := 0xFFF
      delay := ⟨3⟩
      framebuffer := { clearing.machine.framebuffer with dirty := true } } }

/-- Five cycles later the timer has run down and one frame was shown; a key that means nothing does
not end the wait, and one that means `7` does. -/
theorem keyWait_atTop :
    waitingAtTop.Waits 0x3 ∧ ∃ w, repeated (cycle · true) 5 waitingAtTop = ⟨.ok (), w⟩ ∧
      w.machine.delay.value.toNat = 0 ∧ w.frames = 1 ∧
      repeated (cycle · true) 1 (w.press "ß") = repeated (cycle · true) 6 waitingAtTop ∧
      ∃ r, (w.press "7").cycle true = ⟨.ok (), r⟩ ∧ ((r.machine.register 0x3).toNat : Int) = 7 ∧
        r.machine.pc.toNat = 1 := by
  have waits : waitingAtTop.Waits 0x3 := ⟨by decide +kernel, rfl, rfl⟩
  obtain ⟨w, ran, waited, -, translated, untranslated⟩ := keyWait waitingAtTop 0x3 waits 5
  obtain ⟨r, cycled, stored, next, -⟩ := translated "7" 7 (by decide)
  refine ⟨waits, w, ran, waited.delay_eq, waited.frames_eq, ?_, r, cycled, stored, next⟩
  exact untranslated "ß" (by decide) 1

end Emulator

end Chip8
