import Chip8.Emulator.Callback
import Chip8.Proofs.Emulator.Repeat
import Chip8.Proofs.Emulator.Steady

/-!
# Cycles with a callback

A callback acts after the cycle that it is called in, and what it acts on is the keypad, the noted
redraws and the request to stop. That request is not seen by cycles: emulators that differ in it
alone go through the same cycles, and it is set after a cycle if it was before or the callback asked
to stop in that cycle.
-/

namespace Chip8

/-- An outcome without the request to stop. -/
def Outcome.unstopped (o : Outcome α) : Outcome α := ⟨o.result, o.emulator.unstopped⟩

namespace Emulator

variable (c : Callback) {e e₁ e₂ : Emulator}

/-! ## Hooks as callbacks -/

theorem act_callback (e : Emulator) (hook : Hook) : hook.callback.act e = hook.act e := by
  cases hook <;> rfl

theorem presentTo_callback (e : Emulator) : e.presentTo e.hook.callback = e.present.2 := by
  rw [presentTo, present]
  split
  · exact act_callback e.showing e.hook
  · rfl

theorem cycleWith_callback (e : Emulator) : e.cycleWith e.hook.callback = e.cycle true := by
  rw [cycleWith, cycle]
  rcases ran : e.advance with ⟨f | u, r⟩
  · rfl
  · have kept : r.hook = e.hook := by rw [← e.hook_advance, ran]
    rw [Outcome.andThen_ok, Outcome.andThen_ok, ← kept, presentTo_callback]
    rfl

theorem step_callback (e : Emulator) : e.step = e.stepWith e.hook.callback := by
  rw [step, stepWith, cycleWith_callback]

/-- A cycle leaves the hook alone, so it is the same callback in the next one. -/
theorem hook_of_cycle {r : Emulator} (cycled : e.cycle true = ⟨.ok (), r⟩) : r.hook = e.hook := by
  rw [← e.hook_cycle true, cycled]

theorem runFrom_callback (e : Emulator) (executed budget : Nat) :
    runFrom executed budget e = runFromWith e.hook.callback executed budget e := by
  induction budget generalizing e executed with
  | zero => rfl
  | succ budget ih =>
    rw [runFrom, runFromWith, cycleWith_callback]
    split
    · rfl
    · rcases cycled : e.cycle true with ⟨f | u, r⟩
      · rfl
      · rw [Outcome.andThen_ok, Outcome.andThen_ok, ih, hook_of_cycle cycled]

theorem runToward_callback (e : Emulator) (target : Address) (budget : Nat) :
    runToward target budget e = runTowardWith e.hook.callback target budget e := by
  induction budget generalizing e with
  | zero => rfl
  | succ budget ih =>
    rw [runToward, runTowardWith, cycleWith_callback]
    split
    · rfl
    · rcases cycled : e.cycle true with ⟨f | u, r⟩
      · rfl
      · rw [Outcome.andThen_ok, Outcome.andThen_ok, ih, hook_of_cycle cycled]

/-! ## What a callback leaves alone -/

/-- A view of the emulator that no reaction changes is not changed by a callback. -/
theorem view_presentTo {view : Emulator → α} (showing : ∀ e, view e.showing = view e)
    (kept : ∀ (reaction : Reaction) e, view (reaction.act e) = view e) (e : Emulator) :
    view (e.presentTo c) = view e := by
  rw [presentTo]
  split
  · rw [Callback.act, ← showing e]
    generalize c.reactionsTo e.showing = reactions
    generalize e.showing = s
    induction reactions generalizing s with
    | nil => rfl
    | cons reaction reactions ih => rw [List.foldl_cons, ih, kept]
  · rfl

theorem cycles_presentTo (e : Emulator) : (e.presentTo c).cycles = e.cycles := by
  refine view_presentTo c (fun _ => rfl) (fun reaction e => ?_) e
  cases reaction <;> rfl

/-! ## Cycles and steps -/

theorem cycleWith_of_error {f : Fault} (h : e.advance.result = .error f) :
    e.cycleWith c = ⟨.error f, e.advance.emulator⟩ := by
  rw [cycleWith, Outcome.andThen, h]

theorem cycleWith_of_ok (h : e.advance.result = .ok ()) :
    e.cycleWith c = ⟨.ok (), e.advance.emulator.presentTo c⟩ := by
  rw [cycleWith, Outcome.andThen, h]

theorem result_cycleWith (e : Emulator) : (e.cycleWith c).result = e.advance.result := by
  cases h : e.advance.result with
  | error f => rw [cycleWith_of_error c h]
  | ok u => rw [cycleWith_of_ok c h]

theorem cycles_cycleWith_of_ok {r : Emulator} (h : e.cycleWith c = ⟨.ok (), r⟩) :
    r.cycles = e.cycles + 1 := by
  have advanced : e.advance.result = .ok () := by rw [← result_cycleWith c, h]
  rw [cycleWith_of_ok c advanced] at h
  cases h
  rw [cycles_presentTo, e.cycles_advance_of_ok advanced]

theorem cycles_cycleWith_of_error {f : Fault} {r : Emulator} (h : e.cycleWith c = ⟨.error f, r⟩) :
    r.cycles = e.cycles := by
  have advanced : e.advance.result = .error f := by rw [← result_cycleWith c, h]
  rw [cycleWith_of_error c advanced] at h
  cases h
  exact e.cycles_advance_of_error advanced

/-- Repeated cycles count themselves. -/
theorem cycles_repeated {n : Nat} {s : Emulator} (h : repeated (cycleWith c) n e = ⟨.ok (), s⟩) :
    s.cycles = e.cycles + n := by
  induction n generalizing e with
  | zero =>
    cases h
    rfl
  | succ n ih =>
    rcases cycled : e.cycleWith c with ⟨f | u, r⟩
    · rw [repeated_succ_of_error cycled] at h
      cases h
    · rw [repeated_succ_of_ok cycled] at h
      have counted := cycles_cycleWith_of_ok c cycled
      have rest := ih h
      omega

/-- A step is a cycle, which tells the program counter besides. -/
theorem repeated_stepWith (n : Nat) (e : Emulator) :
    repeated (stepWith c) n e = repeated (cycleWith c) n e := by
  induction n generalizing e with
  | zero => rfl
  | succ n ih =>
    rw [repeated, repeated, stepWith, Outcome.andThen_assoc]
    congr
    funext _ r
    exact ih r

theorem stepWith_of_error {f : Fault} {r : Emulator} :
    e.stepWith c = ⟨.error f, r⟩ ↔ e.cycleWith c = ⟨.error f, r⟩ := by
  rw [stepWith]
  rcases e.cycleWith c with ⟨f' | u, s⟩ <;> simp

/-! ## Requests to stop -/

/-- The callback is called in the next cycle and asks to stop. -/
def AsksStop (e : Emulator) : Prop :=
  e.advance.result = .ok () ∧ e.advance.emulator.machine.framebuffer.dirty = true ∧
    Reaction.stop ∈ c.reactionsTo e.advance.emulator.showing

/-- The callback asks to stop in one of the steps to come. Steps are counted from one. -/
def StopsAt (e : Emulator) (j : Nat) : Prop :=
  ∃ k s, j = k + 1 ∧ repeated (stepWith c) k e = ⟨.ok (), s⟩ ∧ s.AsksStop c

theorem stopRequested_act (e : Emulator) :
    (c.act e).stopRequested = true ↔ e.stopRequested = true ∨ Reaction.stop ∈ c.reactionsTo e := by
  rw [Callback.act]
  generalize c.reactionsTo e = reactions
  induction reactions generalizing e with
  | nil => simp
  | cons reaction reactions ih =>
    rw [List.foldl_cons, ih, List.mem_cons]
    cases reaction <;> simp [Reaction.act, noteRedraw, press, release, withKeypad, stop]

theorem stopRequested_advance (e : Emulator) :
    e.advance.emulator.stopRequested = e.stopRequested := by
  rw [e.rest_advance]

/-- A stop is requested after a cycle if it was before or the callback asked in that cycle. -/
theorem stopRequested_cycleWith {r : Emulator} (h : e.cycleWith c = ⟨.ok (), r⟩) :
    r.stopRequested = true ↔ e.stopRequested = true ∨ e.AsksStop c := by
  have advanced : e.advance.result = .ok () := by rw [← result_cycleWith c, h]
  rw [cycleWith_of_ok c advanced] at h
  cases h
  rw [AsksStop, presentTo]
  split
  case isTrue dirty =>
    have before : e.advance.emulator.showing.stopRequested = e.stopRequested :=
      e.stopRequested_advance
    rw [stopRequested_act, before]
    simp [advanced, dirty]
  case isFalse clean => simp [clean, stopRequested_advance]

/-- After repeated steps a stop is requested if it was at the start or the callback asked in one of
them. -/
theorem stopRequested_repeated {n : Nat} {s : Emulator}
    (h : repeated (stepWith c) n e = ⟨.ok (), s⟩) :
    s.stopRequested = true ↔ e.stopRequested = true ∨ ∃ j ≤ n, e.StopsAt c j := by
  induction n generalizing s with
  | zero =>
    cases h
    simp [StopsAt]
  | succ n ih =>
    obtain ⟨r, before⟩ := exists_repeated_of_le h (Nat.le_succ n)
    have last : r.cycleWith c = ⟨.ok (), s⟩ := by
      rw [repeated_stepWith] at h before
      rwa [repeated_succ_last before, Outcome.andThen_done] at h
    have asked : e.StopsAt c (n + 1) ↔ r.AsksStop c := by
      constructor
      · rintro ⟨k, r', same, reached, asks⟩
        cases same
        rw [before] at reached
        cases reached
        exact asks
      · intro asks
        exact ⟨n, r, rfl, before, asks⟩
    rw [stopRequested_cycleWith c last, ih before, ← asked]
    simp only [Nat.le_succ_iff, or_and_right, exists_or, exists_eq_left, or_assoc]

/-! ## Requests do not matter to cycles -/

theorem unstopped_advance (e : Emulator) : e.unstopped.advance = e.advance.unstopped := by
  have executed : e.unstopped.ready.machine.execute e.unstopped.machine.currentWord.toNat
      e.unstopped.ready.machine.keypad.reading e.unstopped.ready.source
      e.unstopped.machine.pc.toNat =
    e.ready.machine.execute e.machine.currentWord.toNat e.ready.machine.keypad.reading
      e.ready.source e.machine.pc.toNat := rfl
  rw [advance, advance, complete, complete]
  simp only [executed]
  cases e.ready.machine.execute e.machine.currentWord.toNat e.ready.machine.keypad.reading
      e.ready.source e.machine.pc.toNat <;> rfl

theorem unstopped_presentTo (e : Emulator) :
    (e.unstopped.presentTo c).unstopped = (e.presentTo c).unstopped := by
  have same : e.unstopped.machine = e.machine := rfl
  rw [presentTo, presentTo, same]
  split
  · have reactions_eq : c.reactionsTo e.unstopped.showing = c.reactionsTo e.showing := rfl
    have shown : e.unstopped.showing = e.showing.unstopped := rfl
    rw [Callback.act, Callback.act, reactions_eq, shown]
    generalize c.reactionsTo e.showing = reactions
    generalize e.showing = s
    induction reactions generalizing s with
    | nil => rfl
    | cons reaction reactions ih =>
      have acted : (reaction.act s.unstopped).unstopped = (reaction.act s).unstopped := by
        cases reaction <;> rfl
      rw [List.foldl_cons, List.foldl_cons, ← ih, acted, ih]
  · rfl

theorem unstopped_cycleWith (e : Emulator) :
    (e.unstopped.cycleWith c).unstopped = (e.cycleWith c).unstopped := by
  rw [cycleWith, cycleWith, unstopped_advance]
  rcases e.advance with ⟨f | u, r⟩
  · rfl
  · exact congrArg (Outcome.mk (.ok ())) (unstopped_presentTo c r)

theorem cycleWith_congr (same : e₁.unstopped = e₂.unstopped) :
    (e₁.cycleWith c).unstopped = (e₂.cycleWith c).unstopped := by
  rw [← unstopped_cycleWith, same, unstopped_cycleWith]

/-- Emulators that differ in their requests go through the same cycles. -/
theorem repeated_congr (same : e₁.unstopped = e₂.unstopped) (n : Nat) :
    (repeated (cycleWith c) n e₁).unstopped = (repeated (cycleWith c) n e₂).unstopped := by
  induction n generalizing e₁ e₂ with
  | zero => exact congrArg (Outcome.mk (.ok ())) same
  | succ n ih =>
    have first := cycleWith_congr c same
    rcases cycled₁ : e₁.cycleWith c with ⟨f₁ | u₁, r₁⟩ <;>
      rcases cycled₂ : e₂.cycleWith c with ⟨f₂ | u₂, r₂⟩ <;>
      rw [cycled₁, cycled₂] at first <;>
      simp only [Outcome.unstopped, Outcome.mk.injEq, reduceCtorEq, false_and] at first
    case error.error => rw [repeated_succ_of_error cycled₁, repeated_succ_of_error cycled₂,
      Outcome.unstopped, Outcome.unstopped, first.1, first.2]
    case ok.ok =>
      rw [repeated_succ_of_ok cycled₁, repeated_succ_of_ok cycled₂]
      exact ih first.2

theorem asksStop_unstopped (e : Emulator) : e.unstopped.AsksStop c ↔ e.AsksStop c := by
  have shown (r : Emulator) : c.reactionsTo r.unstopped.showing = c.reactionsTo r.showing := rfl
  rw [AsksStop, AsksStop, unstopped_advance, Outcome.unstopped, shown]
  rfl

end Emulator

end Chip8
