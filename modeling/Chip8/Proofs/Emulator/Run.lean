import Chip8.Proofs.Emulator.Callback

/-!
# Runs as repeated steps

A run performs steps one after the other until its callback asks to stop, its limit is reached or a
step faults. Nothing but the emulator is handed from one step to the next, so a run may be broken
off and taken up again.
-/

namespace Chip8.Emulator

variable {c : Callback} {e : Emulator} {limit : Int} {r : Nat}

/-- The number of steps that a run performs if none of them faults: up to the first one in which the
callback asks to stop, and otherwise as many as the limit allows. -/
def IsStepCount (c : Callback) (e : Emulator) (limit : Int) (r : Nat) : Prop :=
  IsLeast {j : Nat | (j : Int) ≤ limit ∧ e.StopsAt c j} r ∨
    (∀ j : Nat, (j : Int) ≤ limit → ¬ e.StopsAt c j) ∧ r = limit.toNat

/-! ## Steps that are stopped -/

/-- The step in which the callback asks to stop does not fault. -/
theorem StopsAt.exists_repeated {j : Nat} (h : e.StopsAt c j) :
    ∃ s, repeated (stepWith c) j e = ⟨.ok (), s⟩ := by
  obtain ⟨k, s, rfl, reached, advanced, -, -⟩ := h
  rw [repeated_stepWith] at reached ⊢
  rw [repeated_succ_last reached, Outcome.andThen_done, cycleWith_of_ok c advanced]
  exact ⟨_, rfl⟩

/-- An earlier request to stop does not matter to when the callback asks. -/
theorem stopsAt_congr {e₁ e₂ : Emulator} (same : e₁.unstopped = e₂.unstopped) {j : Nat}
    (h : e₁.StopsAt c j) : e₂.StopsAt c j := by
  obtain ⟨k, s, rfl, reached, asks⟩ := h
  have agree := repeated_congr c same k
  rw [repeated_stepWith] at reached
  rw [reached] at agree
  rcases reached' : repeated (cycleWith c) k e₂ with ⟨f | u, s'⟩
  · rw [reached'] at agree
    cases congrArg Outcome.result agree
  · rw [reached'] at agree
    have states : s.unstopped = s'.unstopped := congrArg Outcome.emulator agree
    refine ⟨k, s', rfl, ?_, ?_⟩
    · rw [repeated_stepWith, reached']
    · rwa [← asksStop_unstopped, ← states, asksStop_unstopped]

theorem stopsAt_unstopped {j : Nat} : e.unstopped.StopsAt c j ↔ e.StopsAt c j := by
  have same : e.unstopped.unstopped = e.unstopped := rfl
  exact ⟨stopsAt_congr same, stopsAt_congr same.symm⟩

/-- Without an earlier request, a stop is requested after some steps if the callback asked in one of
them. -/
theorem stopRequested_of_unstopped {k : Nat} {s : Emulator}
    (reached : repeated (stepWith c) k e.unstopped = ⟨.ok (), s⟩) :
    s.stopRequested = true ↔ ∃ j ≤ k, e.StopsAt c j := by
  simp only [stopRequested_repeated c reached, stopsAt_unstopped]
  exact or_iff_right Bool.false_ne_true

/-- The steps that come after others are stopped when they are stopped after these. -/
theorem StopsAt.after {n j : Nat} {s : Emulator} (before : repeated (stepWith c) n e = ⟨.ok (), s⟩)
    (h : s.StopsAt c j) : e.StopsAt c (n + j) := by
  obtain ⟨k, t, rfl, reached, asks⟩ := h
  refine ⟨n + k, t, rfl, ?_, asks⟩
  rw [repeated_add, before, Outcome.andThen_ok, reached]

namespace IsStepCount

theorem exists_of (c : Callback) (e : Emulator) (limit : Int) : ∃ r, IsStepCount c e limit r := by
  by_cases asked : ∃ j : Nat, (j : Int) ≤ limit ∧ e.StopsAt c j
  · obtain ⟨r, least⟩ := exists_isLeast asked
    exact ⟨r, .inl least⟩
  · refine ⟨limit.toNat, .inr ⟨fun j le stops => asked ⟨j, le, stops⟩, rfl⟩⟩

theorem le_toNat (h : IsStepCount c e limit r) : r ≤ limit.toNat := by
  rcases h with ⟨⟨le, -⟩, -⟩ | ⟨-, rfl⟩
  · omega
  · exact Nat.le_refl _

/-- Among the steps of a run, the callback asks to stop in the last one at most. -/
theorem eq_of_le (h : IsStepCount c e limit r) {j : Nat} (stops : e.StopsAt c j) (le : j ≤ r) :
    j = r := by
  have pos : 0 < j := by
    obtain ⟨k, -, rfl, -⟩ := stops
    exact Nat.zero_lt_succ k
  rcases h with ⟨⟨within, -⟩, least⟩ | ⟨never, rfl⟩
  · exact Nat.le_antisymm le (least ⟨by omega, stops⟩)
  · exact absurd stops (never j (by omega))

/-- A run whose callback does not ask to stop in its last step has come to its limit. -/
theorem eq_toNat_or (h : IsStepCount c e limit r) : r = limit.toNat ∨ e.StopsAt c r := by
  rcases h with ⟨⟨-, stops⟩, -⟩ | ⟨-, rfl⟩
  · exact .inr stops
  · exact .inl rfl

end IsStepCount

/-! ## The loop -/

theorem runFromWith_eq_repeatedUntil (c : Callback) (executed budget : Nat) (e : Emulator) :
    runFromWith c executed budget e =
      repeatedUntil (·.stopRequested = true) (cycleWith c) executed budget e := by
  induction budget generalizing e executed with
  | zero => rfl
  | succ budget ih =>
    rw [runFromWith, repeatedUntil]
    congr
    funext _ s
    exact ih (executed + 1) s

/-- A run comes to what its steps come to, from the emulator without an earlier request to stop. -/
theorem runWith_eq (h : IsStepCount c e limit r) :
    e.runWith c limit =
      (repeated (stepWith c) r e.unstopped).andThen fun _ s => ⟨.ok r, s⟩ := by
  have going : ∀ k s, k < r → repeated (cycleWith c) k e.unstopped = ⟨.ok (), s⟩ →
      ¬ s.stopRequested = true := by
    intro k s lt reached
    rw [← repeated_stepWith] at reached
    rw [stopRequested_of_unstopped reached]
    rintro ⟨j, le, stops⟩
    have := h.eq_of_le stops (by omega)
    omega
  have ends : r = limit.toNat ∨ ∀ s, repeated (cycleWith c) r e.unstopped = ⟨.ok (), s⟩ →
      s.stopRequested = true := by
    refine h.eq_toNat_or.imp_right fun stops s reached => ?_
    rw [← repeated_stepWith] at reached
    exact (stopRequested_of_unstopped reached).mpr ⟨r, Nat.le_refl r, stops⟩
  have loop := repeatedUntil_eq 0 h.le_toNat going ends
  rw [Nat.zero_add, ← repeated_stepWith, ← runFromWith_eq_repeatedUntil] at loop
  exact loop

/-- Apart from requests to stop, a run comes to what the same number of steps comes to. -/
theorem runWith_agrees (h : IsStepCount c e limit r) :
    (e.runWith c limit).result = (repeated (stepWith c) r e).result.map (fun _ => r) ∧
      (e.runWith c limit).emulator.unstopped = (repeated (stepWith c) r e).emulator.unstopped := by
  have same : e.unstopped.unstopped = e.unstopped := rfl
  have agree := repeated_congr c same r
  rw [← repeated_stepWith, ← repeated_stepWith] at agree
  have results := congrArg Outcome.result agree
  have emulators := congrArg Outcome.emulator agree
  simp only [Outcome.unstopped] at results emulators
  rw [runWith_eq h, ← results, ← emulators]
  rcases repeated (stepWith c) r e.unstopped with ⟨f | u, s⟩
  · exact ⟨rfl, rfl⟩
  · exact ⟨rfl, rfl⟩

/-- The request that a run leaves behind is the one that ended it. -/
theorem stopRequested_runWith (h : IsStepCount c e limit r) :
    (e.runWith c limit).emulator.stopRequested = true ↔ e.StopsAt c r := by
  rw [runWith_eq h]
  rcases reached : repeated (stepWith c) r e.unstopped with ⟨f | u, s⟩
  · have unasked : ¬ e.StopsAt c r := by
      intro stops
      obtain ⟨t, completed⟩ := (stopsAt_unstopped.mpr stops).exists_repeated
      rw [completed] at reached
      cases reached
    rw [repeated_stepWith] at reached
    obtain ⟨k, t, lt, before, fault⟩ := exists_of_repeated_error reached
    have faulted : t.advance.result = .error f := by rw [← result_cycleWith c, fault]
    rw [cycleWith_of_error c faulted] at fault
    cases fault
    rw [← repeated_stepWith] at before
    rw [Outcome.andThen_error, stopRequested_advance, stopRequested_of_unstopped before]
    refine ⟨?_, fun stops => absurd stops unasked⟩
    rintro ⟨j, le, stops⟩
    have := h.eq_of_le stops (by omega)
    omega
  · rw [Outcome.andThen_ok, stopRequested_of_unstopped reached]
    constructor
    · rintro ⟨j, le, stops⟩
      rwa [← h.eq_of_le stops le]
    · intro stops
      exact ⟨r, Nat.le_refl r, stops⟩

/-! ## Runs in two parts -/

/-- After a run without requests to stop, another run goes on where it ended. -/
theorem runWith_add (unasked : ∀ j, ¬ e.StopsAt c j) {a b : Int} (ha : 0 ≤ a) (hb : 0 ≤ b)
    {count : Nat} {s : Emulator} (ran : e.runWith c a = ⟨.ok count, s⟩) :
    (s.runWith c b).emulator = (e.runWith c (a + b)).emulator ∧
      (s.runWith c b).result.map (count + ·) = (e.runWith c (a + b)).result := by
  have first : IsStepCount c e a a.toNat := .inr ⟨fun j _ => unasked j, rfl⟩
  have whole : IsStepCount c e (a + b) (a.toNat + b.toNat) :=
    .inr ⟨fun j _ => unasked j, (Int.toNat_add ha hb).symm⟩
  have fresh : s.stopRequested = false := by
    have left := stopRequested_runWith first
    rw [ran] at left
    rw [← Bool.not_eq_true, left]
    exact unasked _
  have same : s.unstopped = s := by rw [unstopped, ← fresh]
  rw [runWith_eq first] at ran
  rw [runWith_eq whole, repeated_add]
  rcases reached : repeated (stepWith c) a.toNat e.unstopped with ⟨f | u, t⟩
  · rw [reached] at ran
    cases ran
  · rw [reached] at ran
    cases ran
    have second : IsStepCount c t b b.toNat := by
      refine .inr ⟨fun j _ stops => ?_, rfl⟩
      exact unasked _ (stopsAt_unstopped.mp (stops.after reached))
    rw [runWith_eq second, same, Outcome.andThen_ok]
    rcases repeated (stepWith c) b.toNat t with ⟨f | u, s⟩
    · exact ⟨rfl, rfl⟩
    · exact ⟨rfl, rfl⟩

/-- A run with any callback performs the steps up to the first one in which the callback asks to
stop, or as many as its limit allows, and leaves what they leave; the request to stop that is left
is that of its last step. Its result is their number, or the fault of the one that faults, and only
those before that one are counted. A request made before the run does not matter, and a run that is
not stopped may be done in two parts. A hook is such a callback. -/
theorem runWith_steps (c : Callback) (e : Emulator) (limit : Int) :
    let stepped (k : Nat) := repeated (stepWith c) k e
    let ran := e.runWith c limit
    (∃ r, IsStepCount c e limit r ∧
      ran.result = (stepped r).result.map (fun _ => r) ∧
      ran.emulator.unstopped = (stepped r).emulator.unstopped ∧
      (ran.emulator.stopRequested = true ↔ e.StopsAt c r) ∧
      ((stepped r).result = .ok () → ran.emulator.cycles = e.cycles + r) ∧
      ∀ k s t f, k < r → stepped k = ⟨.ok (), s⟩ → s.stepWith c = ⟨.error f, t⟩ →
        ran.result = .error f ∧ ran.emulator.unstopped = t.unstopped ∧
          ran.emulator.cycles = e.cycles + k) ∧
      e.stop.runWith c limit = ran ∧
      ((∀ j, ¬ e.StopsAt c j) → ∀ a b : Int, 0 ≤ a → 0 ≤ b → ∀ count s,
        e.runWith c a = ⟨.ok count, s⟩ →
          (s.runWith c b).emulator = (e.runWith c (a + b)).emulator ∧
            (s.runWith c b).result.map (count + ·) = (e.runWith c (a + b)).result) ∧
      e.step = e.stepWith e.hook.callback ∧
      e.run limit = e.runWith e.hook.callback limit := by
  intro stepped ran
  refine ⟨?_, rfl, fun unasked a b ha hb count s => runWith_add unasked ha hb,
    step_callback e, e.unstopped.runFrom_callback 0 limit.toNat⟩
  obtain ⟨r, counted⟩ := IsStepCount.exists_of c e limit
  obtain ⟨result_eq, emulator_eq⟩ := runWith_agrees counted
  have cycles_eq : ran.emulator.cycles = (stepped r).emulator.cycles := by
    have counts := congrArg cycles emulator_eq
    exact counts
  refine ⟨r, counted, result_eq, emulator_eq, stopRequested_runWith counted, ?_, ?_⟩
  · intro completed
    rw [cycles_eq]
    apply cycles_repeated c
    rw [← repeated_stepWith, ← completed]
  · intro k s t f lt before fault
    have faulted : repeated (stepWith c) r e = ⟨.error f, t⟩ := repeated_of_fault lt before fault
    have counted_before : t.cycles = e.cycles + k := by
      rw [stepWith_of_error] at fault
      rw [cycles_cycleWith_of_error c fault]
      apply cycles_repeated c
      rw [← repeated_stepWith]
      exact before
    refine ⟨?_, ?_, ?_⟩
    · exact result_eq.trans (by rw [faulted]; rfl)
    · exact emulator_eq.trans (by rw [faulted])
    · exact cycles_eq.trans (by rw [← counted_before]; exact congrArg (·.emulator.cycles) faulted)

/-- The second of these steps would fault, but the callback asks to stop in the first one. -/
example : (clearing.runWith ⟨fun _ _ _ => [.stop]⟩ 5).result.toOption = some 1 := by
  decide +kernel

end Chip8.Emulator
