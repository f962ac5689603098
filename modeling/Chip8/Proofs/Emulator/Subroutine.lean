import Chip8.Proofs.Emulator.Schedule

/-!
# Calls and returns

A call puts its return address on the stack, and as long as the stack stays deeper than before the
call, that address and everything below it stay where they are. So the cycle that first brings the
stack back to its depth is the return of the call, and the program goes on behind it.

`Machine.Inside` is the invariant between the two cycles.
-/

namespace Chip8

namespace Machine

/-- Below what was pushed since, the stack holds a return address and the entries from before. -/
def Inside (m : Machine) (back : Word) (below : List Word) : Prop :=
  ∃ inner, m.stack = inner ++ back :: below

variable {m m' : Machine} {w back : Word} {below : List Word}

/-- A call leaves the machine inside the subroutine. -/
theorem Footprint.inside_of_call (h : Footprint m m' w) (calls : w.family = 0x2) :
    ∃ back, back.toNat = (m.pc.toNat + 2) % 4096 ∧ m'.Inside back m.stack := by
  obtain ⟨back, stack, address⟩ := h.pushed calls
  exact ⟨back, address, [], stack⟩

/-- Inside a subroutine an instruction stays inside, unless it is the return that takes the return
address and goes there. -/
theorem Footprint.inside_or_returns (h : Footprint m m' w) (inside : m.Inside back below) :
    m'.Inside back below ∨ (w.Returns ∧ m'.stack = below ∧ m'.pc.toNat = back.toNat % 4096) := by
  obtain ⟨inner, stack⟩ := inside
  by_cases returns : w.Returns
  · obtain ⟨top, popped⟩ := h.popped returns
    have tops : inner ++ back :: below = top :: m'.stack := stack ▸ popped
    cases inner with
    | nil =>
      obtain ⟨rfl, rest⟩ := List.cons.inj tops
      have next : m'.pc.toNat = (m.stack.headD 0).toNat % 4096 := by
        rw [h.pc_eq, nextPc, if_pos returns]
      rw [stack] at next
      exact .inr ⟨returns, rest.symm, next⟩
    | cons _ inner => exact .inl ⟨inner, (List.cons.inj tops).2.symm⟩
  · by_cases calls : w.family = 0x2
    · obtain ⟨pushed, stack', -⟩ := h.pushed calls
      exact .inl ⟨pushed :: inner, by rw [stack', stack, List.cons_append]⟩
    · exact .inl ⟨inner, (h.stack_eq calls returns).trans stack⟩

theorem Inside.length_lt (inside : m.Inside back below) : below.length < m.stack.length := by
  obtain ⟨inner, stack⟩ := inside
  rw [stack, List.length_append, List.length_cons]
  omega

end Machine

namespace Emulator

variable {e : Emulator} {s : Schedule} {n : Nat}

/-- A cycle inside a subroutine stays inside or is the return from it. -/
theorem inside_or_returns_turn {t : Turn} {back : Word} {below : List Word}
    (completed : (e.turn t).result = .ok ()) (inside : e.machine.Inside back below) :
    (e.turn t).emulator.machine.Inside back below ∨
      (e.machine.currentWord.Returns ∧ (e.turn t).emulator.machine.stack = below ∧
        (e.turn t).emulator.machine.pc.toNat = back.toNat % 4096) := by
  have keyed : (e.keyed t.keys).machine.Inside back below := inside
  exact (footprint_turn completed).inside_or_returns keyed

/-- After a call the machine is inside the subroutine for as long as the stack stays deeper than
before. -/
theorem inside_stateAt (calls : e.machine.currentWord.family = 0x2)
    (completed : (e.played s (n + 1)).result = .ok ())
    (deep : ∀ k, 0 < k → k ≤ n + 1 →
      e.machine.stack.length < (e.stateAt s k).machine.stack.length) :
    ∃ back : Word, back.toNat = (e.machine.pc.toNat + 2) % 4096 ∧
      (e.stateAt s (n + 1)).machine.Inside back e.machine.stack := by
  induction n with
  | zero =>
    obtain ⟨first, after⟩ := last_turn completed
    rw [after]
    exact (footprint_turn first).inside_of_call calls
  | succ n ih =>
    obtain ⟨last, after⟩ := last_turn completed
    obtain ⟨back, address, inside⟩ :=
      ih (completed_of_succ completed) fun k pos le => deep k pos (Nat.le_succ_of_le le)
    refine ⟨back, address, ?_⟩
    have still := deep (n + 2) (Nat.succ_pos _) (Nat.le_refl _)
    rw [after] at still ⊢
    rcases inside_or_returns_turn last inside with stays | ⟨-, stack, -⟩
    · exact stays
    · rw [stack] at still
      exact absurd still (Nat.lt_irrefl _)

/-- If the word at the program counter calls a subroutine and the stack stays deeper than before
until a cycle brings it back to its depth, then that cycle executes a return, the stack is the one
from before the call, and the program goes on behind the call. -/
theorem return_of_call (e : Emulator) (s : Schedule) (n : Nat)
    (calls : e.machine.currentWord.family = 0x2)
    (completed : (e.played s (n + 1)).result = .ok ())
    (deep : ∀ k, 0 < k → k ≤ n →
      e.machine.stack.length < (e.stateAt s k).machine.stack.length)
    (shallow : (e.stateAt s (n + 1)).machine.stack.length = e.machine.stack.length) :
    (e.wordAt s (n + 1)).Returns ∧
      (e.stateAt s (n + 1)).machine.stack = e.machine.stack ∧
      (e.stateAt s (n + 1)).machine.pc.toNat = (e.machine.pc.toNat + 2) % 4096 := by
  obtain ⟨last, after⟩ := last_turn completed
  cases n with
  | zero =>
    -- The call itself is no cycle that brings the stack back.
    obtain ⟨_, -, inside⟩ := (footprint_turn last).inside_of_call calls
    rw [after] at shallow
    exact absurd inside.length_lt (shallow ▸ Nat.lt_irrefl _)
  | succ n =>
    obtain ⟨back, address, inside⟩ := inside_stateAt calls (completed_of_succ completed) deep
    rcases inside_or_returns_turn last inside with stays | ⟨returns, stack, next⟩
    · rw [after] at shallow
      exact absurd stays.length_lt (shallow ▸ Nat.lt_irrefl _)
    · rw [after]
      exact ⟨returns, stack, by rw [next, address, Nat.mod_mod]⟩

/-- A call of a subroutine at `$006` that calls another one at `$004`. -/
def nesting : List Byte := [0x20, 0x06, 0x00, 0xE0, 0x00, 0xEE, 0x20, 0x04, 0x00, 0xEE]

/-- The outer call is over after four cycles, whatever keys are pressed meanwhile. -/
theorem return_of_call_nesting :
    let s : Schedule := fun k => ⟨[.down "5", .code k], k % 2 == 0⟩
    ((running nesting).wordAt s 4).Returns ∧ ((running nesting).stateAt s 4).machine.stack = [] ∧
      ((running nesting).stateAt s 4).machine.pc.toNat = 2 := by
  intro s
  have calls : (running nesting).machine.currentWord.family = 0x2 := by decide +kernel
  have completed : ((running nesting).played s 4).result = .ok () := by decide +kernel
  have deep : ∀ k, 0 < k → k ≤ 3 → (running nesting).machine.stack.length <
      ((running nesting).stateAt s k).machine.stack.length := by
    intro k pos le
    obtain rfl | rfl | rfl : k = 1 ∨ k = 2 ∨ k = 3 := by omega
    all_goals decide +kernel
  have shallow : ((running nesting).stateAt s 4).machine.stack.length =
      (running nesting).machine.stack.length := by decide +kernel
  exact return_of_call (running nesting) s 3 calls completed deep shallow

end Emulator

end Chip8
