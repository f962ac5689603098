import Chip8.Proofs.IntMachine.Bounds
import Chip8.Proofs.Machine.Footprint

/-!
# Changes of the picture are marked

Whatever is done to a machine, its picture is the same afterwards or is marked dirty. There are two
exceptions, which a host has to ask for: to take the mark, and to build the machine anew.
-/

namespace Chip8

namespace Framebuffer

/-- The second framebuffer is the first, or it is marked. -/
def ChangeMarked (f f' : Framebuffer) : Prop := f' = f ∨ f'.dirty = true

namespace ChangeMarked

theorem refl (f : Framebuffer) : ChangeMarked f f := .inl rfl

/-- A framebuffer without a mark has not changed. -/
theorem eq_of_not_dirty {f f' : Framebuffer} (h : ChangeMarked f f') (clean : f'.dirty = false) :
    f' = f := by
  obtain same | dirty := h
  · exact same
  · rw [clean] at dirty
    contradiction

theorem flipAll (f : Framebuffer) (cells : List (Nat × Nat)) :
    ChangeMarked f (f.flipAll cells).1 := by
  by_cases inside : ∃ p ∈ cells, f.Inside p
  · obtain ⟨p, hp, hin⟩ := inside
    refine .inr ?_
    rw [dirty_flipAll, Bool.or_eq_true, List.any_eq_true]
    exact .inr ⟨p, hp, decide_eq_true hin⟩
  · refine .inl ?_
    rw [flipAll_of_not_inside fun p hp hin => inside ⟨p, hp, hin⟩]

theorem set {f f' : Framebuffer} {row col : Int} {lit : Bool} (h : f.set row col lit = .ok f') :
    ChangeMarked f f' := by
  rw [Framebuffer.set] at h
  split at h
  · cases h
    exact .inr rfl
  · contradiction

end ChangeMarked

end Framebuffer

namespace Machine

open Framebuffer (ChangeMarked)

variable {m m' : Machine}

theorem changeMarked_perform {reading : Option Int} {source source' : Random.Source}
    {i : Instruction} (h : m.perform reading source i = some (m', source')) :
    ChangeMarked m.framebuffer m'.framebuffer := by
  cases i with
  | clear =>
    cases h
    exact .inr rfl
  | draw =>
    cases h
    exact .flipAll ..
  | ret =>
    obtain ⟨-, top, rest, -, rfl⟩ := eq_of_perform_ret h
    exact .refl _
  | call | loadIndex | setDelay | setSound | addIndex | pointGlyph | storeDecimal
  | storeRegisters =>
    cases h
    exact .refl _
  | _ =>
    rw [eq_of_perform_inward h trivial]
    exact .refl _

theorem changeMarked_execute {word : Int} {reading : Option Int} {source source' : Random.Source}
    {pc : Int} (h : m.execute word reading source pc = .ok (m', source')) :
    ChangeMarked m.framebuffer m'.framebuffer := by
  obtain ⟨i, -, performed⟩ := exists_of_execute h
  exact changeMarked_perform performed

theorem changeMarked_drawSprite {x y height : Int} (h : m.drawSprite x y height = .ok m') :
    ChangeMarked m.framebuffer m'.framebuffer := by
  obtain ⟨x, y, rfl⟩ := exists_of_drawSprite h
  exact .flipAll ..

end Machine

/-- Operations that neither take the mark nor build the machine anew. -/
def Operation.Marking : Operation → Prop
  | .takeDirty | .restart => False
  | _ => True

/-- Whatever a host does, a change of the picture is marked, unless the host takes the mark or
builds the machine anew. -/
theorem Machine.changeMarked_after (m : Machine) {op : Operation} (marking : op.Marking) :
    Framebuffer.ChangeMarked m.framebuffer (m.after op).framebuffer := by
  rw [after]
  cases applied : m.apply op with
  | error refusal => exact .refl _
  | ok m' =>
    change Framebuffer.ChangeMarked m.framebuffer m'.framebuffer
    cases op with
    | execute word reading drawn pc =>
      obtain ⟨⟨_, _⟩, executed, rfl⟩ := exists_of_map_eq_ok (eq_ok_of_mapError applied)
      exact changeMarked_execute executed
    | setRegister index value =>
      obtain ⟨r, -, rfl⟩ := exists_of_map_eq_ok (eq_ok_of_mapError applied)
      exact .refl _
    | pop =>
      obtain ⟨⟨top, popped⟩, taken, rfl⟩ := exists_of_map_eq_ok (eq_ok_of_mapError applied)
      rw [pop] at taken
      split at taken
      · contradiction
      · cases taken
        exact .refl _
    | load image =>
      obtain ⟨memory, -, rfl⟩ := exists_of_map_eq_ok (eq_ok_of_mapError applied)
      exact .refl _
    | drawSprite x y height => exact changeMarked_drawSprite (eq_ok_of_mapError applied)
    | setPixel row col lit =>
      obtain ⟨f, stored, rfl⟩ := exists_of_map_eq_ok (eq_ok_of_mapError applied)
      exact .set stored
    | clearPixels =>
      cases applied
      exact .inr rfl
    | pressCode code =>
      obtain ⟨k, -, rfl⟩ := exists_of_map_eq_ok (eq_ok_of_mapError applied)
      exact .refl _
    | takeDirty | restart => exact marking.elim
    | _ =>
      simp only [apply, Except.ok.injEq] at applied
      subst applied
      exact .refl _

end Chip8
