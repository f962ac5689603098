import Chip8.Machine.Execute

/-!
# The dirty mark is not read

Programs set the mark of the picture and never look at it. So executing an instruction commutes with
marking: with the mark set before, it comes to the same machine, the same faults and the same random
bytes, and only the mark is set afterwards too.
-/

namespace Chip8

namespace Framebuffer

/-- The framebuffer, marked if it was or if `d` is true. -/
def markIf (f : Framebuffer) (d : Bool) : Framebuffer := { f with dirty := f.dirty || d }

variable (f : Framebuffer) (d : Bool)

theorem flip_markIf (row col : Nat) : (f.markIf d).flip row col = (f.flip row col).markIf d := by
  rw [flip, flip]
  have same : (f.markIf d).size.offset? row col = f.size.offset? row col := rfl
  rw [same]
  cases f.size.offset? row col with
  | none => rfl
  | some i => rfl

theorem flipAll_markIf (cells : List (Nat × Nat)) :
    (f.markIf d).flipAll cells = ((f.flipAll cells).1.markIf d, (f.flipAll cells).2) := by
  induction cells generalizing f with
  | nil => rfl
  | cons p rest ih =>
    have same : (f.markIf d).lit p.1 p.2 = f.lit p.1 p.2 := rfl
    simp only [flipAll, flip_markIf, ih, same]

end Framebuffer

namespace Machine

/-- The machine with its picture marked if it was or if `d` is true. -/
def markIf (m : Machine) (d : Bool) : Machine := { m with framebuffer := m.framebuffer.markIf d }

/-- The machine without the mark of its picture. -/
def clean (m : Machine) : Machine := { m with framebuffer := m.framebuffer.clean }

variable (m : Machine) (d : Bool)

/-- A machine is a clean one with its own mark put back. -/
theorem markIf_clean : m.clean.markIf m.framebuffer.dirty = m := rfl

theorem clean_of_not_dirty {m : Machine} (h : m.framebuffer.dirty = false) : m.clean = m := by
  have restored := m.markIf_clean
  rw [h] at restored
  exact restored

theorem skipIf_markIf (condition : Bool) :
    (m.markIf d).skipIf condition = (m.skipIf condition).markIf d := by
  cases condition <;> rfl

theorem draw_markIf (x y : Nibble) (height : Nat) :
    (m.markIf d).draw x y height = (m.draw x y height).markIf d := by
  have same : (m.markIf d).sprite x y height = m.sprite x y height := rfl
  have flipped : (m.markIf d).framebuffer.flipAll (m.sprite x y height).cells = _ :=
    m.framebuffer.flipAll_markIf d (m.sprite x y height).cells
  simp only [draw, same, flipped]
  rfl

/-- Performing an instruction commutes with marking. -/
theorem perform_markIf (reading : Option Int) (source : Random.Source) (i : Instruction) :
    (m.markIf d).perform reading source i =
      (m.perform reading source i).map fun (m', source') => (m'.markIf d, source') := by
  cases i with
  | ret =>
    have same : (m.markIf d).stack = m.stack := rfl
    simp only [perform, same]
    cases m.stack <;> rfl
  | waitKey x => cases reading <;> rfl
  | alu op x y => cases op <;> rfl
  | draw x y height => simp only [perform, draw_markIf, Option.map_some]
  | skipIfByte | skipUnlessByte | skipIfEqual | skipUnlessEqual | skipIfKey | skipUnlessKey =>
    simp only [perform, skipIf_markIf, Option.map_some]
    rfl
  | _ => rfl

theorem execute_markIf (word : Int) (reading : Option Int) (source : Random.Source) (pc : Int) :
    (m.markIf d).execute word reading source pc =
      (m.execute word reading source pc).map fun (m', source') => (m'.markIf d, source') := by
  rw [execute, execute]
  cases Instruction.decode (.ofInt 16 word) with
  | none => rfl
  | some i =>
    simp only [perform_markIf]
    cases m.perform reading source i <;> rfl

end Machine

end Chip8
