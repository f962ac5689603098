import Chip8.Machine.Basic

/-!
# Sprites

A sprite is a column of bytes, each a row of eight pixels. Drawing a sprite flips the pixels under
its set bits; bits that fall past the right or bottom edge are clipped. The flag tells afterwards
whether any flipped pixel was lit.
-/

namespace Chip8

/-- Rows of eight pixels and the position of their top left one. -/
structure Sprite where
  top : Nat
  left : Nat
  rows : List Byte
  deriving DecidableEq

/-- The positions of the set bits, row by row and from the left. -/
def Sprite.cells (s : Sprite) : List (Nat × Nat) :=
  s.rows.zipIdx.flatMap fun (bits, r) =>
    ((List.range 8).filter bits.getMsbD).map fun c => (s.top + r, s.left + c)

namespace Framebuffer

/-- Flip the pixel at a position. A position outside is passed over. -/
def flip (f : Framebuffer) (row col : Nat) : Framebuffer :=
  match f.size.offset? row col with
  | some i => f.setAt i !(f.lit row col)
  | none => f

@[simp]
theorem size_flip (f : Framebuffer) (row col : Nat) : (f.flip row col).size = f.size := by
  rw [flip]
  split <;> rfl

/-- Flipping changes the pixel at its position, if there is one, and no other. -/
theorem lit_flip (f : Framebuffer) (row col r c : Nat) :
    (f.flip row col).lit r c =
      if (row < f.size.rows ∧ col < f.size.cols) ∧ r = row ∧ c = col then !(f.lit r c)
      else f.lit r c := by
  by_cases h : row < f.size.rows ∧ col < f.size.cols
  · have e : f.size.offset? row col =
        some ⟨f.size.offset row col, Size.offset_lt_area h.1 h.2⟩ := by
      rw [Size.offset?_natCast, dif_pos h]
    simp only [flip, e, lit_setAt f h.1 h.2, h, true_and, and_self]
    split
    · rename_i he
      rw [he.1, he.2]
    · rfl
  · have e : f.size.offset? row col = none := by rw [Size.offset?_natCast, dif_neg h]
    simp only [flip, e, h, false_and, if_false]

/-- Flip the pixels at several positions, and tell whether any of them was lit. -/
def flipAll (f : Framebuffer) : List (Nat × Nat) → Framebuffer × Bool
  | [] => (f, false)
  | (row, col) :: rest =>
    let wasLit := f.lit row col
    let flipped := (f.flip row col).flipAll rest
    (flipped.1, wasLit || flipped.2)

end Framebuffer

namespace Machine

/-- The sprite at the index register, placed where two registers say, with at most as many rows as
there are from there to the bottom edge. -/
def sprite (m : Machine) (x y : Nibble) (height : Nat) : Sprite :=
  let top := (m.register y).toNat % m.framebuffer.size.rows
  { top := top
    left := (m.register x).toNat % m.framebuffer.size.cols
    rows := m.memory.readBlock m.indexAddress (min height (m.framebuffer.size.rows - top)) }

/-- Draw the sprite at the index register and record in the flag whether it met a lit pixel. -/
def draw (m : Machine) (x y : Nibble) (height : Nat) : Machine :=
  let drawn := m.framebuffer.flipAll (m.sprite x y height).cells
  { m.setFlag drawn.2 with framebuffer := drawn.1 }

/-- Draw with numbered registers; a height below one draws nothing. -/
def drawSprite (m : Machine) (x y height : Int) : Except ArgumentError Machine := do
  let x ← registerOf x
  let y ← registerOf y
  return m.draw x y height.toNat

end Machine

end Chip8
