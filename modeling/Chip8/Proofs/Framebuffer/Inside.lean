import Chip8.Machine.Sprite

/-!
# Positions inside a picture

Inside the rectangle a position can be read and written; outside of it no pixel is lit and flips are
passed over.
-/

namespace Chip8.Framebuffer

/-- Whether a position lies inside the rectangle. -/
def Inside (f : Framebuffer) (p : Nat × Nat) : Prop := p.1 < f.size.rows ∧ p.2 < f.size.cols

instance (f : Framebuffer) (p : Nat × Nat) : Decidable (f.Inside p) :=
  inferInstanceAs (Decidable (_ ∧ _))

theorem inside_of_lit {f : Framebuffer} {r c : Nat} (h : f.lit r c = true) : f.Inside (r, c) := by
  rw [lit] at h
  split at h
  · assumption
  · contradiction

theorem offset?_of_inside {f : Framebuffer} {r c : Nat} (h : f.Inside (r, c)) :
    f.size.offset? r c = some ⟨f.size.offset r c, Size.offset_lt_area h.1 h.2⟩ := by
  have h' : r < f.size.rows ∧ c < f.size.cols := h
  rw [Size.offset?_natCast, dif_pos h']

theorem get_of_inside {f : Framebuffer} {r c : Nat} (h : f.Inside (r, c)) :
    f.get r c = .ok (f.lit r c) := by
  have place : f.size.offset r c < f.pixels.size := by
    rw [f.size_pixels]
    exact Size.offset_lt_area h.1 h.2
  have h' : r < f.size.rows ∧ c < f.size.cols := h
  simp only [get, offset?_of_inside h, lit, if_pos h', Array.getElem?_eq_getElem place,
    Option.getD_some]
  rfl

/-- Flipping a pixel stores the other value. -/
theorem set_not_lit {f : Framebuffer} {r c : Nat} (h : f.Inside (r, c)) :
    f.set r c (!f.lit r c) = .ok (f.flip r c) := by
  simp only [set, flip, offset?_of_inside h]

theorem flip_of_not_inside {f : Framebuffer} {r c : Nat} (h : ¬ f.Inside (r, c)) :
    f.flip r c = f := by
  rw [Inside] at h
  simp only [flip, Size.offset?_natCast, dif_neg h]

theorem inside_flip (f : Framebuffer) (row col : Nat) (p : Nat × Nat) :
    (f.flip row col).Inside p ↔ f.Inside p := by
  simp only [Inside, size_flip]

/-- The pixels are known by their positions. -/
theorem pixels_eq_of_lit {f f' : Framebuffer} (size_eq : f'.size = f.size)
    (lit_eq : ∀ r c, f'.lit r c = f.lit r c) : f'.pixels = f.pixels := by
  apply Array.ext
  · rw [f.size_pixels, f'.size_pixels, size_eq]
  · intro i hi hi'
    have area : i < f.size.cols * f.size.rows := by
      rw [Nat.mul_comm]
      exact Nat.lt_of_lt_of_eq hi' f.size_pixels
    have row : i / f.size.cols < f.size.rows := Nat.div_lt_of_lt_mul area
    have col : i % f.size.cols < f.size.cols := Nat.mod_lt i f.size.cols_pos
    have place : f.size.offset (i / f.size.cols) (i % f.size.cols) = i := Nat.div_add_mod' i _
    have same := lit_eq (i / f.size.cols) (i % f.size.cols)
    simpa only [lit, size_eq, if_pos (And.intro row col), place, Array.getElem?_eq_getElem hi,
      Array.getElem?_eq_getElem hi', Option.getD_some] using same

theorem eq_of_lit {f f' : Framebuffer} (size_eq : f'.size = f.size)
    (lit_eq : ∀ r c, f'.lit r c = f.lit r c) (dirty_eq : f'.dirty = f.dirty) : f' = f := by
  have pixels_eq := pixels_eq_of_lit size_eq lit_eq
  cases f
  cases f'
  simp only at size_eq pixels_eq dirty_eq
  subst size_eq pixels_eq dirty_eq
  rfl

/-- Only a flip inside the rectangle marks the framebuffer dirty. -/
theorem dirty_flip (f : Framebuffer) (row col : Nat) :
    (f.flip row col).dirty = (f.dirty || decide (f.Inside (row, col))) := by
  by_cases h : f.Inside (row, col)
  · simp [flip, offset?_of_inside h, h, setAt]
  · simp [flip_of_not_inside h, h]

end Chip8.Framebuffer
