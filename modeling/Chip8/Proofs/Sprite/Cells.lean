import Chip8.Proofs.Framebuffer.Inside
import Mathlib.Data.List.Sigma

/-!
# Flipping the cells of a sprite

A sprite is drawn cell by cell, and each cell is compared with the picture that the cells before it
have left. No cell of a sprite comes twice, so every comparison is with the picture as it was at the
start: the picture afterwards is the old one with exactly the cells inverted, and the collision is a
cell that was lit at the start.
-/

namespace Chip8

namespace Framebuffer

@[simp]
theorem size_flipAll (f : Framebuffer) (cells : List (Nat × Nat)) :
    (f.flipAll cells).1.size = f.size := by
  induction cells generalizing f with
  | nil => rfl
  | cons p rest ih => simp only [flipAll, ih, size_flip]

/-- A cell that is not flipped keeps its value. -/
theorem lit_flipAll_of_not_mem (f : Framebuffer) {cells : List (Nat × Nat)} {r c : Nat}
    (h : (r, c) ∉ cells) : (f.flipAll cells).1.lit r c = f.lit r c := by
  induction cells generalizing f with
  | nil => rfl
  | cons p rest ih =>
    obtain ⟨hp, hrest⟩ := not_or.mp (List.mem_cons.not.mp h)
    have hne : ¬ (r = p.1 ∧ c = p.2) := fun e => hp (Prod.ext e.1 e.2)
    simp only [flipAll, ih _ hrest, lit_flip, hne, and_false, if_false]

/-- Flipping distinct cells inverts exactly those inside the rectangle. -/
theorem lit_flipAll (f : Framebuffer) {cells : List (Nat × Nat)} (h : cells.Nodup) (r c : Nat) :
    (f.flipAll cells).1.lit r c = (f.lit r c ^^ decide ((r, c) ∈ cells ∧ f.Inside (r, c))) := by
  induction cells generalizing f with
  | nil => simp [flipAll]
  | cons p rest ih =>
    obtain ⟨hp, hrest⟩ := List.nodup_cons.mp h
    by_cases e : (r, c) = p
    · -- The first cell is flipped now and met by no later flip.
      subst e
      simp only [flipAll, lit_flipAll_of_not_mem _ hp, lit_flip]
      by_cases hin : r < f.size.rows ∧ c < f.size.cols <;> simp [Inside, hin]
    · have hne : ¬ (r = p.1 ∧ c = p.2) := fun e' => e (Prod.ext e'.1 e'.2)
      simp only [flipAll, ih _ hrest, lit_flip, hne, and_false, if_false, inside_flip,
        List.mem_cons, e, false_or]

/-- Flipping distinct cells tells whether one of them was lit at the start. -/
theorem snd_flipAll (f : Framebuffer) {cells : List (Nat × Nat)} (h : cells.Nodup) :
    (f.flipAll cells).2 = cells.any fun p => f.lit p.1 p.2 := by
  induction cells generalizing f with
  | nil => rfl
  | cons p rest ih =>
    obtain ⟨hp, hrest⟩ := List.nodup_cons.mp h
    have later : ∀ q ∈ rest, (f.flip p.1 p.2).lit q.1 q.2 = f.lit q.1 q.2 := by
      intro q hq
      have hne : ¬ (q.1 = p.1 ∧ q.2 = p.2) := fun e => hp (Prod.ext e.1 e.2 ▸ hq)
      simp only [lit_flip, hne, and_false, if_false]
    have same : (rest.any fun q => (f.flip p.1 p.2).lit q.1 q.2) =
        rest.any fun q => f.lit q.1 q.2 := by
      rw [Bool.eq_iff_iff, List.any_eq_true, List.any_eq_true]
      exact exists_congr fun q => and_congr_right fun hq => by rw [later q hq]
    simp only [flipAll, ih _ hrest, List.any_cons, same]

/-- Flipping marks the framebuffer dirty if a cell lies inside the rectangle. -/
theorem dirty_flipAll (f : Framebuffer) (cells : List (Nat × Nat)) :
    (f.flipAll cells).1.dirty = (f.dirty || cells.any fun p => decide (f.Inside p)) := by
  induction cells generalizing f with
  | nil => simp [flipAll]
  | cons p rest ih => simp only [flipAll, ih, dirty_flip, inside_flip, List.any_cons, Bool.or_assoc]

/-- Cells outside of the picture are passed over. -/
theorem flipAll_of_not_inside {f : Framebuffer} {cells : List (Nat × Nat)}
    (h : ∀ p ∈ cells, ¬ f.Inside p) : f.flipAll cells = (f, false) := by
  induction cells with
  | nil => rfl
  | cons p rest ih =>
    have hp := h p List.mem_cons_self
    have dark : f.lit p.1 p.2 = false := by
      by_contra hlit
      exact hp (inside_of_lit (by simpa using hlit))
    simp only [flipAll, flip_of_not_inside hp, dark, ih fun q hq => h q (List.mem_cons_of_mem p hq),
      Bool.or_self]

theorem flipAll_append (f : Framebuffer) (l₁ l₂ : List (Nat × Nat)) :
    f.flipAll (l₁ ++ l₂) =
      (((f.flipAll l₁).1.flipAll l₂).1, (f.flipAll l₁).2 || ((f.flipAll l₁).1.flipAll l₂).2) := by
  induction l₁ generalizing f with
  | nil => simp [flipAll]
  | cons p rest ih => simp only [List.cons_append, flipAll, ih, Bool.or_assoc]

end Framebuffer

namespace Sprite

/-- The cells are the set bits of the rows, eight to a row. -/
theorem mem_cells_iff (s : Sprite) (r c : Nat) :
    (r, c) ∈ s.cells ↔ s.top ≤ r ∧ s.left ≤ c ∧
      ∃ bits, s.rows[r - s.top]? = some bits ∧ c - s.left < 8 ∧
        bits.getMsbD (c - s.left) = true := by
  simp only [cells, List.mem_flatMap, Prod.exists, List.mem_map, List.mem_filter, List.mem_range,
    List.mem_zipIdx_iff_getElem?, Prod.mk.injEq]
  constructor
  · rintro ⟨bits, i, hi, j, ⟨hj, hbit⟩, rfl, rfl⟩
    refine ⟨by omega, by omega, bits, ?_, ?_, ?_⟩
    · simpa only [Nat.add_sub_cancel_left] using hi
    · simpa only [Nat.add_sub_cancel_left] using hj
    · simpa only [Nat.add_sub_cancel_left] using hbit
  · rintro ⟨hr, hc, bits, hi, hj, hbit⟩
    exact ⟨bits, r - s.top, hi, c - s.left, ⟨hj, hbit⟩, by omega, by omega⟩

/-- No cell comes twice. -/
theorem nodup_cells (s : Sprite) : s.cells.Nodup := by
  rw [cells, List.nodup_flatMap]
  constructor
  · rintro ⟨bits, i⟩ -
    refine (List.nodup_range.filter _).map ?_
    intro j k e
    simpa using e
  · have places : (s.rows.zipIdx.map Prod.snd).Nodup := List.nodup_zipIdx_map_snd s.rows
    refine (List.pairwise_map.mp places).imp ?_
    rintro ⟨bits, i⟩ ⟨bits', i'⟩ hne
    -- Cells of different rows differ in the first coordinate.
    simp only [Function.onFun, List.disjoint_left, List.mem_map, not_exists, not_and]
    rintro _ ⟨j, -, rfl⟩ k - e
    simp only [Prod.mk.injEq] at e
    exact hne (by omega)

end Sprite

end Chip8
