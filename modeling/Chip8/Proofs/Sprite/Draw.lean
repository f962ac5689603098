import Chip8.Machine.Execute
import Chip8.Proofs.Instruction.Pattern
import Chip8.Proofs.Machine.Registers
import Chip8.Proofs.Memory.Block
import Chip8.Proofs.Sprite.Cells

/-!
# What drawing does to the picture

The picture after a draw in closed form: every pixel is the old one, inverted where the sprite shows
a set bit. The flag tells whether a set bit met a lit pixel, the mark whether there was a set bit to
show at all, and nothing else changes.
-/

namespace Chip8.Machine

/-- Whether the picture shows a set bit of the sprite at a position: the position lies in the rows
of the sprite and in its eight columns, both counted from the origin, and inside the picture. -/
def Shows (m : Machine) (x y : Nibble) (height : Int) (r c : Nat) : Prop :=
  let top := (m.register y).toNat % m.framebuffer.size.rows
  let left := (m.register x).toNat % m.framebuffer.size.cols
  (top ≤ r ∧ (r : Int) - top < height ∧ r < m.framebuffer.size.rows) ∧
    (left ≤ c ∧ c - left < 8 ∧ c < m.framebuffer.size.cols) ∧
    (m.memory.read (m.index.toNat + (r - top : Nat))).getLsbD (7 - (c - left)) = true

instance (m : Machine) (x y : Nibble) (height : Int) (r c : Nat) :
    Decidable (m.Shows x y height r c) :=
  inferInstanceAs (Decidable (_ ∧ _ ∧ _))

/-- Rows of the sprite lie at the addresses that follow the index register. -/
theorem read_index_add (m : Machine) (k : Nat) :
    m.memory.read (m.index.toNat + k) = m.memory.get (m.indexAddress + .ofNat 12 k) := by
  have e : BitVec.ofInt 12 (m.index.toNat + k) = m.indexAddress + BitVec.ofNat 12 k := by
    apply BitVec.eq_of_toNat_eq
    rw [← Int.natCast_add, BitVec.ofInt_natCast]
    simp only [indexAddress, BitVec.toNat_ofNat, BitVec.toNat_add, BitVec.toNat_setWidth]
    omega
  rw [Memory.read, e]

/-- The sprite shows a set bit where it has a cell that is not clipped. -/
theorem shows_iff (m : Machine) (x y : Nibble) (height : Int) (r c : Nat) :
    m.Shows x y height r c ↔
      (r, c) ∈ (m.sprite x y height.toNat).cells ∧ m.framebuffer.Inside (r, c) := by
  simp only [Shows, Sprite.mem_cells_iff, sprite, Memory.getElem?_readBlock, Framebuffer.Inside,
    read_index_add]
  generalize (m.register y).toNat % m.framebuffer.size.rows = top
  generalize (m.register x).toNat % m.framebuffer.size.cols = left
  constructor
  · rintro ⟨⟨hr, hn, hrows⟩, ⟨hc, h8, hcols⟩, hbit⟩
    refine ⟨⟨hr, hc, _, if_pos (by omega), h8, ?_⟩, hrows, hcols⟩
    simpa only [BitVec.getMsbD, h8, decide_true, Bool.true_and] using hbit
  · rintro ⟨⟨hr, hc, bits, hrow, h8, hbit⟩, hrows, hcols⟩
    split at hrow
    · rename_i hk
      obtain rfl := Option.some.inj hrow
      refine ⟨⟨hr, by omega, hrows⟩, ⟨hc, h8, hcols⟩, ?_⟩
      simpa only [BitVec.getMsbD, h8, decide_true, Bool.true_and] using hbit
    · contradiction

theorem lit_draw (m : Machine) (x y : Nibble) (height : Int) (r c : Nat) :
    (m.draw x y height.toNat).framebuffer.lit r c =
      (m.framebuffer.lit r c ^^ decide (m.Shows x y height r c)) := by
  simp only [draw, Framebuffer.lit_flipAll _ (Sprite.nodup_cells _), shows_iff]

/-- Drawing meets a lit pixel exactly if a shown bit lies on one. -/
theorem collides_iff (m : Machine) (x y : Nibble) (height : Int) :
    (m.framebuffer.flipAll (m.sprite x y height.toNat).cells).2 = true ↔
      ∃ r c, m.Shows x y height r c ∧ m.framebuffer.lit r c = true := by
  rw [Framebuffer.snd_flipAll _ (Sprite.nodup_cells _), List.any_eq_true]
  constructor
  · rintro ⟨⟨r, c⟩, hmem, hlit⟩
    exact ⟨r, c, (m.shows_iff x y height r c).mpr ⟨hmem, Framebuffer.inside_of_lit hlit⟩, hlit⟩
  · rintro ⟨r, c, hshows, hlit⟩
    exact ⟨(r, c), ((m.shows_iff x y height r c).mp hshows).1, hlit⟩

theorem dirty_draw_iff (m : Machine) (x y : Nibble) (height : Int) :
    (m.draw x y height.toNat).framebuffer.dirty = true ↔
      m.framebuffer.dirty = true ∨ ∃ r c, m.Shows x y height r c := by
  simp only [draw, Framebuffer.dirty_flipAll, Bool.or_eq_true, List.any_eq_true, decide_eq_true_eq,
    shows_iff, Prod.exists]

theorem register_draw (m : Machine) (x y : Nibble) (height : Nat) (s : Nibble) :
    (m.draw x y height).register s =
      if flagRegister = s then
        if (m.framebuffer.flipAll (m.sprite x y height).cells).2 then 1 else 0
      else m.register s := by
  change (m.setFlag _).register s = _
  rw [register_setFlag]

/-- The flag tells whether a shown bit lies on a lit pixel. -/
theorem flag_draw (m : Machine) (x y : Nibble) (height : Int) :
    (m.draw x y height.toNat).register flagRegister = 1 ∧
        (∃ r c, m.Shows x y height r c ∧ m.framebuffer.lit r c = true) ∨
      (m.draw x y height.toNat).register flagRegister = 0 ∧
        ∀ r c, m.Shows x y height r c → m.framebuffer.lit r c = false := by
  have collides := m.collides_iff x y height
  rw [register_draw, if_pos rfl]
  cases hit : (m.framebuffer.flipAll (m.sprite x y height.toNat).cells).2 with
  | true => exact .inl ⟨if_pos rfl, collides.mp hit⟩
  | false =>
    refine .inr ⟨if_neg Bool.false_ne_true, ?_⟩
    intro r c shown
    by_contra hlit
    have met := collides.mpr ⟨r, c, shown, eq_true_of_ne_false hlit⟩
    rw [hit] at met
    contradiction

/-- Registers that exist are drawn at, whatever the height. -/
theorem drawSprite_toNat (m : Machine) (x y : Nibble) (height : Int) :
    m.drawSprite x.toNat y.toNat height = .ok (m.draw x y height.toNat) := by
  rw [drawSprite, registerOf_toNat, registerOf_toNat]
  rfl

/-- The word `DXYN` draws. -/
theorem execute_draw (m : Machine) (x y n : Nibble) (reading : Option Int)
    (source : Random.Source) (pc : Int) :
    m.execute (Word.ofDigits 0xD x y n).toNat reading source pc =
      .ok (m.draw x y n.toNat, source) := by
  simp [execute, perform, Instruction.decode, BitVec.ofInt_natCast]

/-- Drawing inverts the pixels that the sprite shows and no others, sets the flag exactly if one of
them was lit, marks the picture exactly if there is one, and leaves the rest of the machine alone.
The instruction draws the same. -/
theorem drawSprite_closedForm (m : Machine) (x y : Nibble) (height : Int) :
    ∃ m', m.drawSprite x.toNat y.toNat height = .ok m' ∧
      (∀ r c, m'.framebuffer.lit r c =
        (m.framebuffer.lit r c ^^ decide (m.Shows x y height r c))) ∧
      (m'.register flagRegister = 1 ∧
          (∃ r c, m.Shows x y height r c ∧ m.framebuffer.lit r c = true) ∨
        m'.register flagRegister = 0 ∧
          ∀ r c, m.Shows x y height r c → m.framebuffer.lit r c = false) ∧
      (m'.framebuffer.dirty = true ↔
        m.framebuffer.dirty = true ∨ ∃ r c, m.Shows x y height r c) ∧
      (∀ s, s ≠ flagRegister → m'.register s = m.register s) ∧
      m'.framebuffer.size = m.framebuffer.size ∧
      m' = { m with registers := m'.registers, framebuffer := m'.framebuffer } ∧
      ∀ (n : Nibble) (reading : Option Int) (source : Random.Source) (pc : Int), height = n.toNat →
        m.execute (Word.ofDigits 0xD x y n).toNat reading source pc = .ok (m', source) := by
  refine ⟨m.draw x y height.toNat, m.drawSprite_toNat x y height, m.lit_draw x y height,
    m.flag_draw x y height, m.dirty_draw_iff x y height, ?_, ?_, rfl, ?_⟩
  · intro s hs
    rw [register_draw, if_neg (Ne.symm hs)]
  · exact Framebuffer.size_flipAll _ _
  · rintro n reading source pc rfl
    rw [execute_draw, Int.toNat_natCast]

end Chip8.Machine
