import Chip8.Proofs.Sprite.Draw
import Mathlib.Algebra.BigOperators.Group.List.Lemmas
import Mathlib.Algebra.BigOperators.Ring.List
import Mathlib.Algebra.Ring.Parity

/-!
# Sprites drawn one after the other

A draw inverts the pixels that its sprite shows and writes the flag register. As long as no draw
takes a coordinate from that register, each of them shows what it would show at the start, so a
pixel is inverted as often as draws show it: the order of the draws does not matter, and draws that
come twice cancel each other.
-/

namespace Chip8

/-- A draw as a host asks for it: numbered registers for the coordinates, and a height. -/
structure Draw where
  x : Int
  y : Int
  height : Int
  deriving DecidableEq, Repr

/-- Both coordinates come from registers before the last one, which is the flag. -/
def Draw.AvoidsFlag (d : Draw) : Prop := (0 ≤ d.x ∧ d.x ≤ 14) ∧ 0 ≤ d.y ∧ d.y ≤ 14

instance (d : Draw) : Decidable d.AvoidsFlag := inferInstanceAs (Decidable (_ ∧ _))

namespace Draw.AvoidsFlag

variable {d : Draw}

theorem ofInt_ne {index : Int} (h : 0 ≤ index ∧ index ≤ 14) :
    BitVec.ofInt 4 index ≠ Machine.flagRegister := by
  have inside : 0 ≤ index ∧ index < 16 := by omega
  intro same
  have number := Machine.toNat_ofInt_of_inside inside
  rw [same] at number
  change (15 : Int) = index at number
  omega

theorem x_ne (h : d.AvoidsFlag) : BitVec.ofInt 4 d.x ≠ Machine.flagRegister := ofInt_ne h.1

theorem y_ne (h : d.AvoidsFlag) : BitVec.ofInt 4 d.y ≠ Machine.flagRegister := ofInt_ne h.2

end Draw.AvoidsFlag

/-- Draws that each come an even number of times are even in number, whichever are counted. -/
theorem even_countP {draws : List Draw} (even : ∀ d, Even (draws.count d)) (p : Draw → Bool) :
    Even (draws.countP p) := by
  rw [even_iff_two_dvd, ← List.sum_map_count_dedup_filter_eq_countP]
  apply List.dvd_sum
  intro count mem
  obtain ⟨d, -, rfl⟩ := List.mem_map.mp mem
  exact (even d).two_dvd

/-- One more changes whether a number is odd. -/
theorem odd_add_ite (n : Nat) (more : Bool) :
    decide (Odd (n + if more = true then 1 else 0)) = (more ^^ decide (Odd n)) := by
  cases more with
  | false => rw [if_neg Bool.false_ne_true, Nat.add_zero, Bool.false_xor]
  | true =>
    rw [if_pos rfl, Bool.true_xor, ← decide_not]
    exact decide_eq_decide.mpr Nat.odd_add_one

namespace Machine

/-- Draw one after the other; the first refusal ends it. -/
def drawAll (m : Machine) (draws : List Draw) : Except ArgumentError Machine :=
  draws.foldlM (fun m d => m.drawSprite d.x d.y d.height) m

/-- Whether a draw shows a set bit of its sprite at a position. -/
def Covers (m : Machine) (d : Draw) (r c : Nat) : Prop :=
  m.Shows (.ofInt 4 d.x) (.ofInt 4 d.y) d.height r c

instance (m : Machine) (d : Draw) (r c : Nat) : Decidable (m.Covers d r c) :=
  inferInstanceAs (Decidable (m.Shows _ _ _ r c))

/-- The second machine has what draws read but for the flag: the other registers, the index
register, memory and the dimensions of the picture. -/
structure SameSprites (m m' : Machine) : Prop where
  register_eq : ∀ r, r ≠ flagRegister → m'.register r = m.register r
  index_eq : m'.index = m.index
  memory_eq : m'.memory = m.memory
  size_eq : m'.framebuffer.size = m.framebuffer.size

namespace SameSprites

variable {m m' m'' : Machine}

theorem refl (m : Machine) : SameSprites m m := ⟨fun _ _ => rfl, rfl, rfl, rfl⟩

theorem trans (h : SameSprites m m') (h' : SameSprites m' m'') : SameSprites m m'' where
  register_eq r other := (h'.register_eq r other).trans (h.register_eq r other)
  index_eq := h'.index_eq.trans h.index_eq
  memory_eq := h'.memory_eq.trans h.memory_eq
  size_eq := h'.size_eq.trans h.size_eq

theorem draw (m : Machine) (x y : Nibble) (height : Nat) : SameSprites m (m.draw x y height) where
  register_eq r other := by rw [register_draw, if_neg other.symm]
  index_eq := rfl
  memory_eq := rfl
  size_eq := Framebuffer.size_flipAll _ _

end SameSprites

/-! ## One draw -/

section

variable {m m' : Machine} {d : Draw}

/-- The machine that a draw leaves. -/
def drawn (m : Machine) (d : Draw) : Machine :=
  m.draw (.ofInt 4 d.x) (.ofInt 4 d.y) d.height.toNat

theorem drawSprite_eq (m : Machine) (avoids : d.AvoidsFlag) :
    m.drawSprite d.x d.y d.height = .ok (m.drawn d) := by
  obtain ⟨hx, hy⟩ := avoids
  rw [drawSprite, registerOf, registerOf, if_pos (by omega), if_pos (by omega)]
  rfl

theorem lit_drawn (m : Machine) (d : Draw) (r c : Nat) :
    (m.drawn d).framebuffer.lit r c = (m.framebuffer.lit r c ^^ decide (m.Covers d r c)) :=
  m.lit_draw _ _ d.height r c

theorem dirty_drawn_iff (m : Machine) (d : Draw) :
    (m.drawn d).framebuffer.dirty = true ↔
      m.framebuffer.dirty = true ∨ ∃ r c, m.Covers d r c :=
  m.dirty_draw_iff _ _ d.height

theorem flag_drawn_iff (m : Machine) (d : Draw) :
    (m.drawn d).register flagRegister = 1 ↔
      ∃ r c, m.Covers d r c ∧ m.framebuffer.lit r c = true := by
  have collides : _ ↔ ∃ r c, m.Covers d r c ∧ m.framebuffer.lit r c = true :=
    m.collides_iff _ _ d.height
  rw [← collides, drawn, register_draw, if_pos rfl]
  split <;> simp_all

/-- Draws before it do not change what a draw shows. -/
theorem SameSprites.covers_iff (same : SameSprites m m') (avoids : d.AvoidsFlag) (r c : Nat) :
    m'.Covers d r c ↔ m.Covers d r c := by
  rw [Covers, Covers, Shows, Shows, same.register_eq _ avoids.x_ne, same.register_eq _ avoids.y_ne,
    same.index_eq, same.memory_eq, same.size_eq]

/-! ## A list of draws -/

/-- What draws leave of a machine: the pixels are inverted as often as draws show them, and the
picture is marked if it was or one of them shows anything. -/
structure Drawn (m m' : Machine) (draws : List Draw) : Prop where
  same : SameSprites m m'
  lit_eq : ∀ r c, m'.framebuffer.lit r c =
    (m.framebuffer.lit r c ^^ decide (Odd (draws.countP fun d => m.Covers d r c)))
  dirty_iff : m'.framebuffer.dirty = true ↔
    m.framebuffer.dirty = true ∨ ∃ d ∈ draws, ∃ r c, m.Covers d r c

theorem exists_drawAll (m : Machine) {draws : List Draw} (avoids : ∀ d ∈ draws, d.AvoidsFlag) :
    ∃ m', m.drawAll draws = .ok m' ∧ Drawn m m' draws := by
  induction draws generalizing m with
  | nil => exact ⟨m, rfl, .refl m, by simp, by simp⟩
  | cons d draws ih =>
    obtain ⟨first, rest⟩ := List.forall_mem_cons.mp avoids
    obtain ⟨m', ran, drawn⟩ := ih (m.drawn d) rest
    have one : SameSprites m (m.drawn d) := .draw ..
    -- The later draws show the same beside the flag that the first one has written.
    have later {d' : Draw} (mem : d' ∈ draws) (r c : Nat) :
        (m.drawn d).Covers d' r c ↔ m.Covers d' r c := one.covers_iff (rest d' mem) r c
    refine ⟨m', ?_, one.trans drawn.same, ?_, ?_⟩
    · rw [drawAll, List.foldlM_cons, m.drawSprite_eq first]
      exact ran
    · intro r c
      have count_eq : (draws.countP fun d' => (m.drawn d).Covers d' r c) =
          draws.countP fun d' => m.Covers d' r c :=
        List.countP_congr fun d' mem => by simp only [later mem]
      rw [drawn.lit_eq, lit_drawn, count_eq, List.countP_cons, odd_add_ite, Bool.xor_assoc]
    · have shows_eq : (∃ d' ∈ draws, ∃ r c, (m.drawn d).Covers d' r c) ↔
          ∃ d' ∈ draws, ∃ r c, m.Covers d' r c :=
        exists_congr fun d' => and_congr_right fun mem => by simp only [later mem]
      rw [drawn.dirty_iff, dirty_drawn_iff, shows_eq, or_assoc]
      simp only [List.mem_cons, exists_eq_or_imp]

/-! ## Order and number of draws -/

/-- The picture after draws does not depend on their order. -/
theorem Drawn.framebuffer_eq {draws draws' : List Draw} {m₁ m₂ : Machine}
    (h : Drawn m m₁ draws) (h' : Drawn m m₂ draws') (perm : draws.Perm draws') :
    m₂.framebuffer = m₁.framebuffer := by
  refine Framebuffer.eq_of_lit (h'.same.size_eq.trans h.same.size_eq.symm) ?_ ?_
  · intro r c
    rw [h.lit_eq, h'.lit_eq, perm.countP_eq]
  · rw [Bool.eq_iff_iff, h.dirty_iff, h'.dirty_iff]
    simp only [perm.mem_iff]

/-- Draws that each come an even number of times leave the pixels as they were. -/
theorem Drawn.pixels_eq {draws : List Draw} (h : Drawn m m' draws)
    (even : ∀ d, Even (draws.count d)) : m'.framebuffer.pixels = m.framebuffer.pixels := by
  refine Framebuffer.pixels_eq_of_lit h.same.size_eq fun r c => ?_
  have cancelled : ¬ Odd (draws.countP fun d => m.Covers d r c) :=
    Nat.not_odd_iff_even.mpr (even_countP even _)
  rw [h.lit_eq, decide_eq_false cancelled, Bool.xor_false]

/-- Drawn a second time, a sprite meets the pixels that were dark before the first. -/
theorem flag_drawn_twice (m : Machine) (avoids : d.AvoidsFlag) :
    ((m.drawn d).drawn d).register flagRegister = 1 ↔
      ∃ r c, m.Covers d r c ∧ m.framebuffer.lit r c = false := by
  have one : SameSprites m (m.drawn d) := .draw ..
  rw [flag_drawn_iff]
  refine exists_congr fun r => exists_congr fun c => ?_
  rw [one.covers_iff avoids, lit_drawn]
  refine and_congr_right fun covers => ?_
  rw [decide_eq_true covers, Bool.xor_true, Bool.not_eq_true']

end

/-- Draws whose coordinates do not come from the flag register leave the same picture in every
order, and the pixels as they were if each of them comes an even number of times. A draw that is
repeated at once sets the flag exactly if a bit that it shows lay on a dark pixel before. -/
theorem drawAll_perm (m : Machine) (draws : List Draw) (avoids : ∀ d ∈ draws, d.AvoidsFlag) :
    ∃ m', m.drawAll draws = .ok m' ∧
      (∀ draws', draws.Perm draws' →
        ∃ m'', m.drawAll draws' = .ok m'' ∧ m''.framebuffer = m'.framebuffer) ∧
      ((∀ d, Even (draws.count d)) → m'.framebuffer.pixels = m.framebuffer.pixels) ∧
      ∀ d ∈ draws, ∃ m₁ m₂, m.drawSprite d.x d.y d.height = .ok m₁ ∧
        m₁.drawSprite d.x d.y d.height = .ok m₂ ∧
        (m₂.register flagRegister = 1 ↔
          ∃ r c, m.Shows (.ofInt 4 d.x) (.ofInt 4 d.y) d.height r c ∧
            m.framebuffer.lit r c = false) := by
  obtain ⟨m', ran, drawn⟩ := m.exists_drawAll avoids
  refine ⟨m', ran, ?_, drawn.pixels_eq, ?_⟩
  · intro draws' perm
    obtain ⟨m'', ran', drawn'⟩ :=
      m.exists_drawAll fun d mem => avoids d (perm.mem_iff.mpr mem)
    exact ⟨m'', ran', drawn.framebuffer_eq drawn' perm⟩
  · intro d mem
    exact ⟨_, _, m.drawSprite_eq (avoids d mem), drawSprite_eq _ (avoids d mem),
      m.flag_drawn_twice (avoids d mem)⟩

/-- A machine that points at the glyph of zero. -/
def atGlyph : Machine :=
  (Machine.powerOn (.blank .standard) (.dark .standard) (.released .hex)).setIndex 0x50

/-- Two sprites that overlap, each drawn twice in turn, leave a blank picture. -/
theorem drawAll_perm_atGlyph :
    ∃ m', atGlyph.drawAll [⟨0, 1, 5⟩, ⟨2, 14, 9⟩, ⟨0, 1, 5⟩, ⟨2, 14, 9⟩] = .ok m' ∧
      m'.framebuffer.pixels = atGlyph.framebuffer.pixels := by
  have avoids : ∀ d ∈ [⟨0, 1, 5⟩, ⟨2, 14, 9⟩, ⟨0, 1, 5⟩, ⟨2, 14, 9⟩], Draw.AvoidsFlag d := by
    decide
  obtain ⟨m', ran, -, cancelled, -⟩ := drawAll_perm atGlyph _ avoids
  refine ⟨m', ran, cancelled fun d => ?_⟩
  simp only [List.count_cons, List.count_nil]
  split <;> split <;> decide

end Machine

end Chip8
