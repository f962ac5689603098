import Chip8.Proofs.Machine.Faults
import Chip8.Proofs.Memory.Block
import Chip8.Proofs.Sprite.Cells

/-!
# The shape of a machine

No instruction changes where font and program area lie, and with it the number of cells, or the
dimensions of the picture.
-/

namespace Chip8

namespace Memory

theorem layout_load {m m' : Memory} {image : List Byte} (h : m.load image = .ok m') :
    m'.layout = m.layout := by
  rw [load] at h
  split at h
  · cases h
    rfl
  · contradiction

end Memory

theorem Framebuffer.size_set {f f' : Framebuffer} {row col : Int} {lit : Bool}
    (h : f.set row col lit = .ok f') : f'.size = f.size := by
  rw [set] at h
  split at h
  · cases h
    rfl
  · contradiction

namespace Machine

/-- Drawing with numbered registers is drawing, unless it is refused. -/
theorem exists_of_drawSprite {m m' : Machine} {x y height : Int}
    (h : m.drawSprite x y height = .ok m') : ∃ x y, m' = m.draw x y height.toNat := by
  rw [drawSprite] at h
  cases first : registerOf x with
  | error e => simp [first, bind, Except.bind] at h
  | ok x =>
    cases second : registerOf y with
    | error e => simp [first, second, bind, Except.bind] at h
    | ok y =>
      simp only [first, second, bind, Except.bind, pure, Except.pure, Except.ok.injEq] at h
      exact ⟨x, y, h.symm⟩

/-- The second machine has the layout and the picture's dimensions of the first. -/
structure SameShape (m m' : Machine) : Prop where
  layout_eq : m'.memory.layout = m.memory.layout
  size_eq : m'.framebuffer.size = m.framebuffer.size

namespace SameShape

theorem refl (m : Machine) : SameShape m m := ⟨rfl, rfl⟩

theorem trans {m₁ m₂ m₃ : Machine} (h₁ : SameShape m₁ m₂) (h₂ : SameShape m₂ m₃) :
    SameShape m₁ m₃ :=
  ⟨h₂.layout_eq.trans h₁.layout_eq, h₂.size_eq.trans h₁.size_eq⟩

theorem powerOn (m : Machine) (keypad : Keypad) :
    SameShape m (.powerOn (.blank m.memory.layout) (.dark m.framebuffer.size) keypad) where
  layout_eq := by simp only [Machine.powerOn, Memory.blank]
  size_eq := by simp only [Machine.powerOn, Framebuffer.dark]

theorem skipIf (m : Machine) (condition : Bool) : SameShape m (m.skipIf condition) := by
  cases condition with
  | true => exact ⟨rfl, rfl⟩
  | false => exact .refl m

theorem draw (m : Machine) (x y : Nibble) (height : Nat) : SameShape m (m.draw x y height) :=
  ⟨rfl, Framebuffer.size_flipAll _ _⟩

theorem alu (m : Machine) (op : Alu) (x y : Nibble) : SameShape m (m.alu op x y) := by
  cases op <;> exact ⟨rfl, rfl⟩

/-- The machine of a result has the shape of the machine that the result is known to hold. -/
theorem of_some {m known m' : Machine} {source source' : Random.Source}
    (h : some (known, source) = some (m', source')) (kept : SameShape m known) :
    SameShape m m' := by
  obtain ⟨rfl, -⟩ := Prod.mk.inj (Option.some.inj h)
  exact kept

/-- No instruction changes the shape. -/
theorem perform {m m' : Machine} {reading : Option Int} {source source' : Random.Source}
    {i : Instruction} (h : m.perform reading source i = some (m', source')) : SameShape m m' := by
  cases i with
  | ret =>
    rw [Machine.perform] at h
    cases stack : m.stack with
    | nil =>
      rw [stack] at h
      contradiction
    | cons top rest =>
      rw [stack] at h
      exact of_some h ⟨rfl, rfl⟩
  | waitKey x =>
    cases reading with
    | none => exact of_some h ⟨rfl, rfl⟩
    | some key => exact of_some h ⟨rfl, rfl⟩
  | storeDecimal | storeRegisters => exact of_some h ⟨Memory.layout_writeBlock .., rfl⟩
  | draw => exact of_some h (draw ..)
  | alu => exact of_some h (alu ..)
  | skipIfByte | skipUnlessByte | skipIfEqual | skipUnlessEqual | skipIfKey | skipUnlessKey =>
    exact of_some h (skipIf ..)
  | _ => exact of_some h ⟨rfl, rfl⟩

theorem pop {m m' : Machine} {top : Word} (h : m.pop = .ok (top, m')) : SameShape m m' := by
  rw [Machine.pop] at h
  split at h
  · contradiction
  · cases h
    exact ⟨rfl, rfl⟩

theorem drawSprite {m m' : Machine} {x y height : Int} (h : m.drawSprite x y height = .ok m') :
    SameShape m m' := by
  obtain ⟨x, y, rfl⟩ := exists_of_drawSprite h
  exact draw ..

theorem execute {m m' : Machine} {word : Int} {reading : Option Int}
    {source source' : Random.Source} {pc : Int}
    (h : m.execute word reading source pc = .ok (m', source')) : SameShape m m' := by
  obtain ⟨i, -, performed⟩ := exists_of_execute h
  exact perform performed

end SameShape

end Machine

end Chip8
