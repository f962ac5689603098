import Chip8.ArgumentError

/-!
# The framebuffer

A rectangle of pixels, each lit or dark, stored row after row. Any change of a pixel, even to the
value it had, marks the framebuffer dirty until the mark is taken.

Two-dimensional access goes through `Framebuffer.Size.offset?`, which turns a position inside the
rectangle into an index of the pixel array.
-/

namespace Chip8

namespace Framebuffer

/-- The dimensions of a framebuffer, neither of which is zero. -/
structure Size where
  rows : Nat
  cols : Nat
  rows_pos : 0 < rows
  cols_pos : 0 < cols
  deriving DecidableEq

namespace Size

/-- The usual dimensions. -/
def standard : Size := ⟨32, 64, by decide, by decide⟩

/-- Dimensions given as integers, if both are positive. -/
def ofInts? (rows cols : Int) : Option Size :=
  if h : 0 < rows ∧ 0 < cols then
    some ⟨rows.toNat, cols.toNat, by omega, by omega⟩
  else none

/-- Dimensions given as integers, or the reason why they are refused. -/
def ofInts (rows cols : Int) : Except ArgumentError Size :=
  match ofInts? rows cols with
  | some size => .ok size
  | none => .error (.framebufferSize rows cols)

/-- The number of pixels. -/
def area (s : Size) : Nat := s.rows * s.cols

/-- Dimensions of a framebuffer whose pixels can be told apart, and stored by a host that stores so
many pixels. -/
def check (s : Size) (storage : Nat) : Except ArgumentError Size :=
  if ArgumentError.wordLimit ≤ s.area then .error .framebufferArea
  else if storage < s.area then .error .outOfMemory
  else .ok s

/-- The index of a pixel, counted row after row. -/
def offset (s : Size) (row col : Nat) : Nat := row * s.cols + col

/-- A pixel inside the rectangle has an index inside the array. -/
theorem offset_lt_area {s : Size} {row col : Nat} (hr : row < s.rows) (hc : col < s.cols) :
    s.offset row col < s.area := by
  have h : (row + 1) * s.cols ≤ s.rows * s.cols := Nat.mul_le_mul_right _ hr
  have e : (row + 1) * s.cols = row * s.cols + s.cols := Nat.succ_mul row s.cols
  simp only [offset, area]
  omega

/-- Positions with different rows or columns have different indices. -/
theorem offset_inj {s : Size} {r c row col : Nat} (hc : c < s.cols) (hcol : col < s.cols) :
    s.offset r c = s.offset row col ↔ r = row ∧ c = col := by
  constructor
  · intro h
    simp only [offset] at h
    have hr : r = row := by
      have h₁ : (r * s.cols + c) / s.cols = r := by
        rw [Nat.mul_comm, Nat.mul_add_div s.cols_pos, Nat.div_eq_of_lt hc, Nat.add_zero]
      have h₂ : (row * s.cols + col) / s.cols = row := by
        rw [Nat.mul_comm, Nat.mul_add_div s.cols_pos, Nat.div_eq_of_lt hcol, Nat.add_zero]
      rw [← h₁, h, h₂]
    subst hr
    exact ⟨rfl, by omega⟩
  · rintro ⟨rfl, rfl⟩
    rfl

/-- The index of a position given by integers, if it lies inside the rectangle. -/
def offset? (s : Size) (row col : Int) : Option (Fin s.area) :=
  if h : (0 ≤ row ∧ row < s.rows) ∧ 0 ≤ col ∧ col < s.cols then
    some ⟨s.offset row.toNat col.toNat, offset_lt_area (by omega) (by omega)⟩
  else none

/-- A position of natural numbers has an index exactly inside the rectangle. -/
theorem offset?_natCast (s : Size) (row col : Nat) :
    s.offset? row col =
      if h : row < s.rows ∧ col < s.cols then some ⟨s.offset row col, offset_lt_area h.1 h.2⟩
      else none := by
  rw [offset?]
  split <;> split
  · simp only [Int.toNat_natCast]
  · omega
  · omega
  · rfl

end Size

end Framebuffer

/-- A rectangle of pixels and the mark that it changed. -/
structure Framebuffer where
  size : Framebuffer.Size
  pixels : Array Bool
  dirty : Bool
  size_pixels : pixels.size = size.area
  deriving DecidableEq

namespace Framebuffer

/-- A framebuffer with every pixel dark. -/
def dark (s : Size) : Framebuffer where
  size := s
  pixels := Array.replicate s.area false
  dirty := false
  size_pixels := Array.size_replicate

/-- A framebuffer with every pixel dark, unless it is too large for a host that stores so many
pixels. -/
def createWithin (storage : Nat) (s : Size) : Except ArgumentError Framebuffer :=
  (s.check storage).map dark

/-- The pixels that a usual host stores. -/
def usualStorage : Nat := 0x40000000

/-- A framebuffer with every pixel dark on a usual host. -/
def create (s : Size) : Except ArgumentError Framebuffer := createWithin usualStorage s

/-- Turn every pixel off. -/
def clear (f : Framebuffer) : Framebuffer := { dark f.size with dirty := true }

/-- Whether a pixel is lit; there are no lit pixels outside the rectangle. -/
def lit (f : Framebuffer) (row col : Nat) : Bool :=
  if row < f.size.rows ∧ col < f.size.cols then f.pixels[f.size.offset row col]?.getD false
  else false

/-- Give a pixel a value and mark the framebuffer dirty. -/
def setAt (f : Framebuffer) (i : Fin f.size.area) (value : Bool) : Framebuffer :=
  { f with
    pixels := f.pixels.set i value (by rw [f.size_pixels]; exact i.isLt)
    dirty := true
    size_pixels := by rw [Array.size_set]; exact f.size_pixels }

/-- A pixel that was given a value has it, and no other pixel is affected. -/
theorem lit_setAt (f : Framebuffer) {row col : Nat} (hr : row < f.size.rows)
    (hc : col < f.size.cols) (value : Bool) (r c : Nat) :
    (f.setAt ⟨f.size.offset row col, Size.offset_lt_area hr hc⟩ value).lit r c =
      if r = row ∧ c = col then value else f.lit r c := by
  by_cases h : r < f.size.rows ∧ c < f.size.cols
  · have e : f.size.offset r c = f.size.offset row col ↔ r = row ∧ c = col :=
      Size.offset_inj h.2 hc
    simp only [lit, setAt, h, and_self, if_true, Array.getElem?_set, e,
      eq_comm (a := f.size.offset row col)]
    split <;> simp
  · have hne : ¬ (r = row ∧ c = col) := by
      rintro ⟨rfl, rfl⟩
      exact h ⟨hr, hc⟩
    simp [lit, setAt, h, hne]

/-- No pixel of a dark framebuffer is lit. -/
@[simp]
theorem lit_dark (s : Size) (r c : Nat) : (dark s).lit r c = false := by
  rw [lit]
  split
  · simp only [dark, Array.getElem?_replicate]
    split <;> rfl
  · rfl

@[simp]
theorem lit_clear (f : Framebuffer) (r c : Nat) : f.clear.lit r c = false := lit_dark f.size r c

/-- The value of the pixel at a position, which has to lie inside. -/
def get (f : Framebuffer) (row col : Int) : Except ArgumentError Bool :=
  match f.size.offset? row col with
  | some i =>
    have := f.size_pixels
    .ok f.pixels[i]
  | none => .error (.position row col)

/-- Give the pixel at a position, which has to lie inside, a value. -/
def set (f : Framebuffer) (row col : Int) (value : Bool) : Except ArgumentError Framebuffer :=
  match f.size.offset? row col with
  | some i => .ok (f.setAt i value)
  | none => .error (.position row col)

/-- The framebuffer without its dirty mark. -/
def clean (f : Framebuffer) : Framebuffer := { f with dirty := false }

/-- The dirty mark, and the framebuffer without it. -/
def takeDirty (f : Framebuffer) : Bool × Framebuffer := (f.dirty, f.clean)

/-- Whether every pixel is dark. -/
def isBlank (f : Framebuffer) : Bool := !f.pixels.any id

/-- The number of lit pixels. -/
def litCount (f : Framebuffer) : Nat := f.pixels.countP id

/-- A one-line summary. -/
def summary (f : Framebuffer) : String :=
  let dirty := if f.dirty then "True" else "False"
  s!"Framebuffer(rows={f.size.rows}, cols={f.size.cols}, lit={f.litCount}, dirty={dirty})"

end Framebuffer

end Chip8
