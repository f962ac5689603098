import Chip8.Framebuffer.Text

/-!
# Rows of a picture

Rows are cut out of the pixel array; each of them shows the pixels of its own positions. So a text
made of rows has the character of a pixel at the place of that pixel.
-/

namespace Chip8

/-- Stretches of one length, taken one after the other, are the first entries of an array. -/
theorem flatten_stretches (xs : Array α) (width count : Nat) :
    ((List.range count).map fun r => (xs.extract (r * width) ((r + 1) * width)).toList).flatten =
      (xs.extract 0 (count * width)).toList := by
  induction count with
  | zero => simp
  | succ count ih =>
    have le : count * width ≤ (count + 1) * width := Nat.mul_le_mul_right _ (Nat.le_succ count)
    rw [List.range_succ, List.map_append, List.flatten_append, ih, List.map_singleton,
      List.flatten_singleton, ← Array.toList_append, Array.extract_append_extract, Nat.zero_min,
      Nat.max_eq_right le]

/-- A stretch has the entries of its places, whatever stands for the ones that are missing. -/
theorem stretch_eq (xs : Array α) (missing : α) {width r : Nat}
    (inside : (r + 1) * width ≤ xs.size) :
    (xs.extract (r * width) ((r + 1) * width)).toList =
      (List.range width).map fun c => xs[r * width + c]?.getD missing := by
  have length : (r + 1) * width - r * width = width := by
    rw [Nat.succ_mul, Nat.add_sub_cancel_left]
  apply List.ext_getElem?
  intro c
  rw [Array.getElem?_toList, Array.getElem?_extract, Nat.min_eq_left inside, length,
    List.getElem?_map]
  by_cases hc : c < width
  · have place : r * width + c < xs.size := by
      rw [Nat.succ_mul] at inside
      omega
    rw [if_pos hc, List.getElem?_range hc, Option.map_some, Array.getElem?_eq_getElem place,
      Option.getD_some]
  · rw [if_neg hc, List.getElem?_eq_none (by rw [List.length_range]; omega), Option.map_none]

namespace Framebuffer

variable (f : Framebuffer)

/-- A row shows the pixels of its positions, from the left. -/
theorem row_eq {r : Nat} (h : r < f.size.rows) :
    f.row r = (List.range f.size.cols).map (f.lit r) := by
  have inside : (r + 1) * f.size.cols ≤ f.pixels.size := by
    rw [f.size_pixels]
    exact Nat.mul_le_mul_right _ h
  refine (stretch_eq f.pixels false inside).trans (List.map_congr_left fun c mem => ?_)
  rw [lit, if_pos ⟨h, List.mem_range.mp mem⟩]
  rfl

/-- The picture shows every pixel at its position. -/
theorem toRows_eq :
    f.toRows = (List.range f.size.rows).map fun r => (List.range f.size.cols).map (f.lit r) := by
  apply List.map_congr_left
  intro r mem
  exact f.row_eq (List.mem_range.mp mem)

/-- The first rows one after the other are the first pixels of the array. -/
theorem flatten_rows (count : Nat) :
    ((List.range count).map f.row).flatten =
      (f.pixels.extract 0 (count * f.size.cols)).toList :=
  flatten_stretches f.pixels f.size.cols count

/-- The pixel array holds the rows one after the other. -/
theorem toList_pixels : f.pixels.toList = f.toRows.flatten := by
  have all : f.size.rows * f.size.cols = f.pixels.size := f.size_pixels.symm
  rw [toRows, flatten_rows, all, Array.extract_size]

/-- Written with two characters, a row has the character of each pixel at its place. -/
theorem join_characters (on off : Char) (pixels : List Bool) :
    String.join (pixels.map fun bit => if bit then String.singleton on else String.singleton off) =
      String.ofList (pixels.map fun bit => if bit then on else off) := by
  induction pixels with
  | nil => rfl
  | cons bit pixels ih =>
    have first : (if bit then String.singleton on else String.singleton off) =
        String.ofList [if bit then on else off] := by
      cases bit <;> exact String.singleton_eq_ofList
    rw [List.map_cons, List.map_cons, String.join_cons, ih, first, ← String.ofList_append]
    rfl

/-- The text of a picture that is written with two characters. -/
theorem textRows_characters (on off : Char) :
    f.textRows (String.singleton on) (String.singleton off) =
      (List.range f.size.rows).map fun r =>
        String.ofList ((List.range f.size.cols).map fun c => if f.lit r c then on else off) := by
  rw [textRows, toRows_eq, List.map_map]
  apply List.map_congr_left
  intro r _
  rw [Function.comp_apply, join_characters, List.map_map]
  rfl

end Framebuffer

end Chip8
