import Chip8.Framebuffer.Basic

/-!
# The framebuffer as rows, text and samples

Readers of the whole picture. Rows are cut from the pixel array one after the other; the texts and
the grey samples are the rows written with other values for lit and dark.
-/

namespace Chip8.Framebuffer

/-- The pixels of one row. -/
def row (f : Framebuffer) (r : Nat) : List Bool :=
  (f.pixels.extract (r * f.size.cols) ((r + 1) * f.size.cols)).toList

/-- The picture, row by row from the top. -/
def toRows (f : Framebuffer) : List (List Bool) := (List.range f.size.rows).map f.row

/-- The picture as one text a row, with the given texts for lit and dark pixels. -/
def textRows (f : Framebuffer) (on off : String) : List String :=
  f.toRows.map fun pixels => String.join (pixels.map fun bit => if bit then on else off)

/-- The picture as a single text of lines. -/
def toText (f : Framebuffer) (on off : String) : String := "\n".intercalate (f.textRows on off)

/-- The picture as grey samples, white for lit and black for dark. -/
def samples (f : Framebuffer) : List Nat := f.pixels.toList.map fun bit => if bit then 255 else 0

end Chip8.Framebuffer
