import Chip8.Framebuffer.Text

/-!
# Images of a picture

A picture is handed on as an image of grey samples. Making an image of samples, changing its size
and writing it to a file are left to an imaging library: `Imaging` is what is asked of it, and
`Framebuffer.render` asks it, whichever library it is.
-/

namespace Chip8

/-- A rectangle of grey samples, stored row after row. -/
structure Image where
  width : Nat
  height : Nat
  samples : Array UInt8
  size_samples : samples.size = width * height
  deriving DecidableEq

namespace Image

/-- An image of samples given row after row, if they are as many as it has. -/
def ofSamples? (width height : Nat) (samples : List UInt8) : Option Image :=
  if size : samples.length = width * height then
    some ⟨width, height, samples.toArray, by rw [List.size_toArray, size]⟩
  else none

/-- The sample in a row and a column, black outside of the image. -/
def sample (i : Image) (r c : Nat) : UInt8 := i.samples[r * i.width + c]?.getD 0

/-- The samples of a row, from the left. -/
def row (i : Image) (r : Nat) : List UInt8 :=
  (i.samples.extract (r * i.width) ((r + 1) * i.width)).toList

/-- Where the image is white, row by row from the top. -/
def toRows (i : Image) : List (List Bool) :=
  (List.range i.height).map fun r => (i.row r).map (· = 255)

/-- The number of white samples. -/
def whiteCount (i : Image) : Nat := i.samples.count 255

end Image

/-- What is asked of an imaging library. It may refuse whatever it is asked. -/
structure Imaging where
  /-- An image of samples given row after row. -/
  fromSamples : (width height : Nat) → List UInt8 → Except ArgumentError Image
  /-- An image in another size, with the nearest sample for each of its places. -/
  resize : Image → (width height : Nat) → Except ArgumentError Image
  /-- The bytes of a file that holds an image. -/
  save : Image → Except ArgumentError (List UInt8)

namespace Framebuffer

/-- The picture as an image, magnified by a factor, which has to be positive. -/
def magnified (f : Framebuffer) (lib : Imaging) (factor : Int) : Except ArgumentError Image :=
  if factor ≤ 0 then .error (.scale factor)
  else do
    let i ← lib.fromSamples f.size.cols f.size.rows (f.samples.map Nat.toUInt8)
    if factor = 1 then return i
    else lib.resize i (f.size.cols * factor.toNat) (f.size.rows * factor.toNat)

/-- The bytes of a file that shows the picture, magnified by a factor. -/
def render (f : Framebuffer) (lib : Imaging) (factor : Int) : Except ArgumentError (List UInt8) :=
  f.magnified lib factor >>= lib.save

end Framebuffer

end Chip8
