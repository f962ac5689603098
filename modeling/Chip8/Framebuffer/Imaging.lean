import Chip8.Framebuffer.Png

/-!
# The imaging library

`imaging` makes images in memory and writes them as PNG files. It has bounds: the sides are counted
in words of 32 bits with a sign, the samples have to be stored, and a row has to be read or written
in one piece.
-/

namespace Chip8

namespace Image

/-- The place in a side of one length that a place in a side of another length shows: the one that
lies under its middle. -/
def nearest (length target place : Nat) : Nat := (2 * place + 1) * length / (2 * target)

/-- The image in another size, with the nearest sample for each place. -/
def resized (i : Image) (width height : Nat) : Image where
  width := width
  height := height
  samples := Array.ofFn fun k : Fin (width * height) =>
    i.sample (nearest i.height height (k / width)) (nearest i.width width (k % width))
  size_samples := Array.size_ofFn

/-! ## Bounds -/

/-- The first length that a side may not have. -/
def sideLimit : Nat := 0x80000000

/-- The greatest width of an image that is stored. -/
def storedWidth : Nat := 536870910

/-- The most samples of an image that is stored. -/
def sampleLimit : Nat := 0x100000000

/-- The greatest width of an image that is read or written row by row. -/
def rowLimit : Nat := 268435448

/-- The size of an image that can be stored. -/
def checkStored (width height : Nat) : Except ArgumentError Unit :=
  if sideLimit ≤ width then .error (.imageSide width)
  else if sideLimit ≤ height then .error (.imageSide height)
  else if storedWidth < width ∨ sampleLimit < width * height then .error .imageStorage
  else .ok ()

/-- The size of an image that can be read or written. -/
def checkRows (width height : Nat) : Except ArgumentError Unit :=
  if rowLimit < width then .error .outOfMemory else checkStored width height

end Image

/-- An imaging library that writes PNG files. -/
def imaging : Imaging where
  fromSamples width height samples := do
    Image.checkRows width height
    match Image.ofSamples? width height samples with
    | some i => return i
    | none => .error .imageData
  resize i width height := do
    Image.checkStored width height
    return i.resized width height
  save i := do
    Image.checkRows i.width i.height
    return Png.encode i

/-- The picture as an image, magnified by a factor, if it can also be written. -/
def Framebuffer.image (f : Framebuffer) (factor : Int) : Except ArgumentError Image := do
  let i ← f.magnified imaging factor
  Image.checkRows i.width i.height
  return i

end Chip8
