import Chip8.Memory.Basic

/-!
# Memory dumps

A dump shows a range of cells in lines of equal width, each led by the address of its first cell.
Addresses advance from the start by the width and stop before the end; a negative width counts down.
-/

namespace Chip8

/-- The places from `start` on in strides of `stride` that lie before `stop` in its direction. -/
def strides (start stop stride : Int) : List Int :=
  let count :=
    if 0 < stride then (stop - start + stride - 1) / stride
    else if stride < 0 then (start - stop - stride - 1) / -stride
    else 0
  (List.range count.toNat).map fun (k : Nat) => start + k * stride

namespace Memory

/-- The two-digit fields of a line, separated by blanks. -/
def dumpFields (bytes : List Byte) : String :=
  " ".intercalate (bytes.map (Text.hexBits 2))

/-- The cells from `start` up to one width further, but not beyond `stop`, led by their address. -/
def dumpLine (m : Memory) (stop width start : Int) : String :=
  let bytes := Span.slice m.cells start (min (start + width) stop)
  "$" ++ Text.hex 3 start ++ ": " ++ dumpFields bytes.toList

/-- The lines of a dump. Lines without a width are refused. -/
def dump (m : Memory) (start stop width : Int) : Except ArgumentError (List String) :=
  if width = 0 then .error .dumpWidth
  else .ok ((strides start stop width).map (m.dumpLine stop width))

end Memory

end Chip8
