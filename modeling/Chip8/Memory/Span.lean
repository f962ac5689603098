/-!
# Spans of a sequence

A span is a pair of places in a sequence. A place below zero counts from the end, and a place
outside the sequence is moved to its nearer end. `slice` reads a span; `splice` puts other elements
in its stead, which lengthens the sequence when the span holds fewer elements than are put there.
-/

namespace Chip8.Span

/-- The index that a place denotes in a sequence of the given length. -/
def index (length : Nat) (place : Int) : Nat :=
  if place < 0 then (place + length).toNat else min place.toNat length

/-- The elements of a span. -/
def slice (xs : Array α) (start stop : Int) : Array α :=
  xs.extract (index xs.size start) (index xs.size stop)

/-- The sequence with the elements of a span replaced. A span that ends before it starts is empty
and lies where it starts. -/
def splice (xs : Array α) (start stop : Int) (replacement : Array α) : Array α :=
  let lower := index xs.size start
  let upper := max lower (index xs.size stop)
  xs.extract 0 lower ++ replacement ++ xs.extract upper xs.size

theorem index_le (length : Nat) (place : Int) : index length place ≤ length := by
  rw [index]
  split <;> omega

theorem index_of_nonneg {length : Nat} {place : Int} (h : 0 ≤ place) :
    index length place = min place.toNat length := by
  rw [index, if_neg (by omega)]

theorem size_splice (xs : Array α) (start stop : Int) (replacement : Array α) :
    (splice xs start stop replacement).size =
      index xs.size start + replacement.size
        + (xs.size - max (index xs.size start) (index xs.size stop)) := by
  have := index_le xs.size start
  simp only [splice, Array.size_append, Array.size_extract]
  omega

/-- Replacing a span by as many elements as it is long loses none of the others. -/
theorem size_le_size_splice (xs : Array α) (start : Int) (replacement : Array α) :
    xs.size ≤ (splice xs start (start + replacement.size) replacement).size := by
  rw [size_splice]
  simp only [index]
  split <;> split <;> omega

/-- A span that lies inside the sequence is replaced by as many elements without a change of
length. -/
theorem size_splice_of_le (xs : Array α) (start : Nat) (replacement : Array α)
    (h : start + replacement.size ≤ xs.size) :
    (splice xs start (start + replacement.size) replacement).size = xs.size := by
  rw [size_splice, index_of_nonneg (by omega), index_of_nonneg (by omega)]
  omega

end Chip8.Span
