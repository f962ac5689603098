/-!
# Readers of bytes

A reader takes what it reads off the front of a sequence of bytes. `Reads` says that it reads a
value from certain bytes, whatever follows them, so that the parts of a format are put together as
its readers are.
-/

namespace Chip8

/-- Reads a value off the front of a sequence of bytes, unless the bytes are of another form. -/
abbrev Reader (α : Type) := StateT (List UInt8) Option α

/-- The reader takes just these bytes for the value, whatever follows them. -/
def Reads (read : Reader α) (bytes : List UInt8) (a : α) : Prop :=
  ∀ rest, read.run (bytes ++ rest) = some (a, rest)

namespace Reader

/-- Some bytes, as many as are asked for. -/
def take (count : Nat) : Reader (List UInt8) := fun bytes =>
  if count ≤ bytes.length then some (bytes.take count, bytes.drop count) else none

/-- Certain bytes and no others. -/
def expect (expected : List UInt8) : Reader Unit := do
  guard ((← take expected.length) = expected)

/-- Items up to and including the first one that is the last. Each of them has to be longer than
nothing. -/
def upTo (last : α → Bool) (read : Reader α) (bytes : List UInt8) :
    Option (List α × List UInt8) :=
  match read.run bytes with
  | none => none
  | some (a, rest) =>
    if last a then some ([a], rest)
    else if rest.length < bytes.length then
      (upTo last read rest).map fun (others, rest) => (a :: others, rest)
    else none
termination_by bytes.length

/-- What a reader reads, if nothing follows it. -/
def whole (read : Reader α) (bytes : List UInt8) : Option α :=
  match read.run bytes with
  | some (a, []) => some a
  | _ => none

end Reader

namespace Reads

variable {read : Reader α} {next : α → Reader β} {bytes others : List UInt8} {a : α} {b : β}

protected theorem pure (a : α) : Reads (pure a) [] a := fun _ => rfl

theorem bind (first : Reads read bytes a) (second : Reads (next a) others b) :
    Reads (read >>= next) (bytes ++ others) b := by
  intro rest
  rw [StateT.run_bind, List.append_assoc, first]
  exact second rest

/-- What is checked after reading takes no more bytes. -/
theorem seq_pure (first : Reads read bytes a) (second : Reads (next a) [] b) :
    Reads (read >>= next) bytes b := by
  have both := first.bind second
  rwa [List.append_nil] at both

theorem of_check {p : Prop} [Decidable p] (h : p) : Reads (guard p) [] () := by
  have passed : (guard p : Reader Unit) = pure () := if_pos h
  rw [passed]
  exact Reads.pure ()

theorem take (bytes : List UInt8) : Reads (Reader.take bytes.length) bytes bytes := by
  intro rest
  change (if _ then _ else _) = _
  rw [if_pos (by rw [List.length_append]; omega), List.take_left, List.drop_left]

theorem expect (bytes : List UInt8) : Reads (Reader.expect bytes) bytes () :=
  (take bytes).seq_pure (of_check rfl)

/-- Items one after the other are read by reading each of them. -/
theorem mapM {read : ι → Reader α} {encode : ι → List UInt8} {value : ι → α} {items : List ι}
    (each : ∀ i ∈ items, Reads (read i) (encode i) (value i)) :
    Reads (items.mapM read) (items.flatMap encode) (items.map value) := by
  induction items with
  | nil => exact Reads.pure []
  | cons i items ih =>
    rw [List.mapM_cons, List.flatMap_cons, List.map_cons]
    refine (each i List.mem_cons_self).bind ?_
    exact (ih fun j mem => each j (List.mem_cons_of_mem i mem)).seq_pure (Reads.pure _)

/-- Items are read up to the last one. -/
theorem upTo (last : α → Bool) (encode : α → List UInt8) {items : List α} (z : α)
    (each : ∀ i ∈ items, Reads read (encode i) i ∧ last i = false ∧ encode i ≠ [])
    (final : Reads read (encode z) z) (ends : last z = true) :
    Reads (Reader.upTo last read) ((items ++ [z]).flatMap encode) (items ++ [z]) := by
  induction items with
  | nil =>
    intro rest
    change Reader.upTo last read _ = _
    rw [List.nil_append, List.flatMap_singleton, Reader.upTo, final rest]
    exact if_pos ends
  | cons i items ih =>
    intro rest
    obtain ⟨item, continues, nonempty⟩ := each i List.mem_cons_self
    have later : Reader.upTo last read _ = _ :=
      ih (fun j mem => each j (List.mem_cons_of_mem i mem)) rest
    have shorter (tail : List UInt8) : tail.length < (encode i ++ tail).length := by
      rw [List.length_append]
      exact Nat.lt_add_of_pos_left (List.length_pos_iff.mpr nonempty)
    change Reader.upTo last read _ = _
    rw [List.cons_append, List.flatMap_cons, List.append_assoc, Reader.upTo, item]
    simp only [continues, Bool.false_eq_true, if_false, shorter, if_true, later]
    rfl

theorem whole (h : Reads read bytes a) : Reader.whole read bytes = some a := by
  have all := h []
  rw [List.append_nil] at all
  rw [Reader.whole, all]

end Reads

end Chip8
