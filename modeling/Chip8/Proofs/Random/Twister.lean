import Chip8.Random.Source
import Mathlib.Data.Nat.Find

/-!
# Bytes drawn from words

A byte is drawn from the first word whose upper nine bits are a byte. The tries that this may take
are bounded, but the bound is seen only if so many words in a row are passed over: then the byte is
zero.
-/

namespace Chip8.Random

namespace Twister

/-- The generator after it handed out some words. -/
def after (t : Twister) : Nat → Twister
  | 0 => t
  | count + 1 => t.next.2.after count

/-- A word that a byte is taken from: its upper nine bits are a byte. -/
def Accepted (w : UInt32) : Prop := w >>> 23 < 256

instance (w : UInt32) : Decidable (Accepted w) := inferInstanceAs (Decidable (_ < _))

/-- The byte that is taken from a word. -/
def byteOf (w : UInt32) : BitVec 8 := .ofNat 8 (w >>> 23).toNat

/-- Nothing of the upper nine bits is lost. -/
theorem toNat_byteOf {w : UInt32} (h : Accepted w) : (byteOf w).toNat = (w >>> 23).toNat := by
  have lt : (w >>> 23).toNat < 256 := UInt32.lt_iff_toNat_lt.mp h
  rw [byteOf, BitVec.toNat_ofNat, Nat.mod_eq_of_lt lt]

theorem nextByte_succ (t : Twister) (tries : Nat) :
    t.nextByte (tries + 1) =
      if Accepted t.next.1 then (byteOf t.next.1, t.next.2) else t.next.2.nextByte tries := rfl

/-- The byte comes from the first word that has one, if there are tries enough to reach it. -/
theorem nextByte_of_first {t : Twister} {k tries : Nat} (enough : k < tries)
    (accepted : Accepted (t.after k).next.1) (first : ∀ j < k, ¬ Accepted (t.after j).next.1) :
    t.nextByte tries = (byteOf (t.after k).next.1, t.after (k + 1)) := by
  induction k generalizing t tries with
  | zero =>
    obtain ⟨tries, rfl⟩ := Nat.exists_eq_add_of_lt enough
    rw [Nat.zero_add, nextByte_succ]
    exact if_pos accepted
  | succ k ih =>
    obtain ⟨tries, rfl⟩ : ∃ n, tries = n + 1 := ⟨tries - 1, by omega⟩
    have rejected : ¬ Accepted t.next.1 := first 0 (Nat.zero_lt_succ k)
    rw [nextByte_succ, if_neg rejected]
    exact ih (Nat.lt_of_succ_lt_succ enough) accepted fun j lt =>
      first (j + 1) (Nat.succ_lt_succ lt)

/-- If no word has a byte, the byte is zero and all tries are used up. -/
theorem nextByte_of_none {t : Twister} {tries : Nat}
    (none : ∀ j < tries, ¬ Accepted (t.after j).next.1) :
    t.nextByte tries = (0, t.after tries) := by
  induction tries generalizing t with
  | zero => rfl
  | succ tries ih =>
    have rejected : ¬ Accepted t.next.1 := none 0 (Nat.zero_lt_succ tries)
    rw [nextByte_succ, if_neg rejected]
    exact ih fun j lt => none (j + 1) (Nat.succ_lt_succ lt)

/-- More tries change nothing once a word with a byte is within reach. -/
theorem nextByte_of_le {t : Twister} {tries more : Nat} (le : tries ≤ more)
    (reached : ∃ k < tries, Accepted (t.after k).next.1) :
    t.nextByte more = t.nextByte tries := by
  obtain ⟨lt, accepted⟩ := Nat.find_spec reached
  have first : ∀ j < Nat.find reached, ¬ Accepted (t.after j).next.1 := fun j earlier found =>
    Nat.find_min reached earlier ⟨Nat.lt_trans earlier lt, found⟩
  rw [nextByte_of_first (Nat.lt_of_lt_of_le lt le) accepted first,
    nextByte_of_first lt accepted first]

end Twister

/-- What a seeded source gives next. -/
theorem Source.next_of_first {t : Twister} {k : Nat} (enough : k < tries)
    (accepted : Twister.Accepted (t.after k).next.1)
    (first : ∀ j < k, ¬ Twister.Accepted (t.after j).next.1) :
    (twister t).next = (Twister.byteOf (t.after k).next.1, twister (t.after (k + 1))) := by
  rw [next, Twister.nextByte_of_first enough accepted first]

end Chip8.Random
