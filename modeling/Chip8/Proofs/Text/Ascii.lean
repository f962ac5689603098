/-!
# Characters of ASCII

There are so few characters of ASCII that what holds of them can be checked one by one. Case is
changed among them only.
-/

namespace Chip8.Text

/-- What holds of the characters of ASCII is checked one by one. -/
theorem forall_ascii {p : Char → Prop} (h : ∀ n < 128, p (Char.ofNat n)) :
    ∀ c : Char, c.toNat < 128 → p c := by
  intro c ascii
  have at_c := h c.toNat ascii
  rwa [Char.ofNat_toNat] at at_c

/-- Upper case changes the small letters of ASCII only. -/
theorem toUpper_of_le {c : Char} (h : 128 ≤ c.toNat) : c.toUpper = c := by
  have beyond : ¬ (c.val ≥ 'a'.val ∧ c.val ≤ 'z'.val) := by
    rintro ⟨-, le⟩
    have small : c.toNat ≤ 122 := UInt32.le_iff_toNat_le.mp le
    omega
  exact dif_neg beyond

/-- Lower case changes the capital letters of ASCII only. -/
theorem toLower_of_le {c : Char} (h : 128 ≤ c.toNat) : c.toLower = c := by
  have beyond : ¬ (c.val ≥ 'A'.val ∧ c.val ≤ 'Z'.val) := by
    rintro ⟨-, le⟩
    have small : c.toNat ≤ 90 := UInt32.le_iff_toNat_le.mp le
    omega
  exact dif_neg beyond

/-- A character is its lower-case form or the capital of that. -/
theorem eq_or_eq_of_toLower {c d : Char} (h : c.toLower = d) : c = d ∨ c = d.toUpper := by
  subst h
  have each : ∀ c : Char, c.toNat < 128 → c = c.toLower ∨ c = c.toLower.toUpper :=
    forall_ascii (by decide)
  by_cases ascii : c.toNat < 128
  · exact each c ascii
  · exact .inl (toLower_of_le (Nat.not_lt.mp ascii)).symm

end Chip8.Text
