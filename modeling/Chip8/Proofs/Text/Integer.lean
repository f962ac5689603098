import Chip8.Proofs.Text.Literal
import Mathlib.Data.List.Basic

/-!
# Texts of integers

The usual texts of an integer are the decimal one and those that announce another base, with blanks
around them. They are derived by the grammar, so that each is read as its integer. A decimal text
must not have more digits than are read.
-/

namespace Chip8.Text

/-! ## Digits -/

theorem Grouped.concat {base : Nat} {cs : List Char} {ds : List Nat} (h : Grouped base cs ds)
    {c : Char} {d : Nat} (digit : IsDigit base c d) : Grouped base (cs ++ [c]) (ds ++ [d]) := by
  induction h with
  | last first => exact .digit first (.last digit)
  | digit first _ ih => exact .digit first ih
  | underscore first _ ih => exact .underscore first ih

/-- The digits of a number, letters being in either case, denote it. -/
theorem exists_grouped {base n : Nat} (hbase : 1 < base) {cs : List Char}
    (spelled : cs.map Char.toLower = Nat.toDigits base n) :
    ∃ ds, Grouped base cs ds ∧ ds.length = cs.length ∧ Nat.ofDigits base ds.reverse = n := by
  -- the last digit is the remainder, and the induction is on what is left of the number
  induction n using Nat.strongRecOn generalizing cs with
  | ind n ih =>
    by_cases small : n < base
    · rw [Nat.toDigits_of_lt_base small] at spelled
      obtain ⟨c, rfl, lower⟩ := List.map_eq_singleton_iff.mp spelled
      exact ⟨[n], .last ⟨small, lower⟩, rfl, Nat.ofDigits_singleton⟩
    · rw [Nat.toDigits_of_base_le hbase (Nat.not_lt.mp small)] at spelled
      obtain ⟨front, last, rfl, front_spelled, last_spelled⟩ := List.map_eq_append_iff.mp spelled
      obtain ⟨c, rfl, lower⟩ := List.map_eq_singleton_iff.mp last_spelled
      have less : n / base < n := Nat.div_lt_self (by omega) hbase
      obtain ⟨ds, grouped, length, value⟩ := ih (n / base) less front_spelled
      refine ⟨ds ++ [n % base], grouped.concat ⟨Nat.mod_lt n (by omega), lower⟩, ?_, ?_⟩
      · rw [List.length_append, List.length_append, length]
        rfl
      · rw [List.reverse_append, List.reverse_singleton, List.singleton_append, Nat.ofDigits_cons,
          value]
        exact Nat.mod_add_div n base

theorem toLower_of_isDigit {c : Char} (h : c.isDigit = true) : c.toLower = c := by
  have each : ∀ c : Char, c.toNat < 128 → c.isDigit = true → c.toLower = c :=
    forall_ascii (by decide)
  obtain ⟨-, le⟩ := (Bool.and_eq_true _ _).mp h
  have small : c.toNat ≤ 0x39 := UInt32.le_iff_toNat_le.mp (of_decide_eq_true le)
  exact each c (Nat.lt_of_le_of_lt small (by decide)) h

/-- The first digit of a positive number is not zero. -/
theorem head?_toDigits_ne {n : Nat} (h : 0 < n) : (Nat.toDigits 10 n).head? ≠ some '0' := by
  induction n using Nat.strongRecOn with
  | ind n ih =>
    by_cases small : n < 10
    · have each : ∀ n < 10, 0 < n → Nat.digitChar n ≠ '0' := by decide
      rw [Nat.toDigits_of_lt_base small]
      intro zero
      exact each n small h (Option.some.inj zero)
    · rw [Nat.toDigits_of_base_le (by decide) (Nat.not_lt.mp small),
        List.head?_append_of_ne_nil _ Nat.toDigits_ne_nil]
      exact ih (n / 10) (Nat.div_lt_self h (by decide)) (Nat.div_pos (by omega) (by decide))

/-! ## Numbers without a sign -/

section

variable {n : Nat} (short : (Nat.toDigits 10 n).length ≤ 4300)

include short

theorem numeral_toDigits : Numeral (Nat.toDigits 10 n) n := by
  have lower : (Nat.toDigits 10 n).map Char.toLower = Nat.toDigits 10 n := by
    refine (List.map_congr_left fun c mem => ?_).trans (List.map_id _)
    exact toLower_of_isDigit (Nat.isDigit_of_mem_toDigits (by decide) (by decide) mem)
  obtain ⟨ds, grouped, length, value⟩ := exists_grouped (by decide) lower
  have numeral := Numeral.intro grouped (length ▸ short)
  rwa [value] at numeral

theorem literal_toDigits : Literal (Nat.toDigits 10 n) n := by
  refine .decimal (numeral_toDigits short) fun zero => ?_
  apply Decidable.byContradiction
  intro positive
  exact head?_toDigits_ne (Nat.pos_of_ne_zero positive) zero

end

/-- The digits of a number after the marker of their base denote it. -/
theorem literal_marked {marker : Char} {r : Radix} (listed : (marker.toLower, r) ∈ markers)
    {n : Nat} {cs : List Char} (spelled : cs.map Char.toLower = Nat.toDigits r.base n) :
    Literal ('0' :: marker :: cs) n := by
  have hbase : 1 < r.base := by cases r <;> decide
  obtain ⟨ds, grouped, -, value⟩ := exists_grouped hbase spelled
  have literal := Literal.marked listed grouped
  rwa [value] at literal

/-! ## Characters that stand for themselves -/

/-- A decimal digit lies less than ten places above the first one of its script. -/
theorem exists_of_decimalDigit? {c : Char} {d : Nat} (h : decimalDigit? c = some d) :
    ∃ first ∈ digitZeros, d < 10 ∧ c.toNat = first + d := by
  obtain ⟨first, found, rfl⟩ := Option.map_eq_some_iff.mp h
  have range := List.find?_some found
  simp only [Bool.and_eq_true, decide_eq_true_eq] at range
  exact ⟨first, List.mem_of_find?_eq_some found, by omega, by omega⟩

theorem foldDigit_of_ascii {c : Char} (h : c.toNat < 128) : foldDigit c = c := by
  have each : ∀ first ∈ digitZeros, first = 0x30 ∨ 128 ≤ first := by decide
  rw [foldDigit]
  split
  case h_1 d digit =>
    obtain ⟨first, mem, -, place⟩ := exists_of_decimalDigit? digit
    have ascii : first = 0x30 := (each first mem).resolve_right (by omega)
    rw [← ascii, ← place, Char.ofNat_toNat]
  case h_2 => rfl

theorem foldDigit_of_isBlank {c : Char} (h : isBlank c = true) : foldDigit c = c := by
  have each : ∀ first ∈ digitZeros, ∀ d < 10, isBlank (Char.ofNat (first + d)) = false := by
    decide +kernel
  rw [foldDigit]
  split
  case h_1 d digit =>
    obtain ⟨first, mem, small, place⟩ := exists_of_decimalDigit? digit
    have solid := each first mem d small
    rw [← place, Char.ofNat_toNat, h] at solid
    exact Bool.noConfusion solid
  case h_2 => rfl

/-! ## Integers -/

/-- The text of an integer with blanks around it denotes that integer. -/
theorem written_of_signed {unsigned : List Char → Nat → Prop}
    (solid : ∀ {cs n}, unsigned cs n → ∀ c ∈ cs, isSolid c = true) {before body after : List Char}
    {n : Int} (hbefore : ∀ c ∈ before, isBlank c = true) (signed : Signed unsigned body n)
    (hafter : ∀ c ∈ after, isBlank c = true) :
    Written unsigned (String.ofList (before ++ body ++ after)) n := by
  have kept {cs : List Char} (h : ∀ c ∈ cs, foldDigit c = c) : cs.map foldDigit = cs :=
    (List.map_congr_left h).trans (List.map_id cs)
  have ascii : ∀ c ∈ body, c.toNat < 128 := by
    cases signed with
    | bare number => exact fun c mem => (isSolid_eq_true_iff.mp (solid number c mem)).1
    | plus number | minus number =>
      refine List.forall_mem_cons.mpr ⟨by decide, fun c mem => ?_⟩
      exact (isSolid_eq_true_iff.mp (solid number c mem)).1
  refine ⟨before, body, after, ?_, hbefore, hafter, signed⟩
  rw [String.toList_ofList, List.map_append, List.map_append,
    kept fun c mem => foldDigit_of_isBlank (hbefore c mem),
    kept fun c mem => foldDigit_of_ascii (ascii c mem),
    kept fun c mem => foldDigit_of_isBlank (hafter c mem)]

/-- The signs that an integer may have: the minus sign if it is negative, otherwise none or the plus
sign. -/
def signs (n : Int) : List (List Char) := if n < 0 then [['-']] else [[], ['+']]

theorem signed_of_mem_signs {unsigned : List Char → Nat → Prop} {n : Int} {sign cs : List Char}
    (h : sign ∈ signs n) (magnitude : unsigned cs n.natAbs) : Signed unsigned (sign ++ cs) n := by
  rw [signs] at h
  split at h
  case isTrue negative =>
    obtain rfl := List.mem_singleton.mp h
    have value : -(n.natAbs : Int) = n := by omega
    have signed := Signed.minus magnitude
    rwa [value] at signed
  case isFalse =>
    have value : (n.natAbs : Int) = n := by omega
    rcases List.mem_pair.mp h with rfl | rfl
    · have signed := Signed.bare magnitude
      rwa [value] at signed
    · have signed := Signed.plus magnitude
      rwa [value] at signed

/-- The decimal text of an integer is a sign and the digits of its magnitude. -/
theorem exists_sign_repr (n : Int) :
    ∃ sign ∈ signs n, n.repr.toList = sign ++ Nat.toDigits 10 n.natAbs := by
  rw [Int.repr_eq_if, signs]
  by_cases negative : n < 0
  · have abs : (-n).toNat = n.natAbs := by omega
    rw [if_pos negative, if_neg (by omega), String.toList_append, Nat.toList_repr, abs]
    exact ⟨['-'], List.mem_singleton_self _, rfl⟩
  · have abs : n.toNat = n.natAbs := by omega
    rw [if_neg negative, if_pos (by omega), Nat.toList_repr, abs]
    exact ⟨[], List.mem_cons_self, rfl⟩

/-- An integer is read off its decimal text, if that has no more digits than are read. -/
theorem readInt?_repr {n : Int} (short : (Nat.toDigits 10 n.natAbs).length ≤ 4300) :
    readInt? n.repr = some n := by
  have none : ∀ c ∈ ([] : List Char), isBlank c = true := List.forall_mem_nil _
  obtain ⟨_, sign, repr_eq⟩ := exists_sign_repr n
  have written : Written Numeral _ n :=
    written_of_signed Numeral.solid none (signed_of_mem_signs sign (numeral_toDigits short)) none
  rw [List.nil_append, List.append_nil, ← repr_eq, String.ofList_toList] at written
  exact readInt?_eq_some_iff.mpr written

/-! ## Usual texts -/

/-- The usual texts of an integer without blanks: its decimal text, if that has no more digits than
are read, and its digits in another base after a marker. Letters may be in either case. -/
inductive Spelling (n : Int) : List Char → Prop
  | decimal : (Nat.toDigits 10 n.natAbs).length ≤ 4300 → Spelling n n.repr.toList
  | marked {sign marker r digits} :
    sign ∈ signs n → (marker.toLower, r) ∈ markers →
      digits.map Char.toLower = Nat.toDigits r.base n.natAbs →
        Spelling n (sign ++ '0' :: marker :: digits)

theorem Spelling.signed {n : Int} {cs : List Char} (h : Spelling n cs) : Signed Literal cs n := by
  cases h with
  | decimal short =>
    obtain ⟨_, sign, repr_eq⟩ := exists_sign_repr n
    rw [repr_eq]
    exact signed_of_mem_signs sign (literal_toDigits short)
  | marked sign listed spelled => exact signed_of_mem_signs sign (literal_marked listed spelled)

/-- A text is a usual text of an integer, with blanks around it. -/
def Spelled (text : String) (n : Int) : Prop :=
  ∃ before body after, text = String.ofList (before ++ body ++ after) ∧
    (∀ c ∈ before, isBlank c = true) ∧ (∀ c ∈ after, isBlank c = true) ∧ Spelling n body

/-- An integer is denoted by its usual texts. -/
theorem Spelled.denotes {text : String} {n : Int} (h : Spelled text n) : Denotes text n := by
  obtain ⟨before, body, after, rfl, hbefore, hafter, spelling⟩ := h
  exact written_of_signed Literal.solid hbefore spelling.signed hafter

end Chip8.Text
