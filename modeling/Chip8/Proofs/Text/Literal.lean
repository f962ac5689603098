import Chip8.Proofs.Text.Ascii
import Chip8.Text.Integer
import Mathlib.Data.List.TakeWhile
import Mathlib.Data.Nat.Digits.Defs

/-!
# The grammar of integer texts

Which texts denote integers, told by a grammar and without a reader: digits in groups, numbers that
may announce their base, signs and the blanks around all of it. The number that digits denote is the
one that Mathlib gives them. The readers accept exactly what the grammar derives, and read it as
what it denotes.
-/

namespace Chip8.Text

/-! ## Digits -/

/-- A character is a digit of a base. Letters follow the ten digits, and their case does not
matter. -/
def IsDigit (base : Nat) (c : Char) (d : Nat) : Prop := d < base ∧ c.toLower = Nat.digitChar d

theorem toNat_lt_of_digitValue? {c : Char} {d : Nat} (h : digitValue? c = some d) :
    c.toNat < 128 := by
  have le {last : Char} (bound : last.toNat < 128) (h : c ≤ last) : c.toNat < 128 :=
    Nat.lt_of_le_of_lt (UInt32.le_iff_toNat_le.mp h) bound
  rw [digitValue?] at h
  split at h
  case isTrue range => exact le (by decide) range.2
  split at h
  case isTrue range => exact le (by decide) range.2
  split at h
  case isTrue range => exact le (by decide) range.2
  contradiction

/-- The reader of digits knows those of all bases up to sixteen. -/
theorem digitBelow?_eq_some_iff {base : Nat} (hbase : base ≤ 16) {c : Char} {d : Nat} :
    digitBelow? base c = some d ↔ IsDigit base c d := by
  have lower_of : ∀ c : Char, c.toNat < 128 → ∀ d ∈ digitValue? c, d < 16 →
      c.toLower = Nat.digitChar d := forall_ascii (by decide)
  have value_of : ∀ d < 16, digitValue? (Nat.digitChar d) = some d ∧
      digitValue? (Nat.digitChar d).toUpper = some d := by decide
  rw [digitBelow?, Option.filter_eq_some_iff, decide_eq_true_iff, and_comm, IsDigit]
  refine and_congr_right fun below => ?_
  have small : d < 16 := Nat.lt_of_lt_of_le below hbase
  constructor
  · intro value
    exact lower_of c (toNat_lt_of_digitValue? value) d value small
  · intro lower
    rcases eq_or_eq_of_toLower lower with rfl | rfl
    · exact (value_of d small).1
    · exact (value_of d small).2

/-- The digits of all bases that are read. -/
def digitChars : List Char := "0123456789abcdefABCDEF".toList

theorem IsDigit.mem_digitChars {base : Nat} (hbase : base ≤ 16) {c : Char} {d : Nat}
    (h : IsDigit base c d) : c ∈ digitChars := by
  have each : ∀ d < 16, Nat.digitChar d ∈ digitChars ∧ (Nat.digitChar d).toUpper ∈ digitChars := by
    decide
  obtain ⟨small, capital⟩ := each d (Nat.lt_of_lt_of_le h.1 hbase)
  rcases eq_or_eq_of_toLower h.2 with rfl | rfl
  · exact small
  · exact capital

/-! ## Sequences of digits -/

/-- A text consists of digits, the most significant first, and single underscores between them. -/
inductive Grouped (base : Nat) : List Char → List Nat → Prop
  | last {c d} : IsDigit base c d → Grouped base [c] [d]
  | digit {c d cs ds} : IsDigit base c d → Grouped base cs ds → Grouped base (c :: cs) (d :: ds)
  | underscore {c d cs ds} :
    IsDigit base c d → Grouped base cs ds → Grouped base (c :: '_' :: cs) (d :: ds)

section

variable {base : Nat} {cs : List Char} {ds : List Nat}

/-- The text begins with a digit. -/
theorem Grouped.exists_cons (h : Grouped base cs ds) :
    ∃ c d rest, cs = c :: rest ∧ IsDigit base c d := by
  cases h with
  | last digit => exact ⟨_, _, _, rfl, digit⟩
  | digit digit | underscore digit => exact ⟨_, _, _, rfl, digit⟩

theorem Grouped.ne_nil (h : Grouped base cs ds) : cs ≠ [] := by
  obtain ⟨c, d, rest, rfl, -⟩ := h.exists_cons
  exact List.cons_ne_nil c rest

theorem Grouped.ne_underscore (hbase : base ≤ 16) (h : Grouped base cs ds) (rest : List Char) :
    cs ≠ '_' :: rest := by
  obtain ⟨c, d, others, rfl, digit⟩ := h.exists_cons
  have no_underscore : '_' ∉ digitChars := by decide
  intro same
  exact no_underscore ((List.cons_eq_cons.mp same).1 ▸ digit.mem_digitChars hbase)

theorem readDigits?_eq_some_iff (hbase : base ≤ 16) :
    readDigits? base cs = some ds ↔ Grouped base cs ds := by
  constructor
  · intro read
    fun_induction readDigits? base cs generalizing ds with
    | case1 => contradiction
    | case2 => contradiction
    | case3 c d digit =>
      cases read
      exact .last ((digitBelow?_eq_some_iff hbase).mp digit)
    | case4 c d rest digit ih =>
      obtain ⟨ds, others, rfl⟩ := Option.map_eq_some_iff.mp read
      exact .underscore ((digitBelow?_eq_some_iff hbase).mp digit) (ih others)
    | case5 c d rest _ _ digit ih =>
      obtain ⟨ds, others, rfl⟩ := Option.map_eq_some_iff.mp read
      exact .digit ((digitBelow?_eq_some_iff hbase).mp digit) (ih others)
  · intro grouped
    induction grouped with
    | last digit => exact readDigits?.eq_3 _ _ _ ((digitBelow?_eq_some_iff hbase).mpr digit)
    | digit digit grouped ih =>
      rw [readDigits?.eq_5 _ _ _ _ ((digitBelow?_eq_some_iff hbase).mpr digit) grouped.ne_nil
        (grouped.ne_underscore hbase), ih, Option.map_some]
    | underscore digit grouped ih =>
      rw [readDigits?.eq_4 _ _ _ _ ((digitBelow?_eq_some_iff hbase).mpr digit), ih,
        Option.map_some]

end

/-! ## Numbers without a sign -/

theorem ofDigits_eq (base : Nat) (ds : List Nat) :
    ofDigits base ds = Nat.ofDigits base ds.reverse := by
  rw [ofDigits, Nat.ofDigits_eq_foldr, List.foldr_reverse]
  simp only [Nat.add_comm, Nat.mul_comm, Nat.cast_id]

theorem Radix.base_le (r : Radix) : r.base ≤ 16 := by
  cases r <;> decide

theorem readNat?_eq_some_iff {r : Radix} {cs : List Char} {n : Nat} :
    readNat? r cs = some n ↔
      ∃ ds, Grouped r.base cs ds ∧ (r = .decimal → ds.length ≤ 4300) ∧
        Nat.ofDigits r.base ds.reverse = n := by
  have allowed (ds : List Nat) :
      r.digitLimit?.all (ds.length ≤ ·) = true ↔ (r = .decimal → ds.length ≤ 4300) := by
    cases r <;> simp [Radix.digitLimit?]
  simp only [readNat?, Option.bind_eq_bind, Option.bind_eq_some_iff,
    readDigits?_eq_some_iff r.base_le, Option.ite_none_right_eq_some, Option.some.injEq, allowed,
    ofDigits_eq]

/-- The decimal texts of natural numbers, with the numbers they denote. They have at most 4300
digits. -/
inductive Numeral : List Char → Nat → Prop
  | intro {cs ds} :
    Grouped 10 cs ds → ds.length ≤ 4300 → Numeral cs (Nat.ofDigits 10 ds.reverse)

theorem readNat?_decimal_eq_some_iff {cs : List Char} {n : Nat} :
    readNat? .decimal cs = some n ↔ Numeral cs n := by
  rw [readNat?_eq_some_iff]
  constructor
  · rintro ⟨ds, grouped, limit, rfl⟩
    exact .intro grouped (limit rfl)
  · rintro ⟨grouped, limit⟩
    exact ⟨_, grouped, fun _ => limit, rfl⟩

/-! ## Numbers that may announce their base -/

/-- The letters that announce a base after a leading zero. -/
def markers : List (Char × Radix) := [('b', .binary), ('o', .octal), ('x', .hexadecimal)]

theorem ofMarker?_eq_some_iff {c : Char} {r : Radix} :
    Radix.ofMarker? c = some r ↔ (c.toLower, r) ∈ markers := by
  simp only [markers, List.mem_cons, List.not_mem_nil, or_false, Prod.mk.injEq, Radix.ofMarker?]
  split
  case h_4 not_b not_o not_x =>
    constructor
    · intro announced
      contradiction
    · rintro (⟨b, -⟩ | ⟨o, -⟩ | ⟨x, -⟩)
      · exact (not_b b).elim
      · exact (not_o o).elim
      · exact (not_x x).elim
  all_goals
    rename_i letter
    simp [letter, eq_comm]

/-- No marker announces the base of the numbers without one. -/
theorem ne_decimal_of_mem_markers {c : Char} {r : Radix} (h : (c, r) ∈ markers) :
    r ≠ .decimal := by
  have each : ∀ entry ∈ markers, entry.2 ≠ .decimal := by decide
  exact each (c, r) h

/-- A decimal digit or underscore announces no base. -/
theorem Grouped.ofMarker?_eq_none {first c : Char} {rest : List Char} {ds : List Nat}
    (h : Grouped 10 (first :: c :: rest) ds) : Radix.ofMarker? c = none := by
  have no_marker : ∀ d < 10, ∀ entry ∈ markers, Nat.digitChar d ≠ entry.1 := by decide
  cases h with
  | digit _ others =>
    obtain ⟨_, d, _, same, small, lower⟩ := others.exists_cons
    cases same
    rw [Option.eq_none_iff_forall_ne_some]
    intro r announced
    have listed := ofMarker?_eq_some_iff.mp announced
    rw [lower] at listed
    exact no_marker d small _ listed rfl
  | underscore => decide

/-- The texts of natural numbers that may announce their base, with the numbers they denote. A
decimal number may begin with zero only if it is zero. -/
inductive Literal : List Char → Nat → Prop
  | decimal {cs n} : Numeral cs n → (cs.head? = some '0' → n = 0) → Literal cs n
  | marked {marker r cs ds} :
    (marker.toLower, r) ∈ markers → Grouped r.base cs ds →
      Literal ('0' :: marker :: cs) (Nat.ofDigits r.base ds.reverse)
  | markedUnderscore {marker r cs ds} :
    (marker.toLower, r) ∈ markers → Grouped r.base cs ds →
      Literal ('0' :: marker :: '_' :: cs) (Nat.ofDigits r.base ds.reverse)

theorem readMarkedNat?_eq_some_iff {cs : List Char} {n : Nat} :
    readMarkedNat? cs = some n ↔ Literal cs n := by
  constructor
  · fun_cases readMarkedNat? cs with
    | case1 c r rest marker =>
      intro read
      obtain ⟨ds, grouped, -, rfl⟩ := readNat?_eq_some_iff.mp read
      exact .markedUnderscore (ofMarker?_eq_some_iff.mp marker) grouped
    | case2 c r rest _ marker =>
      intro read
      obtain ⟨ds, grouped, -, rfl⟩ := readNat?_eq_some_iff.mp read
      exact .marked (ofMarker?_eq_some_iff.mp marker) grouped
    | case3 c rest _ =>
      intro read
      obtain ⟨number, zero⟩ := Option.filter_eq_some_iff.mp read
      exact .decimal (readNat?_decimal_eq_some_iff.mp number) fun _ => of_decide_eq_true zero
    | case4 cs short =>
      intro read
      refine .decimal (readNat?_decimal_eq_some_iff.mp read) fun zero => ?_
      -- nothing follows the zero, or there would be a marker to look for
      obtain ⟨rest, rfl⟩ := List.head?_eq_some_iff.mp zero
      cases rest with
      | nil =>
        have zero_read : readNat? .decimal ['0'] = some 0 := by decide
        exact Option.some.inj (read.symm.trans zero_read)
      | cons c rest => exact (short c rest rfl).elim
  · intro literal
    have limit_free {marker : Char} {r : Radix} {ds : List Nat}
        (listed : (marker.toLower, r) ∈ markers) : r = .decimal → ds.length ≤ 4300 :=
      fun decimal => absurd decimal (ne_decimal_of_mem_markers listed)
    cases literal with
    | decimal numeral zero =>
      have read := readNat?_decimal_eq_some_iff.mpr numeral
      unfold readMarkedNat?
      split
      -- what follows a leading zero is a digit or an underscore, so it announces no base
      · obtain ⟨grouped, -⟩ := numeral
        rw [grouped.ofMarker?_eq_none, read, zero rfl]
        rfl
      · exact read
    | @marked marker r cs ds listed grouped =>
      rw [readMarkedNat?.eq_2 _ _ _ (ofMarker?_eq_some_iff.mpr listed)
        (grouped.ne_underscore r.base_le)]
      exact readNat?_eq_some_iff.mpr ⟨ds, grouped, limit_free listed, rfl⟩
    | @markedUnderscore marker r cs ds listed grouped =>
      rw [readMarkedNat?.eq_1 _ _ _ (ofMarker?_eq_some_iff.mpr listed)]
      exact readNat?_eq_some_iff.mpr ⟨ds, grouped, limit_free listed, rfl⟩

/-! ## Signs and blanks -/

/-- The texts of integers, given those of natural numbers: they may begin with a sign. -/
inductive Signed (unsigned : List Char → Nat → Prop) : List Char → Int → Prop
  | bare {cs n} : unsigned cs n → Signed unsigned cs n
  | plus {cs n} : unsigned cs n → Signed unsigned ('+' :: cs) n
  | minus {cs n} : unsigned cs n → Signed unsigned ('-' :: cs) (-n)

/-- A text denotes an integer if blanks surround the text of that integer, the digits of all scripts
being read as those of ASCII. -/
def Written (unsigned : List Char → Nat → Prop) (text : String) (n : Int) : Prop :=
  ∃ before body after, text.toList.map foldDigit = before ++ body ++ after ∧
    (∀ c ∈ before, isBlank c = true) ∧ (∀ c ∈ after, isBlank c = true) ∧ Signed unsigned body n

/-- A character is one of ASCII, and neither a blank nor a sign. -/
def isSolid (c : Char) : Bool := c.toNat < 128 && !isBlank c && c ≠ '-' && c ≠ '+'

theorem isSolid_eq_true_iff {c : Char} :
    isSolid c = true ↔ c.toNat < 128 ∧ isBlank c = false ∧ c ≠ '-' ∧ c ≠ '+' := by
  simp [isSolid, and_assoc]

/-- What is trimmed off is blank. -/
theorem exists_trim (cs : List Char) :
    ∃ before after, cs = before ++ trim cs ++ after ∧
      (∀ c ∈ before, isBlank c = true) ∧ ∀ c ∈ after, isBlank c = true := by
  let rest := cs.dropWhile isBlank
  refine ⟨cs.takeWhile isBlank, (rest.reverse.takeWhile isBlank).reverse, ?_, ?_, ?_⟩
  · have parted : rest = trim cs ++ (rest.reverse.takeWhile isBlank).reverse := by
      rw [trim, ← List.reverse_append, List.takeWhile_append_dropWhile, List.reverse_reverse]
    rw [List.append_assoc, ← parted, List.takeWhile_append_dropWhile]
  · exact List.all_eq_true.mp List.all_takeWhile
  · intro c mem
    exact List.all_eq_true.mp List.all_takeWhile c (List.mem_reverse.mp mem)

theorem dropWhile_isBlank_eq_self {cs : List Char} (h : ∀ c ∈ cs, isBlank c = false) :
    cs.dropWhile isBlank = cs := by
  refine List.dropWhile_eq_self_iff.mpr fun nonempty => ?_
  rw [h _ (List.getElem_mem nonempty)]
  exact Bool.false_ne_true

/-- A text without blanks is what remains when the blanks around it are trimmed off. -/
theorem trim_append {before body after : List Char} (hbefore : ∀ c ∈ before, isBlank c = true)
    (hbody : ∀ c ∈ body, isBlank c = false) (hafter : ∀ c ∈ after, isBlank c = true) :
    trim (before ++ body ++ after) = body := by
  have no_tail : after.dropWhile isBlank = [] := List.dropWhile_eq_nil_iff.mpr hafter
  -- without a body all of the text is blank, so the end goes with the front
  have front : (before ++ body ++ after).dropWhile isBlank =
      if body = [] then [] else body ++ after := by
    rw [List.append_assoc, List.dropWhile_append_of_pos hbefore, List.dropWhile_append,
      dropWhile_isBlank_eq_self hbody, no_tail]
    simp only [List.isEmpty_iff]
  rw [trim, front]
  split
  case isTrue empty => rw [empty]; rfl
  case isFalse =>
    have reversed : ∀ c ∈ body.reverse, isBlank c = false := fun c mem =>
      hbody c (List.mem_reverse.mp mem)
    rw [List.reverse_append,
      List.dropWhile_append_of_pos fun c mem => hafter c (List.mem_reverse.mp mem),
      dropWhile_isBlank_eq_self reversed, List.reverse_reverse]

section

variable {unsigned? : List Char → Option Nat} {unsigned : List Char → Nat → Prop}
  (reads : ∀ {cs n}, unsigned? cs = some n ↔ unsigned cs n)
  (solid : ∀ {cs n}, unsigned cs n → ∀ c ∈ cs, isSolid c = true)

include reads solid

theorem readSigned?_eq_some_iff {cs : List Char} {n : Int} :
    readSigned? unsigned? cs = some n ↔ Signed unsigned cs n := by
  constructor
  · fun_cases readSigned? unsigned? cs with
    | case1 cs =>
      intro read
      obtain ⟨m, cast, rfl⟩ := Option.map_eq_some_iff.mp read
      obtain ⟨k, number, same⟩ := Option.bind_eq_some_iff.mp cast
      obtain rfl : (k : Int) = m := Option.some.inj same
      exact .minus (reads.mp number)
    | case2 cs =>
      intro read
      obtain ⟨m, number, rfl⟩ := Option.map_eq_some_iff.mp read
      exact .plus (reads.mp number)
    | case3 cs =>
      intro read
      obtain ⟨m, number, rfl⟩ := Option.map_eq_some_iff.mp read
      exact .bare (reads.mp number)
  · intro signed
    cases signed with
    | bare number =>
      have no_sign := solid number
      unfold readSigned?
      split
      · exact absurd (no_sign '-' List.mem_cons_self) (by decide)
      · exact absurd (no_sign '+' List.mem_cons_self) (by decide)
      · rw [reads.mpr number]
        rfl
    | plus number =>
      rw [readSigned?, reads.mpr number]
      rfl
    | minus number =>
      rw [readSigned?, reads.mpr number]
      rfl

theorem readFolded?_eq_some_iff {text : String} {n : Int} :
    readFolded? unsigned? text = some n ↔ Written unsigned text n := by
  have no_blank {cs : List Char} (signed : Signed unsigned cs n) :
      ∀ c ∈ cs, isBlank c = false := by
    cases signed with
    | bare number => exact fun c mem => (isSolid_eq_true_iff.mp (solid number c mem)).2.1
    | plus number | minus number =>
      refine List.forall_mem_cons.mpr ⟨by decide, fun c mem => ?_⟩
      exact (isSolid_eq_true_iff.mp (solid number c mem)).2.1
  rw [readFolded?, readSigned?_eq_some_iff reads solid]
  constructor
  · intro signed
    obtain ⟨before, after, parted, hbefore, hafter⟩ := exists_trim (text.toList.map foldDigit)
    exact ⟨before, _, after, parted, hbefore, hafter, signed⟩
  · rintro ⟨before, body, after, parted, hbefore, hafter, signed⟩
    rwa [parted, trim_append hbefore (no_blank signed) hafter]

end

/-! ## Readers -/

theorem Grouped.solid {base : Nat} (hbase : base ≤ 16) {cs : List Char} {ds : List Nat}
    (h : Grouped base cs ds) : ∀ c ∈ cs, isSolid c = true := by
  have each : ∀ c ∈ digitChars, isSolid c = true := List.all_eq_true.mp (by decide)
  have underscore : isSolid '_' = true := by decide
  induction h with
  | last digit => exact List.forall_mem_singleton.mpr (each _ (digit.mem_digitChars hbase))
  | digit digit _ ih => exact List.forall_mem_cons.mpr ⟨each _ (digit.mem_digitChars hbase), ih⟩
  | underscore digit _ ih =>
    exact List.forall_mem_cons.mpr
      ⟨each _ (digit.mem_digitChars hbase), List.forall_mem_cons.mpr ⟨underscore, ih⟩⟩

theorem Numeral.solid {cs : List Char} {n : Nat} (h : Numeral cs n) :
    ∀ c ∈ cs, isSolid c = true := by
  obtain ⟨grouped, -⟩ := h
  exact grouped.solid (by decide)

/-- The letters of the markers in either case. -/
def markerChars : List Char := "bBoOxX".toList

theorem mem_markerChars {c : Char} {r : Radix} (h : (c.toLower, r) ∈ markers) :
    c ∈ markerChars := by
  have each : ∀ entry ∈ markers, entry.1 ∈ markerChars ∧ entry.1.toUpper ∈ markerChars := by decide
  obtain ⟨small, capital⟩ := each _ h
  rcases eq_or_eq_of_toLower (c := c) rfl with same | same
  · exact same.symm ▸ small
  · exact same.symm ▸ capital

theorem Literal.solid {cs : List Char} {n : Nat} (h : Literal cs n) :
    ∀ c ∈ cs, isSolid c = true := by
  have each : ∀ c ∈ '0' :: '_' :: markerChars, isSolid c = true := List.all_eq_true.mp (by decide)
  obtain ⟨zero, underscore, letters⟩ :
      isSolid '0' = true ∧ isSolid '_' = true ∧ ∀ c ∈ markerChars, isSolid c = true := by
    simpa only [List.forall_mem_cons] using each
  cases h with
  | decimal numeral => exact numeral.solid
  | @marked marker r cs ds listed grouped =>
    have letter := letters marker (mem_markerChars listed)
    simp only [List.forall_mem_cons]
    exact ⟨zero, letter, grouped.solid r.base_le⟩
  | @markedUnderscore marker r cs ds listed grouped =>
    have letter := letters marker (mem_markerChars listed)
    simp only [List.forall_mem_cons]
    exact ⟨zero, letter, underscore, grouped.solid r.base_le⟩

/-- A text denotes an integer that may announce its base. -/
abbrev Denotes : String → Int → Prop := Written Literal

/-- Texts are read as the integers that they denote. -/
theorem readMarkedInt?_eq_some_iff {text : String} {n : Int} :
    readMarkedInt? text = some n ↔ Denotes text n :=
  readFolded?_eq_some_iff readMarkedNat?_eq_some_iff Literal.solid

/-- Decimal texts are read as the integers that they denote; leading zeros do not matter. -/
theorem readInt?_eq_some_iff {text : String} {n : Int} :
    readInt? text = some n ↔ Written Numeral text n :=
  readFolded?_eq_some_iff readNat?_decimal_eq_some_iff Numeral.solid

end Chip8.Text
