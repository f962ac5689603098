import Chip8.Text.ControlSequence
import Chip8.Text.Hex

/-!
# Texts without control sequences

A control sequence is a stretch of brackets, parameters and letters after an escape character. So
what stands around other characters is shown in its own right, and the texts of numbers, in which no
escape character stands, are shown as they are.
-/

namespace Chip8.Text

/-! ## Parts of a text -/

theorem length_takeWhile_add_length_dropWhile (p : Char → Bool) (cs : List Char) :
    (cs.takeWhile p).length + (cs.dropWhile p).length = cs.length := by
  rw [← List.length_append, List.takeWhile_append_dropWhile]

theorem sequenceLength_le (cs : List Char) : sequenceLength cs ≤ cs.length := by
  unfold sequenceLength
  split
  · rename_i c cs
    have parts := length_takeWhile_add_length_dropWhile isParameter cs
    cases rest : cs.dropWhile isParameter with
    | nil => exact Nat.zero_le _
    | cons final after =>
      rw [rest, List.length_cons] at parts
      simp only [List.length_cons]
      split <;> omega
  · exact Nat.zero_le _

/-- Whether a character is none of those that control sequences are made of. -/
def endsSequences (c : Char) : Bool :=
  !(c = escapeCharacter || c = '[' || isParameter c || c.isAlpha)

/-- A control sequence does not reach beyond a character that it cannot be made of. -/
theorem sequenceLength_append {c : Char} (h : endsSequences c) (cs rest : List Char) :
    sequenceLength (cs ++ c :: rest) = sequenceLength cs := by
  simp only [endsSequences, Bool.not_eq_true', Bool.or_eq_false_iff, decide_eq_false_iff_not] at h
  obtain ⟨⟨⟨no_escape, no_bracket⟩, no_parameter⟩, no_letter⟩ := h
  match cs with
  | [] => exact sequenceLength_eq_zero no_escape rest
  | [d] => simp [sequenceLength, no_bracket]
  | d :: b :: cs =>
    by_cases bracket : b = '['
    · subst bracket
      have parts := length_takeWhile_add_length_dropWhile isParameter cs
      simp only [List.cons_append, sequenceLength, List.dropWhile_append, List.takeWhile_append]
      cases tail : cs.dropWhile isParameter with
      | nil => simp [no_parameter, no_letter]
      | cons final after =>
        rw [tail, List.length_cons] at parts
        have shorter : (cs.takeWhile isParameter).length ≠ cs.length := by omega
        simp [shorter]
    · simp [sequenceLength, bracket]

/-- What comes before such a character is shown as if it stood alone. -/
theorem plainAfter_append {c : Char} (h : endsSequences c) (cs rest : List Char) {hidden : Nat}
    (inside : hidden ≤ cs.length) :
    plainAfter hidden (cs ++ c :: rest) = plainAfter hidden cs ++ plainAfter 0 (c :: rest) := by
  induction cs generalizing hidden with
  | nil =>
    obtain rfl := Nat.le_zero.mp inside
    simp only [plainAfter, List.nil_append]
  | cons d cs ih =>
    cases hidden with
    | succ hidden =>
      rw [List.cons_append, plainAfter, plainAfter, ih (Nat.le_of_succ_le_succ inside)]
    | zero =>
      have short := sequenceLength_le (d :: cs)
      have same := sequenceLength_append h (d :: cs) rest
      rw [List.cons_append] at same ⊢
      rw [plainAfter, plainAfter, same]
      cases begun : sequenceLength (d :: cs) with
      | zero => simp only [ih (Nat.zero_le _), List.cons_append]
      | succ hidden =>
        rw [begun, List.length_cons] at short
        exact ih (Nat.le_of_succ_le_succ short)

theorem plainAfter_append_of_notMem {before : List Char} (h : escapeCharacter ∉ before)
    (cs : List Char) : plainAfter 0 (before ++ cs) = before ++ plainAfter 0 cs := by
  induction before with
  | nil => rfl
  | cons c before ih =>
    obtain ⟨hc, hbefore⟩ := not_or.mp (mt List.mem_cons.mpr h)
    rw [List.cons_append, plainAfter, sequenceLength_eq_zero (Ne.symm hc), List.cons_append]
    exact congrArg (c :: ·) (ih hbefore)

/-! ## Texts without escape characters -/

/-- No character of a text begins a control sequence. -/
def EscapeFree (text : String) : Prop := escapeCharacter ∉ text.toList

instance (text : String) : Decidable (EscapeFree text) := inferInstanceAs (Decidable (_ ∉ _))

theorem EscapeFree.append {before after : String} (h : EscapeFree before) (h' : EscapeFree after) :
    EscapeFree (before ++ after) := by
  rw [EscapeFree, String.toList_append, List.mem_append, not_or]
  exact ⟨h, h'⟩

/-- A text between two without escape characters, the second of which begins with a character that
ends control sequences, is shown as it is shown alone. -/
theorem plain_between {before after : String} (hbefore : EscapeFree before)
    (hafter : EscapeFree after) (ends : after.toList.head?.any endsSequences = true)
    (text : String) : plain (before ++ text ++ after) = before ++ plain text ++ after := by
  obtain ⟨c, head, ends⟩ := (Option.any_eq_true _ _).mp ends
  obtain ⟨rest, first⟩ := List.head?_eq_some_iff.mp head
  rw [EscapeFree, first] at hafter
  apply String.toList_inj.mp
  simp only [plain, String.toList_append, String.toList_ofList, List.append_assoc]
  rw [first, plainAfter_append_of_notMem hbefore, plainAfter_append ends _ _ (Nat.zero_le _),
    plainAfter_eq_self hafter]

/-! ## The texts of numbers -/

theorem lt_of_mem_digits {base n d : Nat} (h : d ∈ digits base n) : d < max base 2 := by
  induction n using digits.induct base with
  | case1 n small =>
    rw [digits_of_lt small, List.mem_singleton] at h
    rwa [h]
  | case2 n large ih =>
    rw [digits_of_le (by omega), List.mem_append, List.mem_singleton] at h
    rcases h with higher | rfl
    · exact ih higher
    · exact Nat.mod_lt _ (by omega)

theorem escape_notMem_hexDigits (width n : Nat) : escapeCharacter ∉ hexDigits width n := by
  have no_digit : ∀ d < 16, hexDigit d ≠ escapeCharacter := by decide
  intro mem
  rcases List.mem_append.mp mem with padding | digit
  · exact absurd (List.eq_of_mem_replicate padding) (by decide)
  · obtain ⟨d, digit, spelled⟩ := List.mem_map.mp digit
    exact no_digit d (lt_of_mem_digits digit) spelled

theorem escapeFree_hex (width : Nat) (n : Int) : EscapeFree (hex width n) := by
  rw [EscapeFree, hex]
  split
  · rw [String.toList_ofList, List.mem_cons, not_or]
    exact ⟨by decide, escape_notMem_hexDigits _ _⟩
  · rw [String.toList_ofList]
    exact escape_notMem_hexDigits _ _

theorem escapeFree_repr (n : Nat) : EscapeFree n.repr := by
  intro mem
  rw [Nat.toList_repr] at mem
  exact absurd (Nat.isDigit_of_mem_toDigits (by decide) (by decide) mem) (by decide)

theorem escapeFree_repr_int (n : Int) : EscapeFree n.repr := by
  rw [Int.repr_eq_if]
  split
  · exact escapeFree_repr _
  · have sign : EscapeFree "-" := by decide
    exact sign.append (escapeFree_repr _)

end Chip8.Text
