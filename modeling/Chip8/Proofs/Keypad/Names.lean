import Chip8.Keypad.KeyMap
import Chip8.Proofs.Text.Ascii

/-!
# Names of host keys and key maps

A host key is found by the upper-case form of a text. In Unicode the upper-case form of a character
may be several characters, and characters beyond ASCII may have a form within it. `UpperForms` says
what matters here about these forms; whatever else they are, a text names a host key exactly if its
upper-case form is the name of that key. A key map is found by the lower-case form of a text in the
same way, and `LowerForms` says what matters about that.
-/

namespace Chip8.KeyMap

/-! ## Entries -/

/-- No host key has two entries. -/
theorem code?_eq_some_iff {m : KeyMap} {key : Char} {code : Nibble} :
    m.code? key = some code ↔ (key, code) ∈ m.entries := by
  constructor
  · intro found
    obtain ⟨before, after, entries_eq, -⟩ := List.lookup_eq_some_iff.mp found
    rw [entries_eq]
    exact List.mem_append_right _ List.mem_cons_self
  · intro listed
    have each : ∀ entry ∈ m.entries, m.code? entry.1 = some entry.2 := by
      cases m <;> decide
    exact each (key, code) listed

/-- Host keys are characters of ASCII that are their own upper-case form. -/
theorem ascii_of_mem {m : KeyMap} {key : Char} {code : Nibble} (h : (key, code) ∈ m.entries) :
    key.toNat < 128 ∧ upperCase key = key := by
  have each : ∀ entry ∈ m.entries, entry.1.toNat < 128 ∧ upperCase entry.1 = entry.1 := by
    cases m <;> decide
  exact each (key, code) h

/-- What is found is an entry, by the upper case of a single character. -/
theorem exists_of_find? {m : KeyMap} {text : String} {key : Char} {code : Nibble}
    (h : m.find? text = some (key, code)) :
    ∃ c, text.toList = [c] ∧ upperCase c = key ∧ (key, code) ∈ m.entries := by
  rw [find?] at h
  split at h
  · rename_i c single
    obtain ⟨code', entry, same⟩ := Option.map_eq_some_iff.mp h
    cases same
    exact ⟨c, single, rfl, code?_eq_some_iff.mp entry⟩
  · contradiction

/-- A name of a host key finds its entry. -/
theorem find?_singleton {m : KeyMap} {key : Char} {code : Nibble} (h : (key, code) ∈ m.entries) :
    m.find? (String.singleton key) = some (key, code) := by
  have name : (String.singleton key).toList = [key] := String.toList_singleton key
  simp only [find?, name, (ascii_of_mem h).2, code?_eq_some_iff.mpr h, Option.map_some]

/-! ## Upper-case forms -/

/-- The upper-case forms of characters, as far as host keys need them. A character of ASCII has one
character of ASCII for its form. No form is empty, and besides ASCII only the long s and the dotless
i have a single character of ASCII for their form. -/
structure UpperForms (form : Char → List Char) : Prop where
  ascii : ∀ c : Char, c.toNat < 128 → form c = [c.toUpper]
  ne_nil : ∀ c, form c ≠ []
  long_s : form 'ſ' = ['S']
  dotless_i : form 'ı' = ['I']
  beyond : ∀ c d, form c = [d] → d.toNat < 128 → c.toNat < 128 ∨ c = 'ſ' ∨ c = 'ı'

namespace UpperForms

variable {form : Char → List Char} (forms : UpperForms form)

include forms

/-- A text whose form is one character is one character. -/
theorem exists_of_flatMap_eq {cs : List Char} {d : Char} (h : cs.flatMap form = [d]) :
    ∃ c, cs = [c] ∧ form c = [d] := by
  cases cs with
  | nil => contradiction
  | cons c rest =>
    rw [List.flatMap_cons] at h
    obtain ⟨first, others⟩ := (List.append_eq_singleton_iff.mp h).resolve_left
      fun none => forms.ne_nil c none.1
    cases rest with
    | nil => exact ⟨c, rfl, first⟩
    | cons c' rest =>
      rw [List.flatMap_cons] at others
      exact absurd (List.append_eq_nil_iff.mp others).1 (forms.ne_nil c')

/-- The upper-case form of a character is one character of ASCII exactly if that is its simple
upper case. -/
theorem eq_singleton_iff {c d : Char} (ascii : d.toNat < 128) :
    form c = [d] ↔ upperCase c = d := by
  by_cases long : c = 'ſ'
  · subst long
    rw [forms.long_s, List.singleton_inj]
    rfl
  by_cases dotless : c = 'ı'
  · subst dotless
    rw [forms.dotless_i, List.singleton_inj]
    rfl
  rw [upperCase, if_neg long, if_neg dotless]
  by_cases small : c.toNat < 128
  · rw [forms.ascii c small, List.singleton_inj]
  · constructor
    · intro same
      rcases forms.beyond c d same ascii with h | h | h <;> contradiction
    · intro same
      rw [Text.toUpper_of_le (Nat.not_lt.mp small)] at same
      rw [same] at small
      contradiction

/-- A text names a host key exactly if its upper-case form is the name of that key. -/
theorem find?_eq_some_iff {m : KeyMap} {text : String} {key : Char} {code : Nibble} :
    m.find? text = some (key, code) ↔
      text.toList.flatMap form = [key] ∧ (key, code) ∈ m.entries := by
  constructor
  · intro found
    obtain ⟨c, single, upper, listed⟩ := exists_of_find? found
    rw [single, List.flatMap_singleton]
    exact ⟨(forms.eq_singleton_iff (ascii_of_mem listed).1).mpr upper, listed⟩
  · rintro ⟨one, listed⟩
    obtain ⟨c, single, form_eq⟩ := forms.exists_of_flatMap_eq one
    have upper : upperCase c = key :=
      (forms.eq_singleton_iff (ascii_of_mem listed).1).mp form_eq
    simp only [find?, single, upper, code?_eq_some_iff.mpr listed, Option.map_some]

end UpperForms

/-! ## Lower-case forms -/

theorem ofName?_eq_some_iff {text : String} {m : KeyMap} :
    ofName? text = some m ↔ text.toList.map Char.toLower = m.name.toList := by
  rw [ofName?]
  constructor
  · intro found
    split at found
    case isTrue lowered =>
      cases found
      exact lowered
    split at found
    case isTrue lowered =>
      cases found
      exact lowered
    contradiction
  · intro lowered
    simp only [lowered]
    cases m <;> rfl

/-- The lower-case forms of texts, as far as names of key maps need them. A text of ASCII has its
simple lower case for its form. The form of a text with other characters has a character beyond
ASCII, or the small letter that the Kelvin sign has for its form. -/
structure LowerForms (lower : String → String) : Prop where
  ascii : ∀ text : String, (∀ c ∈ text.toList, c.toNat < 128) →
    (lower text).toList = text.toList.map Char.toLower
  beyond : ∀ text : String, (∃ c ∈ text.toList, 128 ≤ c.toNat) →
    ∃ c ∈ (lower text).toList, c = 'k' ∨ 128 ≤ c.toNat

/-- A text names a key map exactly if its lower-case form is the name of that. -/
theorem LowerForms.ofName?_eq_some_iff {lower : String → String} (forms : LowerForms lower)
    {text : String} {m : KeyMap} : ofName? text = some m ↔ lower text = m.name := by
  rw [KeyMap.ofName?_eq_some_iff, ← String.toList_inj]
  by_cases foreign : ∃ c ∈ text.toList, 128 ≤ c.toNat
  · have letters : ∀ c ∈ m.name.toList, (c ≠ 'k' && c.toNat < 128) = true :=
      List.all_eq_true.mp (by cases m <;> decide)
    simp only [Bool.and_eq_true, decide_eq_true_eq] at letters
    obtain ⟨d, mem_form, beyond⟩ := forms.beyond text foreign
    obtain ⟨c, mem, large⟩ := foreign
    constructor
    · intro simple
      have kept : c ∈ m.name.toList := by
        rw [← simple, ← Text.toLower_of_le large]
        exact List.mem_map_of_mem mem
      exact absurd (letters c kept).2 (Nat.not_lt.mpr large)
    · intro form
      rw [form] at mem_form
      obtain ⟨not_k, small⟩ := letters d mem_form
      exact (beyond.elim not_k (Nat.not_le.mpr small)).elim
  · have ascii : ∀ c ∈ text.toList, c.toNat < 128 := fun c mem =>
      Nat.not_le.mp fun large => foreign ⟨c, mem, large⟩
    rw [forms.ascii text ascii]

end Chip8.KeyMap
