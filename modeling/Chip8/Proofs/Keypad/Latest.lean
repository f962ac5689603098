import Chip8.Proofs.Keypad.Event
import Chip8.Proofs.Keypad.Names
import Mathlib.Data.List.Induction

/-!
# The most recent event decides

An event that is not refused leaves nothing of what was held before, and one that is refused changes
nothing. So after any events a keypad is as the last accepted one would have left a new keypad. What
is held is then a key of the keypad, and if a host key produced it, that host key still does.
-/

namespace Chip8.Keypad

/-! ## Accepted events -/

namespace Event

/-- The event holds a code that no key has. -/
def Refused : Event → Prop
  | .code c => ¬ (0 ≤ c ∧ c ≤ 15)
  | _ => False

instance : DecidablePred Refused
  | .code c => inferInstanceAs (Decidable (¬ (0 ≤ c ∧ c ≤ 15)))
  | .down _ | .up _ | .clear => inferInstanceAs (Decidable False)

/-- The last event that is not refused. -/
def latest? (events : List Event) : Option Event :=
  (events.filter fun event => ¬ event.Refused).getLast?

theorem latest?_concat (events : List Event) (event : Event) :
    latest? (events ++ [event]) = if event.Refused then latest? events else some event := by
  rw [latest?, List.filter_append]
  by_cases refused : event.Refused
  · rw [if_pos refused, List.filter_cons_of_neg (by simpa using refused), List.filter_nil,
      List.append_nil]
    rfl
  · rw [if_neg refused, List.filter_cons_of_pos (by simpa using refused), List.filter_nil,
      List.getLast?_concat]

end Event

/-! ## Single events -/

variable (k : Keypad)

theorem pressCode_of_refused {code : Int} (h : ¬ (0 ≤ code ∧ code ≤ 15)) :
    k.pressCode code = .error (.keyCode code) := by
  rw [pressCode, if_neg h]

theorem pressCode_of_accepted {code : Int} (h : 0 ≤ code ∧ code ≤ 15) :
    k.pressCode code = .ok ⟨k.keyMap, some ⟨.ofInt 4 code, none⟩⟩ := by
  rw [pressCode, if_pos h]

/-- A refused event changes nothing. -/
theorem after_of_refused {event : Event} (h : event.Refused) : k.after event = k := by
  cases event with
  | code code =>
    rw [after, k.pressCode_of_refused h]
    rfl
  | down | up | clear => exact h.elim

/-- An accepted event leaves nothing of what was held before. -/
theorem after_of_accepted {event : Event} (h : ¬ event.Refused) :
    k.after event = (released k.keyMap).after event := by
  cases event with
  | code code =>
    have accepted : 0 ≤ code ∧ code ≤ 15 := Decidable.not_not.mp h
    rw [after, after, k.pressCode_of_accepted accepted, pressCode_of_accepted _ accepted]
    rfl
  | down | up | clear => rfl

theorem keyMap_after (event : Event) : (k.after event).keyMap = k.keyMap := by
  by_cases refused : event.Refused
  · rw [k.after_of_refused refused]
  · cases event with
    | code code =>
      rw [after, k.pressCode_of_accepted (Decidable.not_not.mp refused)]
      rfl
    | down | up | clear => rfl

/-! ## Sequences of events -/

section

variable (m : KeyMap) (events : List Event)

theorem afterAll_concat (event : Event) :
    k.afterAll (events ++ [event]) = (k.afterAll events).after event := by
  rw [afterAll, List.foldl_append]
  rfl

theorem keyMap_afterAll : ((released m).afterAll events).keyMap = m := by
  induction events using List.reverseRecOn with
  | nil => rfl
  | append_singleton events event ih => rw [afterAll_concat, keyMap_after, ih]

/-- The last accepted event decides alone. -/
theorem afterAll_eq :
    (released m).afterAll events =
      (Event.latest? events).elim (released m) (released m).after := by
  induction events using List.reverseRecOn with
  | nil => rfl
  | append_singleton events event ih =>
    rw [afterAll_concat, Event.latest?_concat]
    split
    case isTrue refused => rw [after_of_refused _ refused, ih]
    case isFalse accepted =>
      rw [after_of_accepted _ accepted, keyMap_afterAll]
      rfl

end

/-! ## Host keys -/

/-- If a host key is remembered, it is one of the key map and produces the held key. -/
def HostKeyAgrees (k : Keypad) : Prop :=
  ∀ key, k.hostKey = some key →
    ∃ code, (key, code) ∈ k.keyMap.entries ∧ k.heldCode = some code ∧
      k.keyMap.codeOf? (String.singleton key) = some code

theorem hostKeyAgrees_released (m : KeyMap) : (released m).HostKeyAgrees := by
  intro key remembered
  contradiction

theorem hostKeyAgrees_after (m : KeyMap) (event : Event) :
    ((released m).after event).HostKeyAgrees := by
  cases event with
  | down text =>
    intro key remembered
    change (((m.find? text).map fun entry => (⟨entry.2, some entry.1⟩ : HeldKey)).bind
      (·.hostKey)) = some key at remembered
    cases found : m.find? text with
    | none =>
      rw [found] at remembered
      contradiction
    | some entry =>
      obtain ⟨key', code⟩ := entry
      rw [found] at remembered
      obtain rfl : key' = key := Option.some.inj remembered
      obtain ⟨-, -, -, listed⟩ := KeyMap.exists_of_find? found
      refine ⟨code, listed, ?_, ?_⟩
      · simp only [after, press, heldCode, released, found, Option.map_some]
      · change (m.find? (String.singleton _)).map (·.2) = some code
        rw [KeyMap.find?_singleton listed]
        rfl
  | code code =>
    intro key remembered
    by_cases accepted : 0 ≤ code ∧ code ≤ 15
    · rw [after, pressCode_of_accepted _ accepted] at remembered
      contradiction
    · rw [after, pressCode_of_refused _ accepted] at remembered
      contradiction
  | up | clear =>
    intro key remembered
    contradiction

theorem reading_le (k : Keypad) : ∀ code ∈ k.reading, 0 ≤ code ∧ code ≤ 15 := by
  rintro code held
  obtain ⟨nibble, -, rfl⟩ := Option.map_eq_some_iff.mp held
  have := nibble.isLt
  omega

section

variable {form : Char → List Char} (forms : KeyMap.UpperForms form) {m : KeyMap} {text : String}

include forms

/-- A host key is held if the upper-case form of the text is its name. -/
theorem press_of_mem {key : Char} {code : Nibble} (named : text.toList.flatMap form = [key])
    (listed : (key, code) ∈ m.entries) :
    (released m).press text = ⟨m, some ⟨code, some key⟩⟩ := by
  simp only [press, released, forms.find?_eq_some_iff.mpr ⟨named, listed⟩, Option.map_some]

/-- No key is held if the upper-case form of the text is no host key's name. -/
theorem press_of_unnamed (unnamed : ∀ entry ∈ m.entries, text.toList.flatMap form ≠ [entry.1]) :
    (released m).press text = released m := by
  have missing : m.find? text = none := by
    rw [Option.eq_none_iff_forall_ne_some]
    rintro ⟨key, code⟩ found
    obtain ⟨named, listed⟩ := forms.find?_eq_some_iff.mp found
    exact unnamed (key, code) listed named
  simp only [press, released, missing, Option.map_none]

end

/-! ## The most recent event -/

/-- After any events a code is refused exactly if no key has it, and that changes nothing. The last
accepted event alone decides what is held: the keypad is as that event leaves a new one. A held key
is one of sixteen, and if a host key is remembered, it is one of the key map and produces the held
key. Whatever the upper-case forms of Unicode are otherwise, holding a host key holds the one whose
name is the upper-case form of the text, or none. -/
theorem latest_wins (m : KeyMap) (events : List Event) :
    let k := (released m).afterAll events
    (∀ code : Int,
      ((∃ e, k.pressCode code = .error e) ↔ ¬ (0 ≤ code ∧ code ≤ 15)) ∧
      (¬ (0 ≤ code ∧ code ≤ 15) →
        k.pressCode code = .error (.keyCode code) ∧ k.after (.code code) = k)) ∧
    k = (Event.latest? events).elim (released m) (released m).after ∧
    (∀ code ∈ k.reading, 0 ≤ code ∧ code ≤ 15) ∧
    (∀ key, k.hostKey = some key →
      ∃ code, (key, code) ∈ m.entries ∧ k.heldCode = some code ∧
        m.codeOf? (String.singleton key) = some code) ∧
    ∀ form, KeyMap.UpperForms form → ∀ text : String,
      (∀ key code, text.toList.flatMap form = [key] → (key, code) ∈ m.entries →
        k.after (.down text) = ⟨m, some ⟨code, some key⟩⟩) ∧
      ((∀ entry ∈ m.entries, text.toList.flatMap form ≠ [entry.1]) →
        k.after (.down text) = released m) := by
  intro k
  have keyMap_eq : k.keyMap = m := keyMap_afterAll m events
  have decided : k = (Event.latest? events).elim (released m) (released m).after :=
    afterAll_eq m events
  have down_eq (text : String) : k.after (.down text) = (released m).press text := by
    rw [after_of_accepted _ id, keyMap_eq]
    rfl
  refine ⟨fun code => ⟨⟨?_, fun refused => ⟨_, k.pressCode_of_refused refused⟩⟩, fun refused =>
    ⟨k.pressCode_of_refused refused, k.after_of_refused refused⟩⟩, decided, k.reading_le, ?_, ?_⟩
  · rintro ⟨e, failed⟩ accepted
    rw [k.pressCode_of_accepted accepted] at failed
    contradiction
  · have agrees : k.HostKeyAgrees := by
      rw [decided]
      cases Event.latest? events with
      | none => exact hostKeyAgrees_released m
      | some event => exact hostKeyAgrees_after m event
    rw [← keyMap_eq]
    exact agrees
  · intro form forms text
    rw [down_eq]
    exact ⟨fun key code => press_of_mem forms, press_of_unnamed forms⟩

/-- Upper-case forms that are right for ASCII, the long s, the dotless i and the sharp s. -/
def sharpForms (c : Char) : List Char := if c = 'ß' then ['S', 'S'] else [KeyMap.upperCase c]

theorem upperForms_sharpForms : KeyMap.UpperForms sharpForms where
  ascii c small := by
    have plain : c ≠ 'ß' ∧ c ≠ 'ſ' ∧ c ≠ 'ı' := by
      refine ⟨?_, ?_, ?_⟩
      all_goals
        rintro rfl
        contradiction
    rw [sharpForms, if_neg plain.1, KeyMap.upperCase, if_neg plain.2.1, if_neg plain.2.2]
  ne_nil c := by
    rw [sharpForms]
    split <;> exact List.cons_ne_nil _ _
  long_s := by decide
  dotless_i := by decide
  beyond c d form_eq small := by
    apply Decidable.byContradiction
    intro other
    obtain ⟨large, not_long, not_dotless⟩ : ¬ c.toNat < 128 ∧ c ≠ 'ſ' ∧ c ≠ 'ı' := by
      simpa only [not_or] using other
    rw [sharpForms] at form_eq
    split at form_eq
    · exact absurd form_eq (by simp)
    · rw [KeyMap.upperCase, if_neg not_long, if_neg not_dotless,
        Text.toUpper_of_le (Nat.not_lt.mp large)] at form_eq
      obtain rfl := List.singleton_inj.mp form_eq
      exact large small

/-- The long s is the key `S`, also between a code and a refused code. The sharp s is no key, since
its upper-case form is two characters. -/
theorem latest_wins_longS :
    (released .cosmac).afterAll [.code 7, .down "ſ", .code 16] =
        ⟨.cosmac, some ⟨0x8, some 'S'⟩⟩ ∧
      (released .cosmac).afterAll [.code 7, .down "ß"] = released .cosmac := by
  obtain ⟨-, -, -, -, pressed⟩ := latest_wins .cosmac []
  constructor
  · have named : "ſ".toList.flatMap sharpForms = ['S'] := by decide
    refine (latest_wins .cosmac [.code 7, .down "ſ", .code 16]).2.1.trans ?_
    exact (pressed sharpForms upperForms_sharpForms "ſ").1 'S' 0x8 named (by decide)
  · have unnamed : ∀ entry ∈ KeyMap.cosmac.entries,
        "ß".toList.flatMap sharpForms ≠ [entry.1] := by decide
    refine (latest_wins .cosmac [.code 7, .down "ß"]).2.1.trans ?_
    exact (pressed sharpForms upperForms_sharpForms "ß").2 unnamed

end Chip8.Keypad
