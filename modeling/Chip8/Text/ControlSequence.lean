/-!
# Control sequences

A control sequence tells a terminal to do something instead of showing a character. It is written as
the escape character, an opening bracket, parameters and a letter. `plain` leaves out all control
sequences of a text, so that what remains looks the same wherever it is shown.
-/

namespace Chip8.Text

/-- The character that begins a control sequence. -/
def escapeCharacter : Char := '\x1b'

/-- Whether a character may stand among the parameters of a control sequence. -/
def isParameter (c : Char) : Bool := c.isDigit || c = ';' || c = '?'

/-- The length of the control sequence at the beginning of a text, zero if there is none. -/
def sequenceLength : List Char → Nat
  | c :: '[' :: cs =>
    match cs.dropWhile isParameter with
    | final :: _ =>
      if c = escapeCharacter && final.isAlpha then (cs.takeWhile isParameter).length + 3 else 0
    | [] => 0
  | _ => 0

/-- A text without its control sequences, the given number of characters being left out first. -/
def plainAfter : Nat → List Char → List Char
  | _, [] => []
  | hidden + 1, _ :: cs => plainAfter hidden cs
  | 0, c :: cs =>
    match sequenceLength (c :: cs) with
    | 0 => c :: plainAfter 0 cs
    | hidden + 1 => plainAfter hidden cs

/-- A text without its control sequences. Escape characters that begin none are kept. -/
def plain (text : String) : String := String.ofList (plainAfter 0 text.toList)

/-- A control sequence begins with the escape character. -/
theorem sequenceLength_eq_zero {c : Char} (h : c ≠ escapeCharacter) (cs : List Char) :
    sequenceLength (c :: cs) = 0 := by
  unfold sequenceLength
  split
  · split <;> simp_all
  · rfl

/-- A text without escape characters is left as it is. -/
theorem plainAfter_eq_self {cs : List Char} (h : escapeCharacter ∉ cs) : plainAfter 0 cs = cs := by
  induction cs with
  | nil => rfl
  | cons c cs ih =>
    obtain ⟨hc, hcs⟩ := not_or.mp (mt List.mem_cons.mpr h)
    rw [plainAfter, sequenceLength_eq_zero (Ne.symm hc)]
    exact congrArg (c :: ·) (ih hcs)

/-- A text without escape characters is shown as it is. -/
theorem plain_eq_self {text : String} (h : escapeCharacter ∉ text.toList) : plain text = text := by
  rw [plain, plainAfter_eq_self h, String.ofList_toList]

end Chip8.Text
