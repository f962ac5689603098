import Chip8.CommandLine.Failure
import Chip8.Proofs.Emulator.Session
import Chip8.Proofs.Text.ControlSequence

/-!
# What is said of failures

The messages of the faults that can end a run of an image hold no escape characters, so a terminal
shows them as they are. A host key that is named in a message is shown as the terminal shows it.
-/

namespace Chip8

open Text

namespace Fault

theorem OfInstruction.escapeFree {f : Fault} (h : f.OfInstruction) : EscapeFree f.message := by
  have place (text : String) (free : EscapeFree text) (pc : Address) :
      EscapeFree (text ++ " at $" ++ hex 3 pc.toNat) :=
    (free.append (by decide)).append (escapeFree_hex 3 pc.toNat)
  cases h with
  | invalidOpcode word pc =>
    have opcode : EscapeFree "Invalid opcode $" := by decide
    exact place _ (opcode.append (escapeFree_hex 4 word.toNat)) pc
  | emptyStack pc => exact place "Return with empty call stack" (by decide) pc

theorem escapeFree_imageSize (size limit : Int) : EscapeFree (imageSize size limit).message := by
  have first : EscapeFree "Program image is " := by decide
  have second : EscapeFree " bytes, exceeds " := by decide
  have third : EscapeFree " bytes of program memory" := by decide
  exact (((first.append (escapeFree_repr_int size)).append second).append
    (escapeFree_repr_int limit)).append third

end Fault

namespace CommandLine.Failure

/-- The line that reports a fault of a run, on a terminal that shows what holds no escape characters
as it is. -/
theorem linesOn_fault {f : Fault} (free : EscapeFree f.message) {echo : String → String}
    (faithful : ∀ text, EscapeFree text → echo text = text) :
    (fault f).linesOn echo false "Emulation" = ["Emulation error: " ++ f.message] := by
  have label : EscapeFree "Emulation error: " := by decide
  have said : "Emulation" ++ " error" ++ ": " = "Emulation error: " := by decide
  have line : (fault f).label "Emulation" ++ ": " ++ (fault f).message =
      "Emulation error: " ++ f.message := congrArg (· ++ f.message) said
  rw [linesOn, line, faithful _ (label.append free)]
  rfl

/-- The line that reports a host key that denotes no key. -/
theorem linesOn_badKey (echo : String → String) (key : String) (keyMap : KeyMap) :
    (badParameter s!"key '{key}' is not in the {keyMap.name} key map").linesOn echo false
        "Emulation" =
      [echo ("Error: key '" ++ key ++ "' is not in the " ++ keyMap.name ++ " key map")] := by
  have start : "Error" ++ ": " ++ "key '" = "Error: key '" := by decide
  rw [← start]
  simp only [String.append_assoc]
  rfl

/-- Where control sequences are left out, the key is shown without those that it holds. -/
theorem plain_badKey (key : String) (keyMap : KeyMap) :
    plain ("Error: key '" ++ key ++ "' is not in the " ++ keyMap.name ++ " key map") =
      "Error: key '" ++ plain key ++ "' is not in the " ++ keyMap.name ++ " key map" := by
  have before : EscapeFree "Error: key '" := by decide
  have after : EscapeFree ("' is not in the " ++ keyMap.name ++ " key map") := by
    cases keyMap <;> decide
  have ends : ("' is not in the " ++ keyMap.name ++ " key map").toList.head?.any endsSequences =
      true := by
    cases keyMap <;> decide
  have shown := plain_between before after ends key
  simpa only [← String.append_assoc] using shown

end CommandLine.Failure

end Chip8
