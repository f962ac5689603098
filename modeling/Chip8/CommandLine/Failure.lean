import Chip8.Fault
import Chip8.Files
import Chip8.Text.ControlSequence
import Chip8.Text.Quoted

/-!
# Failures of a command

What a command reports when it cannot do its work, and the status it exits with.
-/

namespace Chip8.CommandLine

/-- How a command ended. -/
inductive ExitStatus where
  | success
  /-- A program or its image was at fault. -/
  | programFault
  /-- An argument was unusable. -/
  | badArgument
  /-- Something went wrong that should not have. -/
  | internalError
  deriving DecidableEq, Repr

/-- The number of a status. -/
def ExitStatus.code : ExitStatus → Nat
  | success => 0
  | programFault => 1
  | badArgument => 2
  | internalError => 3

/-- Why a command could not do its work. -/
inductive Failure where
  | fault (f : Fault)
  | badParameter (text : String)
  | fileNotFound (text : String)
  | permissionDenied (text : String)
  | internal (text : String)
  deriving DecidableEq, Repr

namespace Failure

/-- A file that cannot be written. Only a way that is missing is blamed on the arguments. -/
def ofTrouble (trouble : FileTrouble) (p : Path) : Failure :=
  let text := s!"[Errno {trouble.number}] {trouble.reason}: " ++ Text.quoted p.text
  match trouble with
  | .missing => .fileNotFound text
  | _ => .internal text

/-- The status that a failure leads to. -/
def status : Failure → ExitStatus
  | fault _ => .programFault
  | badParameter _ | fileNotFound _ | permissionDenied _ => .badArgument
  | internal _ => .internalError

/-- The description of a failure. -/
def message : Failure → String
  | fault f => f.message
  | badParameter text | fileNotFound text | permissionDenied text | internal text => text

/-- The words before the description. A fault is called after the activity that it ended, unless
that has no name. -/
def label (f : Failure) (activity : String) : String :=
  match f.status with
  | .programFault => if activity = "" then "Error" else activity ++ " error"
  | .internalError => "Internal error"
  | _ => "Error"

/-- The lines that report a failure, as the terminal shows them. Verbose reports of internal errors
add what is known of the place of the error, which is nothing. -/
def linesOn (f : Failure) (echo : String → String) (verbose : Bool) (activity : String) :
    List String :=
  let report := echo (f.label activity ++ ": " ++ f.message)
  if verbose ∧ f.status = .internalError then [report, "NoneType: None"] else [report]

/-- The lines that report a failure where control sequences are left out. -/
def lines (f : Failure) (verbose : Bool) (activity : String) : List String :=
  f.linesOn Text.plain verbose activity

end Failure

end Chip8.CommandLine
