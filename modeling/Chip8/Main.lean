import Chip8.CommandLine.Run

/-!
# The command `chip8run`

The outermost layer: it looks at the files that the arguments name, runs the program against the
system's clock, prints the report and writes the picture.
-/

namespace Chip8.CommandLine

/-- What a path leads to in the file system. -/
def entryAt (path : String) : IO Entry := do
  try
    let content ← IO.FS.readBinFile path
    return .file (content.toList.map fun b => BitVec.ofNat 8 b.toNat)
  catch trouble =>
    match trouble with
    | .inappropriateType _ code _ => return if code = 21 then .directory else .notDirectory
    | .invalidArgument _ code _ => return if code = 36 then .nameTooLong else .missing
    | _ => return .missing

/-- The entries of several paths. -/
def entriesAt (paths : List String) : IO (String → Entry) := do
  let entries ← paths.mapM fun path => return (path, ← entryAt path)
  return fun path => (entries.lookup path).getD .missing

/-- The system's clock. -/
def systemClock : Clock IO where
  now := return Float.ofNat (← IO.monoNanosNow) / 1.0e9
  sleep seconds := IO.sleep (seconds * 1000.0).toUInt32

/-- A seed that differs from run to run. -/
def freshSeed : IO Int := do
  let bytes ← IO.getRandomBytes 8
  return bytes.foldl (fun n b => n * 256 + b.toNat) (0 : Nat)

/-- The paths that arguments make a run ask about. -/
def pathsFor (arguments : List String) : List String :=
  match Request.ofArguments arguments with
  | .ok (.run o) => o.pathTexts
  | _ => []

/-- Print a report and write its picture. -/
def deliver (r : Report) : IO UInt32 := do
  r.output.forM IO.println
  match r.picture with
  | none => pure ()
  | some (p, image) => IO.FS.writeBinFile p.text ⟨(Png.encode image).toArray⟩
  r.errors.forM IO.eprintln
  return r.status.code.toUInt32

end Chip8.CommandLine

open Chip8.CommandLine in
/-- Run the program that the arguments name. -/
def main (arguments : List String) : IO UInt32 := do
  let surroundings : Surroundings IO := {
    files := ← entriesAt (pathsFor arguments)
    clock := systemClock
    decisions := 0x4000000000000000
    seed := ← freshSeed }
  match ← run surroundings arguments with
  | .finished report => deliver report
  | .unusable e => deliver e.report
  | .unfinished => return ExitStatus.internalError.code.toUInt32
