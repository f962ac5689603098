import Chip8.Path
import Chip8.Word

/-!
# Files

What a path leads to, and why it cannot be read if it is not a file. `Files.entry` answers the
question for a working directory that is known to hold just a few files.
-/

namespace Chip8

/-- What a path leads to. -/
inductive Entry where
  | missing
  /-- The way leads through something that is no directory. -/
  | notDirectory
  /-- The path or one of its names is longer than a file system can tell. -/
  | nameTooLong
  | directory
  | file (content : List Byte)
  deriving DecidableEq

/-- Why a file cannot be opened: the number and the text of the system's complaint. -/
inductive FileTrouble where
  | missing
  | notDirectory
  | isDirectory
  | nameTooLong
  deriving DecidableEq, Repr

namespace FileTrouble

/-- The number of the complaint. -/
def number : FileTrouble → Nat
  | missing => 2
  | notDirectory => 20
  | isDirectory => 21
  | nameTooLong => 36

/-- The text of the complaint. -/
def reason : FileTrouble → String
  | missing => "No such file or directory"
  | notDirectory => "Not a directory"
  | isDirectory => "Is a directory"
  | nameTooLong => "File name too long"

end FileTrouble

/-- The content of a file, or why it cannot be read. -/
def Entry.content : Entry → Except FileTrouble (List Byte)
  | missing => .error .missing
  | notDirectory => .error .notDirectory
  | nameTooLong => .error .nameTooLong
  | directory => .error .isDirectory
  | file content => .ok content

/-- The files of a working directory. -/
abbrev Files := List (Path × List Byte)

namespace Files

/-- The bytes that a name may have. -/
def nameLimit : Nat := 255

/-- The bytes that the text of a path may have. -/
def pathLimit : Nat := 4095

/-- What a place on the way of a path is. Names that only go up lead to directories. -/
def place (files : Files) (p : Path) : Entry :=
  if p.names.all (· = "..") then .directory
  else if nameLimit < p.name.utf8ByteSize then .nameTooLong
  else match files.lookup p with
    | some content => .file content
    | none =>
      if files.any fun (file, _) => file.root = p.root ∧ p.names <+: file.names then .directory
      else .missing

/-- What the names of a path lead to, taken one after the other from a place. -/
def walk (files : Files) (here : Path) : List String → Entry
  | [] => files.place here
  | name :: names =>
    match files.place here with
    | .directory => files.walk { here with names := here.names ++ [name] } names
    | .file _ => .notDirectory
    | trouble => trouble

/-- What a path leads to from the working directory. -/
def entry (files : Files) (p : Path) : Entry :=
  if pathLimit < p.text.utf8ByteSize then .nameTooLong
  else files.walk { p with names := [] } p.names

/-- Whether a path's text asks for a directory by ending in a separator or in the name that stays in
place. -/
def wantsDirectory (text : String) : Bool :=
  match (text.splitOn "/").getLast? with
  | some last => last = "" || last = "."
  | none => false

/-- What the text of a path leads to. The empty text leads nowhere. -/
def lookup (files : Files) (text : String) : Entry :=
  if text = "" then .missing
  else if pathLimit < text.utf8ByteSize then .nameTooLong
  else match files.entry (.ofText text) with
    | .file content => if wantsDirectory text then .notDirectory else .file content
    | found => found

end Files

end Chip8
