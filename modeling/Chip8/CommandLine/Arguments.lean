import Chip8.ArgumentError

/-!
# Reading arguments

Arguments are options and texts. An option has a long name, and some have a letter; a setting takes
a value and a switch does not. The value follows in the same argument, after an equals sign for a
long name and directly for a letter, or is the next argument whatever that looks like. Switches that
have letters can be written together. After a double dash everything is a text, and so is a single
dash anywhere.
-/

namespace Chip8.CommandLine

/-- Options that take a value. -/
inductive Setting where
  | cycles
  | realtime
  | cps
  | key
  | keyMap
  | seed
  | png
  | scale
  deriving DecidableEq, Repr

/-- Options without a value. -/
inductive Switch where
  | noDisplay
  | trace
  | verbose
  | version
  | help
  deriving DecidableEq, Repr

/-- The option that a long name denotes. -/
def optionNamed? : String → Option (Setting ⊕ Switch)
  | "--cycles" => some (.inl .cycles)
  | "--realtime" => some (.inl .realtime)
  | "--cps" => some (.inl .cps)
  | "--key" => some (.inl .key)
  | "--keymap" => some (.inl .keyMap)
  | "--seed" => some (.inl .seed)
  | "--png" => some (.inl .png)
  | "--scale" => some (.inl .scale)
  | "--no-display" => some (.inr .noDisplay)
  | "--trace" => some (.inr .trace)
  | "--verbose" => some (.inr .verbose)
  | "--version" => some (.inr .version)
  | "--help" => some (.inr .help)
  | _ => none

/-- The option that a letter denotes. -/
def optionLettered? : Char → Option (Setting ⊕ Switch)
  | 'n' => some (.inl .cycles)
  | 'k' => some (.inl .key)
  | 'v' => some (.inr .verbose)
  | _ => none

/-- Why arguments cannot be read or used. -/
inductive UsageError where
  | unknownOption (argument : String)
  /-- A setting stands last. It is given as its name was written. -/
  | missingValue (name : String)
  /-- A switch was given a value. -/
  | unexpectedValue (name : String)
  | badValue (setting : Setting) (value : String)
  | missingRom
  | extraArgument (text : String)
  | noSuchFile (path : String)
  | isDirectory (path : String)
  /-- A path that no file can have. -/
  | badPath (reason : ArgumentError)
  deriving DecidableEq, Repr

namespace UsageError

/-- The text shown for unusable arguments. -/
def message : UsageError → String
  | unknownOption argument => "No such option: " ++ argument
  | missingValue name => "Option '" ++ name ++ "' requires an argument."
  | unexpectedValue name => "Option '" ++ name ++ "' does not take a value."
  | badValue _ value => "Invalid value: " ++ value
  | missingRom => "Missing argument: ROM_FILE"
  | extraArgument text => "Unexpected extra argument: " ++ text
  | noSuchFile path => "File does not exist: " ++ path
  | isDirectory path => "Not a file but a directory: " ++ path
  | badPath reason => reason.message

/-- Whether the text comes with a reminder of how the command is used. A value that is missing or
not wanted speaks for itself, and of an impossible path nothing is said at all. -/
def remindsOfUsage : UsageError → Bool
  | missingValue _ | unexpectedValue _ | badPath _ => false
  | _ => true

/-- The lines that report unusable arguments. -/
def lines (e : UsageError) : List String :=
  let report := ["Error: " ++ e.message]
  match e with
  | badPath _ => []
  | _ =>
    if e.remindsOfUsage then
      ["Usage: chip8run [OPTIONS] ROM_FILE", "Try 'chip8run --help' for help.", ""] ++ report
    else report

end UsageError

/-- One thing that the arguments say. -/
inductive Item where
  | setting (s : Setting) (value : String)
  | switch (s : Switch)
  | text (t : String)
  deriving DecidableEq, Repr

/-- What an argument says, and the setting whose value is still to come, together with the name it
goes by. -/
abbrev Reading := List Item × Option (Setting × String)

/-- Read the letters after a single dash. -/
def readLetters (argument : String) : List Char → Except UsageError Reading
  | [] => .ok ([], none)
  | c :: rest =>
    match optionLettered? c with
    | none => .error (.unknownOption argument)
    | some (.inr s) => do
      let (items, awaiting) ← readLetters argument rest
      return (.switch s :: items, awaiting)
    | some (.inl s) =>
      if rest = [] then .ok ([], some (s, "-" ++ String.singleton c))
      else .ok ([.setting s (String.ofList rest)], none)

/-- Read an argument that begins with a dash. -/
def readOption (argument : String) : Except UsageError Reading :=
  let cs := argument.toList
  let name := String.ofList (cs.takeWhile (· != '='))
  let value? := match cs.dropWhile (· != '=') with
    | _ :: value => some (String.ofList value)
    | [] => none
  match optionNamed? name, value? with
  | some (.inl s), some value => .ok ([.setting s value], none)
  | some (.inl s), none => .ok ([], some (s, name))
  | some (.inr _), some _ => .error (.unexpectedValue name)
  | some (.inr s), none => .ok ([.switch s], none)
  | none, _ =>
    match cs with
    | '-' :: '-' :: _ => .error (.unknownOption argument)
    | _ => readLetters argument (cs.drop 1)

/-- Whether an argument is an option. -/
def isOption (argument : String) : Bool :=
  match argument.toList with
  | '-' :: _ :: _ => true
  | _ => false

/-- Read all arguments. -/
def readArguments : List String → Except UsageError (List Item)
  | [] => .ok []
  | argument :: rest =>
    if argument = "--" then .ok (rest.map .text)
    else if isOption argument then
      match readOption argument, rest with
      | .error e, _ => .error e
      | .ok (items, none), rest => return items ++ (← readArguments rest)
      | .ok (_, some (_, name)), [] => .error (.missingValue name)
      | .ok (items, some (s, _)), value :: rest =>
        return items ++ .setting s value :: (← readArguments rest)
    else return .text argument :: (← readArguments rest)

end Chip8.CommandLine
