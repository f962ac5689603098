import Chip8.CommandLine.Failure
import Chip8.CommandLine.Request
import Chip8.Emulator.Inspect
import Chip8.Emulator.Paced
import Chip8.Emulator.Run
import Chip8.Framebuffer.Imaging

/-!
# The runner

The runner loads a program image, runs it without a window, prints the final display and may write
it to a file. Its surroundings offer a view of the files, a clock, a seed and a terminal, which may
show a text in its own way; what it prints and writes is a `Report`.
-/

namespace Chip8.CommandLine

/-- What the runner takes from its surroundings. -/
structure Surroundings (m : Type → Type) where
  /-- What the text of a path leads to. -/
  files : String → Entry
  clock : Clock m
  /-- The most decisions a paced run may take. -/
  decisions : Nat
  /-- The seed of the random source when none is asked for. -/
  seed : Int
  /-- What the terminal shows of a line. -/
  echo : String → String := Text.plain

/-- What the runner prints and writes. -/
structure Report where
  status : ExitStatus
  output : List String
  errors : List String
  picture : Option (Path × Image)

/-- How a command line was answered. -/
inductive Answer where
  | unusable (e : UsageError)
  | finished (r : Report)
  /-- A paced run did not come to an end within its decisions. -/
  | unfinished

/-- The status that unusable arguments lead to. -/
def UsageError.status : UsageError → ExitStatus
  | .badPath _ => .programFault
  | _ => .badArgument

/-- The report of unusable arguments. -/
def UsageError.report (e : UsageError) : Report := ⟨e.status, [], e.lines, none⟩

/-- A report of lines alone. -/
def Report.information (output : List String) : Report := ⟨.success, output, [], none⟩

/-- The line that shows the version. -/
def versionLine : String := "chip8run, version 1.0.0"

/-- The lines of the help text. -/
def helpLines : List String :=
  ["Usage: chip8run [OPTIONS] ROM_FILE",
    "",
    "  Run a CHIP-8 program headless.",
    "",
    "Options:",
    "  -n, --cycles INTEGER    Number of cycles to execute",
    "  --realtime FLOAT        Run paced at --cps for this many seconds instead",
    "  --cps INTEGER           Cycles per second for --realtime",
    "  -k, --key TEXT          Host key held down for the whole run",
    "  --keymap [hex|cosmac]   Host key map",
    "  --seed INTEGER          Seed for the random number instruction",
    "  --png FILE              Write the final display to a PNG file",
    "  --scale INTEGER         Pixel scale factor for --png",
    "  --no-display            Do not print the final display",
    "  --trace                 Log every executed instruction",
    "  -v, --verbose           Verbose output",
    "  --version               Show the version and exit.",
    "  --help                  Show this message and exit."]

/-- The lines of the final display: the picture in a frame. -/
def displayLines (f : Framebuffer) : List String :=
  let border := "+" ++ String.ofList (List.replicate f.size.cols '-') ++ "+"
  border :: (f.textRows "#" " ").map (fun row => "|" ++ row ++ "|") ++ [border]

/-- The lines of a verbose run about its end. -/
def summaryLines (e : Emulator) (executed : Nat) : List String :=
  let m := e.machine
  [s!"Cycles executed: {executed}", s!"Redraws: {e.frames}", m.registersText,
    "PC=$" ++ Text.hexBits 3 m.pc ++ " I=$" ++ Text.hexBits 3 m.index
      ++ s!" SP={m.stack.length}"]

namespace Options

/-- The journal as far as the options show it. -/
def journalLines (o : Options) (e : Emulator) : List String :=
  if o.verbose || o.trace then e.journal.toList.map Event.line else []

/-- The report of a run that failed with the given lines printed. -/
def failed (o : Options) (echo : String → String) (e : Emulator) (output notes : List String)
    (f : Failure) : Report where
  status := f.status
  output := output.map echo
  errors := o.journalLines e ++ notes.map echo ++ f.linesOn echo o.verbose "Emulation"
  picture := none

/-- The file that the final display goes to, or why it cannot be written. A file that does not exist
is made if its directory exists. -/
def pictureFile (files : String → Entry) (p : Path) : Except Failure Path :=
  match files p.text with
  | .file _ => .ok p
  | .directory => .error (.ofTrouble .isDirectory p)
  | .notDirectory => .error (.ofTrouble .notDirectory p)
  | .nameTooLong => .error (.ofTrouble .nameTooLong p)
  | .missing =>
    match files p.parent.text with
    | .directory => .ok p
    | .missing => .error (.ofTrouble .missing p)
    | .nameTooLong => .error (.ofTrouble .nameTooLong p)
    | .notDirectory | .file _ => .error (.ofTrouble .notDirectory p)

/-- The final display and the file that it goes to. -/
def picture (o : Options) (files : String → Entry) (e : Emulator) (text : String) :
    Except Failure (Path × Image) :=
  match e.machine.framebuffer.image o.scale with
  | .error refused => .error (.internal refused.message)
  | .ok image => (pictureFile files (.ofText text)).map fun p => (p, image)

/-- The report of a run that came to its end. -/
def completed (o : Options) (files : String → Entry) (echo : String → String) (e : Emulator)
    (executed : Nat) : Report :=
  let notes := if o.verbose then summaryLines e executed else []
  let output := if o.noDisplay then [] else displayLines e.machine.framebuffer
  match o.png with
  | none => ⟨.success, output.map echo, o.journalLines e ++ notes.map echo, none⟩
  | some text =>
    match o.picture files e text with
    | .error failure => o.failed echo e output notes failure
    | .ok (p, image) =>
      let written := if o.verbose then ["Display written to: " ++ p.text] else []
      ⟨.success, output.map echo, o.journalLines e ++ (notes ++ written).map echo,
        some (p, image)⟩

/-- The emulator for a run, before anything is loaded. -/
def emulator (o : Options) (seed : Int) : Except ArgumentError Emulator := do
  let config ← o.settings.check
  Emulator.create config (.ofSeed (o.seed.getD seed))

/-- Hold the key that is asked for, if there is one. -/
def holdKey (o : Options) (e : Emulator) : Except Failure Emulator :=
  match o.key with
  | none => .ok e
  | some key =>
    match o.keyMap.codeOf? key with
    | none => .error (.badParameter s!"key '{key}' is not in the {o.keyMap.name} key map")
    | some _ => .ok (e.press key)

/-- Run an emulator for as long as the options say. -/
def drive [Monad m] (o : Options) (s : Surroundings m) (e : Emulator) :
    m (Except ArgumentError (Option (Outcome Nat))) :=
  match o.realtime with
  | none => pure (.ok (some (e.run o.cycles)))
  | some seconds => e.runPaced s.clock seconds s.decisions

/-- Run a program image with an emulator. -/
def runImage [Monad m] (o : Options) (s : Surroundings m) (e : Emulator) (rom : Path)
    (image : Entry) : m Answer :=
  match e.loadFile rom image with
  | .error fault => pure (.finished (o.failed s.echo e [] [] (.fault fault)))
  | .ok loaded =>
    match o.holdKey loaded with
    | .error failure => pure (.finished (o.failed s.echo loaded [] [] failure))
    | .ok held => do
      match ← o.drive s held with
      | .error refused =>
        pure (.finished (o.failed s.echo held [] [] (.internal refused.message)))
      | .ok none => pure .unfinished
      | .ok (some driven) =>
        match driven.result with
        | .error fault => pure (.finished (o.failed s.echo driven.emulator [] [] (.fault fault)))
        | .ok executed =>
          pure (.finished (o.completed s.files s.echo driven.emulator executed))

/-- The picture must not be meant to replace a directory. -/
def checkPicture (o : Options) (files : String → Entry) : Except UsageError Unit :=
  match o.png.map files, o.png with
  | some .directory, some text => .error (.isDirectory text)
  | _, _ => .ok ()

/-- The image to run: the program has to be an existing file. -/
def findImage (o : Options) (files : String → Entry) : Except UsageError Entry :=
  match Path.read o.rom, files o.rom with
  | .error reason, _ => .error (.badPath reason)
  | .ok _, .file content => .ok (.file content)
  | .ok _, .directory => .error (.isDirectory o.rom)
  | .ok _, _ => .error (.noSuchFile o.rom)

/-- Only one program is run. -/
def checkExtra (o : Options) : Except UsageError Unit :=
  match o.extra with
  | some text => .error (.extraArgument text)
  | none => .ok ()

/-- The image that the options name, if they name what is there and nothing else. -/
def imageNamed (o : Options) (files : String → Entry) : Except UsageError Entry := do
  o.checkPicture files
  let image ← o.findImage files
  o.checkExtra
  return image

/-- Run the program that the options name. -/
def run [Monad m] (o : Options) (s : Surroundings m) : m Answer :=
  match o.imageNamed s.files with
  | .error e => pure (.unusable e)
  | .ok image =>
    match o.emulator s.seed with
    | .error refused =>
      let failure := Failure.internal refused.message
      pure (.finished ⟨failure.status, [], failure.linesOn s.echo o.verbose "Emulation", none⟩)
    | .ok e => o.runImage s e (.ofText o.rom) image

/-- The texts of all paths that a run may ask about. -/
def pathTexts (o : Options) : List String :=
  match o.png with
  | none => [o.rom]
  | some text => [o.rom, text, (Path.ofText text).text, (Path.ofText text).parent.text]

end Options

/-- Answer a command line. -/
def run [Monad m] (s : Surroundings m) (arguments : List String) : m Answer :=
  match Request.ofArguments arguments with
  | .error e => pure (.unusable e)
  | .ok .version => pure (.finished (.information [versionLine]))
  | .ok .help => pure (.finished (.information helpLines))
  | .ok (.run o) => o.run s

end Chip8.CommandLine
