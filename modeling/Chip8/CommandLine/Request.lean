import Chip8.CommandLine.Arguments
import Chip8.CommandLine.Options
import Chip8.Path
import Chip8.Text.Real

/-!
# Requests

`Request.ofArguments` turns arguments into a request: to show the version or a help text, which goes
before all else, or to run a program with options. Of a setting that is given more than once the
last value counts.
-/

namespace Chip8.CommandLine

/-- What the arguments ask for. -/
inductive Request where
  | version
  | help
  | run (o : Options)

/-- The last value of a setting. -/
def lastValue? (items : List Item) (s : Setting) : Option String :=
  items.foldl
    (fun found item => match item with
      | .setting t value => if t = s then some value else found
      | _ => found)
    none

/-- The settings in the order of their first mention. -/
def mentioned (items : List Item) : List Setting :=
  (items.filterMap fun item => match item with
    | .setting s _ => some s
    | _ => none).eraseDups

/-- A setting's value read in its own way; what cannot be read is refused. -/
def readValue (s : Setting) (value : String) (read? : String → Option α) : Except UsageError α :=
  match read? value with
  | some a => .ok a
  | none => .error (.badValue s value)

/-- Read an integer that is not below a bound. -/
def readIntFrom? (least : Int) (text : String) : Option Int :=
  (Text.readInt? text).filter (least ≤ ·)

/-- Read a duration; a negative one is refused. -/
def readDuration? (text : String) : Option Float :=
  (Text.readFloat? text).filter fun seconds => !(seconds < 0.0)

/-- Read the name of a key map, in any case. The long s is a lower-case s here. -/
def readKeyMap? (text : String) : Option KeyMap :=
  KeyMap.ofName? (String.ofList (text.toList.map fun c => if c = 'ſ' then 's' else c))

/-- The first request for information, which is answered before anything else is looked at. -/
def information? (items : List Item) : Option Request :=
  items.findSome? fun item => match item with
    | .switch .version => some .version
    | .switch .help => some .help
    | _ => none

/-- The texts that are not part of an option. -/
def freeTexts (items : List Item) : List String :=
  items.filterMap fun item => match item with
    | .text t => some t
    | _ => none

namespace Options

/-- The options of a run without any settings. -/
def plain (rom : String) (extra : Option String) (items : List Item) : Options where
  rom := rom
  extra := extra
  cycles := 1000
  realtime := none
  cyclesPerSecond := 700
  key := none
  keyMap := .hex
  seed := none
  png := none
  scale := 10
  noDisplay := items.contains (.switch .noDisplay)
  trace := items.contains (.switch .trace)
  verbose := items.contains (.switch .verbose)

/-- The options after a setting is given a value. -/
def give (o : Options) (value : String) : Setting → Except UsageError Options
  | .cycles => return { o with cycles := (← readValue .cycles value (readIntFrom? 0)).toNat }
  | .realtime => return { o with realtime := some (← readValue .realtime value readDuration?) }
  | .cps => return { o with cyclesPerSecond := ← readValue .cps value (readIntFrom? 1) }
  | .key => return { o with key := some value }
  | .keyMap => return { o with keyMap := ← readValue .keyMap value readKeyMap? }
  | .seed => return { o with seed := some (← readValue .seed value Text.readInt?) }
  | .png =>
    match Path.read value with
    | .error reason => .error (.badPath reason)
    | .ok _ => return { o with png := some value }
  | .scale => return { o with scale := ← readValue .scale value (readIntFrom? 1) }

/-- The options that the items of the arguments give. Settings are judged in the order of their
first mention, and the program comes after them. -/
def ofItems (items : List Item) : Except UsageError Options := do
  let texts := freeTexts items
  let start := plain (texts.headD "") texts.tail.head? items
  let given ← (mentioned items).foldlM
    (fun o s => match lastValue? items s with
      | some value => o.give value s
      | none => .ok o)
    start
  if texts = [] then .error .missingRom else .ok given

end Options

/-- What arguments ask for. -/
def Request.ofArguments (arguments : List String) : Except UsageError Request := do
  let items ← readArguments arguments
  match information? items with
  | some request => return request
  | none => return .run (← Options.ofItems items)

end Chip8.CommandLine
