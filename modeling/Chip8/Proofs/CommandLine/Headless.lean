import Chip8.CommandLine.Run
import Chip8.Proofs.CommandLine.Failure
import Chip8.Proofs.Config.Environment
import Chip8.Proofs.Emulator.Created
import Chip8.Proofs.Emulator.Paced
import Chip8.Proofs.Framebuffer.Rows
import Chip8.Proofs.Memory.ByteMap

/-!
# Headless runs

A headless run is paced by nothing, writes no file and prints nothing but the final display. What it
reports is told by the session that the same image, key and number of cycles make with an emulator
of the same configuration: it finds no fault of its own but a host key without a key on the keypad,
and nothing that happens in a session is an internal error.
-/

namespace Chip8.CommandLine

/-- A run that is not paced, reports nothing but its end and writes no file. -/
structure Options.Headless (o : Options) : Prop where
  cyclesPerSecond_pos : 0 < o.cyclesPerSecond
  scale_pos : 0 < o.scale
  realtime_eq : o.realtime = none
  png_eq : o.png = none
  extra_eq : o.extra = none
  trace_eq : o.trace = false
  verbose_eq : o.verbose = false

/-- The terminal shows what holds no escape characters as it is. -/
def Surroundings.ShowsPlainTexts (s : Surroundings m) : Prop :=
  ∀ text, Text.EscapeFree text → s.echo text = text

/-- So does a terminal that leaves control sequences out. -/
theorem Surroundings.showsPlainTexts_of_plain {s : Surroundings m} (h : s.echo = Text.plain) :
    s.ShowsPlainTexts := by
  intro text free
  rw [h]
  exact Text.plain_eq_self free

/-! ## What is reported of a session -/

/-- The picture of the usual size in a frame, with a hash for every lit pixel. -/
def framed (f : Framebuffer) : List String :=
  let border := "+" ++ String.ofList (List.replicate 64 '-') ++ "+"
  let line (r : Nat) :=
    "|" ++ String.ofList ((List.range 64).map fun c => if f.lit r c then '#' else ' ') ++ "|"
  [border] ++ (List.range 32).map line ++ [border]

namespace Report

/-- The report of a run that a fault ended. -/
def faulted (f : Fault) : Report :=
  ⟨.programFault, [], ["Emulation error: " ++ f.message], none⟩

/-- The report of a run with a host key that produces no key, on a terminal. -/
def unknownKey (echo : String → String) (keyMap : KeyMap) (key : String) : Report :=
  ⟨.badArgument, [],
    [echo ("Error: key '" ++ key ++ "' is not in the " ++ keyMap.name ++ " key map")], none⟩

/-- A terminal that leaves control sequences out shows the key without those that it holds. -/
theorem unknownKey_plain (keyMap : KeyMap) (key : String) :
    unknownKey Text.plain keyMap key = ⟨.badArgument, [],
      ["Error: key '" ++ Text.plain key ++ "' is not in the " ++ keyMap.name ++ " key map"],
      none⟩ := by
  rw [unknownKey, Failure.plain_badKey]

/-- The report of a session without a fault. -/
def ended (f : Framebuffer) (noDisplay : Bool) : Report :=
  ⟨.success, if noDisplay then [] else framed f, [], none⟩

/-- What a session that the options ask for is reported as. An image that does not fit is looked at
before the key, and the key before the instructions. -/
def ofSession (echo : String → String) (o : Options) (start : Emulator) (image : List Byte) :
    Report :=
  let session := start.session image o.key o.cycles
  if 3584 < image.length then .faulted (.imageSize image.length 3584)
  else match o.key.filter fun key => (o.keyMap.codeOf? key).isNone with
    | some key => .unknownKey echo o.keyMap key
    | none =>
      match session.result with
      | .error fault => .faulted fault
      | .ok _ => .ended session.emulator.machine.framebuffer o.noDisplay

end Report

theorem displayLines_eq_framed {f : Framebuffer} (rows : f.size.rows = 32)
    (cols : f.size.cols = 64) : displayLines f = framed f := by
  have texts := f.textRows_characters '#' ' '
  rw [rows, cols] at texts
  have singletons : String.singleton '#' = "#" ∧ String.singleton ' ' = " " := by decide
  rw [singletons.1, singletons.2] at texts
  rw [displayLines, framed, cols, texts, List.map_map]
  rfl

/-- The lines of the framed picture are made of six characters, none of which is an escape. -/
theorem escapeFree_framed (f : Framebuffer) : ∀ line ∈ framed f, Text.EscapeFree line := by
  have border : Text.EscapeFree ("+" ++ String.ofList (List.replicate 64 '-') ++ "+") := by decide
  have row (r : Nat) : Text.EscapeFree
      ("|" ++ String.ofList ((List.range 64).map fun c => if f.lit r c then '#' else ' ') ++
        "|") := by
    have pixels : Text.EscapeFree
        (String.ofList ((List.range 64).map fun c => if f.lit r c then '#' else ' ')) := by
      rw [Text.EscapeFree, String.toList_ofList]
      intro mem
      obtain ⟨c, -, shown⟩ := List.mem_map.mp mem
      split at shown <;> exact absurd shown (by decide)
    have edge : Text.EscapeFree "|" := by decide
    exact (edge.append pixels).append edge
  simp only [framed, List.mem_append, List.mem_singleton, List.mem_map]
  rintro line ((rfl | ⟨r, -, rfl⟩) | rfl)
  · exact border
  · exact row r
  · exact border

/-- A terminal shows the framed picture as it is. -/
theorem map_echo_framed {s : Surroundings m} (shows : s.ShowsPlainTexts) (f : Framebuffer) :
    (framed f).map s.echo = framed f := by
  rw [List.map_congr_left fun line mem => shows line (escapeFree_framed f line mem), List.map_id']

/-! ## The emulator of a run -/

namespace Options

variable {o : Options}

/-- The emulator that a run starts with is accepted. It has the usual layout and dimensions and the
key map that is asked for. -/
theorem exists_emulator (headless : o.Headless) (seed : Int) :
    ∃ config start, o.settings.check = .ok config ∧
      Emulator.create config (.ofSeed (o.seed.getD seed)) = .ok start ∧
      start.layout = .standard ∧ start.config.size = .standard ∧ start.Built ∧
      start.machine.keypad.keyMap = o.keyMap := by
  have display : 0 < o.settings.rows ∧ 0 < o.settings.cols := by
    change (0 : Int) < 32 ∧ (0 : Int) < 64
    decide
  have frames : 0 < o.settings.frameRate := by
    change (0 : Int) < 60
    decide
  have known : KeyMap.ofName? o.settings.keyMapName = some o.keyMap := by
    change KeyMap.ofName? o.keyMap.name = _
    cases o.keyMap <;> rfl
  obtain ⟨config, checked, same⟩ := Settings.exists_config display
    headless.cyclesPerSecond_pos frames (Option.isSome_of_eq_some known)
  have font : config.fontAddress = 0x50 := congrArg Settings.fontAddress same
  have program : config.programStart = 0x200 := congrArg Settings.programStart same
  have rows : config.rows = 32 := congrArg Settings.rows same
  have cols : config.cols = 64 := congrArg Settings.cols same
  have size : config.size = .standard := by
    simp only [Config.size, rows, cols]
    rfl
  have keyMap : config.keyMap = o.keyMap := by
    have name : KeyMap.ofName? config.keyMapName = some o.keyMap := by
      rw [same]
      exact known
    simp only [Config.keyMap, name, Option.get_some]
  have placed : Layout.ofAddresses config.fontAddress config.programStart = .ok .standard := by
    rw [font, program]
    rfl
  have created : ∃ start, Emulator.create config (.ofSeed (o.seed.getD seed)) = .ok start := by
    rw [Emulator.create, Emulator.createWithin, placed, size]
    exact ⟨_, rfl⟩
  obtain ⟨start, created⟩ := created
  have fresh := Emulator.Created.of_createWithin created
  have layout : start.layout = .standard := Except.ok.inj (fresh.placed.symm.trans placed)
  refine ⟨config, start, checked, created, layout, ?_, fresh.built, ?_⟩
  · rw [fresh.config_eq, size]
  · rw [fresh.machine_eq]
    exact keyMap

/-! ## Reports of headless runs -/

section

variable (headless : o.Headless)

include headless

theorem journalLines_headless (e : Emulator) : o.journalLines e = [] := by
  rw [journalLines, headless.verbose_eq, headless.trace_eq]
  rfl

theorem failed_headless (echo : String → String) (e : Emulator) (f : Failure) :
    o.failed echo e [] [] f = ⟨f.status, [], f.linesOn echo false "Emulation", none⟩ := by
  rw [failed, journalLines_headless headless, headless.verbose_eq]
  rfl

theorem completed_headless (files : String → Entry) (echo : String → String) (e : Emulator)
    (executed : Nat) :
    o.completed files echo e executed =
      ⟨.success, (if o.noDisplay then [] else displayLines e.machine.framebuffer).map echo, [],
        none⟩ := by
  simp only [completed, journalLines_headless headless, headless.verbose_eq, headless.png_eq]
  rfl

/-- A headless run takes the image that is found and no second look at its options. -/
theorem imageNamed_headless {files : String → Entry} {image : List Byte}
    (named : '\x00' ∉ o.rom.toList) (found : files o.rom = .file image) :
    o.imageNamed files = .ok (.file image) := by
  have path : Path.read o.rom = .ok (.ofText o.rom) := by
    rw [Path.read, String.contains_char_eq, if_neg (by simpa using named)]
  have no_picture : o.checkPicture files = .ok () := by
    rw [checkPicture, headless.png_eq]
    rfl
  have no_extra : o.checkExtra = .ok () := by
    rw [checkExtra, headless.extra_eq]
  have image_found : o.findImage files = .ok (.file image) := by
    rw [findImage, path, found]
  rw [imageNamed, no_picture, image_found, no_extra]
  rfl

end

/-! ## Runs of an image -/

section

variable {m : Type → Type} [Monad m] (headless : o.Headless) {s : Surroundings m}
  {e loaded : Emulator} (rom : Path) {image : List Byte} {f : Fault}

include headless

theorem runImage_of_error (shows : s.ShowsPlainTexts) (refused : e.load image = .error f)
    (free : Text.EscapeFree f.message) :
    o.runImage s e rom (.file image) = pure (.finished (.faulted f)) := by
  rw [runImage, Emulator.loadFile_of_error refused]
  simp only [failed_headless headless, Failure.linesOn_fault free shows]
  rfl

theorem runImage_of_badKey {key : String} (accepted : e.load image = .ok loaded)
    (given : o.key = some key) (unknown : o.keyMap.codeOf? key = none) :
    o.runImage s e rom (.file image) = pure (.finished (.unknownKey s.echo o.keyMap key)) := by
  rw [runImage, Emulator.loadFile_of_load accepted]
  simp only [holdKey, given, unknown, failed_headless headless, Failure.linesOn_badKey]
  rfl

end

theorem holdKey_of_known (known : ∀ key ∈ o.key, (o.keyMap.codeOf? key).isSome) (e : Emulator) :
    o.holdKey e = .ok (e.holding o.key) := by
  rw [holdKey]
  cases given : o.key with
  | none => rfl
  | some key =>
    obtain ⟨code, found⟩ := Option.isSome_iff_exists.mp (known key given)
    simp only [found]
    rfl

section

variable {m : Type → Type} [Monad m] [LawfulMonad m] (headless : o.Headless) {s : Surroundings m}
  {e loaded : Emulator} (rom : Path) {image : List Byte}
  (accepted : e.load image = .ok loaded) (known : ∀ key ∈ o.key, (o.keyMap.codeOf? key).isSome)

include headless accepted known

/-- A run whose image and key are accepted ends like the session. -/
theorem runImage_of_accepted (shows : s.ShowsPlainTexts) :
    (∀ f, (e.session image o.key o.cycles).result = .error f →
      o.runImage s e rom (.file image) = pure (.finished (.faulted f))) ∧
    ∀ executed, (e.session image o.key o.cycles).result = .ok executed →
      o.runImage s e rom (.file image) = pure (.finished ⟨.success,
        (if o.noDisplay then []
          else displayLines (e.session image o.key o.cycles).emulator.machine.framebuffer).map
            s.echo, [], none⟩) := by
  obtain ⟨noted, noted_eq⟩ : ∃ noted, noted = (loaded.holding o.key).note
    [.fileLoaded rom.name image.length] := ⟨_, rfl⟩
  have session := Emulator.session_of_load accepted o.key o.cycles
  obtain ⟨same_result, same_machine⟩ := (loaded.holding o.key).run_note
    [.fileLoaded rom.name image.length] o.cycles
  rw [← session, ← noted_eq] at same_result same_machine
  constructor
  · intro f ended
    have free : Text.EscapeFree f.message := by
      rw [session] at ended
      exact (Emulator.ofInstruction_of_run ended).escapeFree
    rw [ended] at same_result
    rw [runImage, Emulator.loadFile_of_load accepted]
    simp only [holdKey_of_known known, Emulator.note_holding, ← noted_eq, drive,
      headless.realtime_eq, pure_bind, same_result, failed_headless headless,
      Failure.linesOn_fault free shows]
    rfl
  · intro executed ended
    rw [ended] at same_result
    rw [runImage, Emulator.loadFile_of_load accepted]
    simp only [holdKey_of_known known, Emulator.note_holding, ← noted_eq, drive,
      headless.realtime_eq, pure_bind, same_result, completed_headless headless, same_machine]

end

/-- A run of an image reports its session, if the emulator has the usual layout and dimensions. -/
theorem runImage_eq {m : Type → Type} [Monad m] [LawfulMonad m] (headless : o.Headless)
    {s : Surroundings m} (shows : s.ShowsPlainTexts) {e : Emulator} (built : e.Built)
    (layout : e.layout = .standard) (size : e.config.size = .standard) (rom : Path)
    (image : List Byte) :
    o.runImage s e rom (.file image) = pure (.finished (.ofSession s.echo o e image)) := by
  have capacity : e.machine.memory.layout.capacity = 3584 := by
    rw [built.layout_eq, layout]
    rfl
  have shown : (e.session image o.key o.cycles).emulator.machine.framebuffer.size = .standard := by
    have driven := Emulator.Drives.session e image o.key o.cycles
    rw [(driven.built built).size_eq, driven.config_eq, size]
  rw [Report.ofSession]
  split
  · rename_i large
    have refused := Emulator.load_of_lt (capacity ▸ large)
    rw [capacity] at refused
    exact runImage_of_error headless rom shows refused (Fault.escapeFree_imageSize _ _)
  · rename_i fits
    obtain ⟨loaded, accepted⟩ := Emulator.load_of_le (capacity ▸ Nat.not_lt.mp fits)
    split
    · rename_i key unknown
      obtain ⟨given, no_code⟩ := Option.filter_eq_some_iff.mp unknown
      exact runImage_of_badKey headless rom accepted given (Option.isNone_iff_eq_none.mp no_code)
    · rename_i all_known
      have known : ∀ key ∈ o.key, (o.keyMap.codeOf? key).isSome := by
        intro key given
        have no_none := Option.filter_eq_none_iff.mp all_known key given
        rwa [Option.isNone_iff_eq_none, ← ne_eq, ← Option.isSome_iff_ne_none] at no_none
      obtain ⟨of_fault, of_end⟩ := runImage_of_accepted headless rom accepted known shows
      split
      · rename_i f ended
        exact of_fault f ended
      · rename_i executed ended
        have rows := congrArg Framebuffer.Size.rows shown
        have cols := congrArg Framebuffer.Size.cols shown
        rw [of_end executed ended, displayLines_eq_framed rows cols, Report.ended]
        split
        · rfl
        · rw [map_echo_framed shows]

end Options

/-! ## Headless runs -/

/-- A headless run and the session that it reports. -/
structure ReportsSession {m : Type → Type} [Monad m] (s : Surroundings m) (o : Options)
    (image : List Byte) (config : Config) (start : Emulator) : Prop where
  checked : o.settings.check = .ok config
  created : Emulator.create config (.ofSeed (o.seed.getD s.seed)) = .ok start
  keyMap_eq : start.machine.keypad.keyMap = o.keyMap
  /-- The faults of the session are those of an image that does not fit and of instructions. -/
  fault_cases : ∀ f, (start.session image o.key o.cycles).result = .error f →
    (3584 < image.length ∧ f = .imageSize image.length 3584) ∨
      (image.length ≤ 3584 ∧ f.OfInstruction)
  status_ne : (Report.ofSession s.echo o start image).status ≠ .internalError
  run_eq : o.run s = pure (.finished (.ofSession s.echo o start image))

/-- A headless run reports the session that a host would have with an emulator of the same
configuration. The session knows no other faults than those of an image that does not fit and of
instructions, and no run ends with an internal error. The terminal may show control sequences in any
way, as it shows all other texts as they are. -/
theorem run_headless {m : Type → Type} [Monad m] [LawfulMonad m] {s : Surroundings m}
    (shows : s.ShowsPlainTexts) {o : Options} {image : List Byte} (headless : o.Headless)
    (named : '\x00' ∉ o.rom.toList) (found : s.files o.rom = .file image) :
    ∃ config start, ReportsSession s o image config start := by
  obtain ⟨config, start, checked, created, layout, size, built, keyMap⟩ :=
    Options.exists_emulator headless s.seed
  have capacity : start.machine.memory.layout.capacity = 3584 := by
    rw [built.layout_eq, layout]
    rfl
  refine ⟨config, start, checked, created, keyMap, ?_, ?_, ?_⟩
  · intro f ended
    have fault := Emulator.fault_of_session ended
    rwa [capacity] at fault
  · rw [Report.ofSession]
    split
    · exact ExitStatus.noConfusion
    · split
      · exact ExitStatus.noConfusion
      · split <;> exact ExitStatus.noConfusion
  · have emulator : o.emulator s.seed = .ok start := by
      rw [Options.emulator, checked]
      exact created
    rw [Options.run, Options.imageNamed_headless headless named found]
    simp only [emulator]
    exact Options.runImage_eq headless shows built layout size _ image

/-- Surroundings in which every path leads to one image and no time passes. -/
def still (image : List Byte) : Surroundings Id where
  files := fun _ => .file image
  clock := ⟨(0.0 : Float), fun _ => ()⟩
  decisions := 0
  seed := 0

/-- A program that draws the glyph of the digit 0 and then stays where it is. -/
def zeroImage : List Byte := [0xA0, 0x50, 0xD0, 0x05, 0x12, 0x04]

/-- A run of three cycles with a seed and maybe a key. -/
def zeroRun (key : Option String) : Options where
  rom := "zero.ch8"
  extra := none
  cycles := 3
  realtime := none
  cyclesPerSecond := 700
  key := key
  keyMap := .hex
  seed := some (-7)
  png := none
  scale := 10
  noDisplay := false
  trace := false
  verbose := false

theorem zeroRun_headless (key : Option String) : (zeroRun key).Headless where
  cyclesPerSecond_pos := Int.natCast_pos.mpr (Nat.succ_pos 699)
  scale_pos := Int.natCast_pos.mpr (Nat.succ_pos 9)
  realtime_eq := rfl
  png_eq := rfl
  extra_eq := rfl
  trace_eq := rfl
  verbose_eq := rfl

/-- The configuration of the run. -/
def zeroConfig : Config := { Emulator.clearing.config with seed := some (-7) }

/-- The emulator of the run when its image is loaded, with a memory that is filled byte by byte. -/
def zeroLoaded : Emulator where
  config := zeroConfig
  layout := .standard
  machine := .powerOn
    (((Memory.zeros Layout.standard_fontAt).writeBlock 0x50 Font.rows).writeBlock 0x200 zeroImage)
    (.dark .standard) (.released .hex)
  origin := .ofSeed (-7)
  source := .ofSeed (-7)
  image := zeroImage
  hook := .none
  cycles := 0
  frames := 0
  stopRequested := false
  redraws := #[]
  journal := #[.imageLoaded 6 0x200]

theorem load_zeroImage {start : Emulator}
    (created : Emulator.create zeroConfig (.ofSeed (-7)) = .ok start) :
    start.load zeroImage = .ok zeroLoaded := by
  have memory : (Memory.blank .standard).load zeroImage = .ok zeroLoaded.machine.memory := by
    rw [Memory.load_eq_writeBytes (.blank .standard) (by decide),
      Memory.blank_eq_writeBlock Layout.standard_fontAt]
    rfl
  have start_eq : Emulator.create zeroConfig (.ofSeed (-7)) = .ok { zeroLoaded with
      machine := .powerOn (.blank .standard) (.dark .standard) (.released .hex)
      image := []
      journal := #[] } := rfl
  obtain rfl := Except.ok.inj (start_eq.symm.trans created)
  rw [Emulator.load, Emulator.store_eq memory]
  rfl

/-- The pixels of the glyph that is drawn. -/
def zeroPixels : List (List Bool) :=
  [[true, true, true, true], [true, false, false, true], [true, false, false, true],
    [true, false, false, true], [true, true, true, true]]

/-- A run that draws a zero prints a picture with its pixels in the corner. If it is to hold the key
`z`, it tells that there is no such key. -/
theorem run_headless_zero :
    (∃ f : Framebuffer,
      ((List.range 5).map fun r => (List.range 4).map (f.lit r)) = zeroPixels ∧
      (zeroRun none).run (still zeroImage) = .finished ⟨.success, framed f, [], none⟩) ∧
    (zeroRun (some "z")).run (still zeroImage) =
      .finished ⟨.badArgument, [], ["Error: key 'z' is not in the hex key map"], none⟩ := by
  have shows : (still zeroImage).ShowsPlainTexts := Surroundings.showsPlainTexts_of_plain rfl
  have named : '\x00' ∉ "zero.ch8".toList := by decide
  have found : (still zeroImage).files "zero.ch8" = .file zeroImage := rfl
  constructor
  · obtain ⟨config, start, reports⟩ := run_headless shows (zeroRun_headless none) named found
    have checked : (zeroRun none).settings.check = .ok zeroConfig := rfl
    obtain rfl := Except.ok.inj (checked.symm.trans reports.checked)
    have ended : (zeroLoaded.run 3).result.toOption = some 3 := by decide +kernel
    have drawn : ((List.range 5).map fun r => (List.range 4).map
        ((zeroLoaded.run 3).emulator.machine.framebuffer.lit r)) = zeroPixels := by decide +kernel
    have session : start.session zeroImage none 3 = zeroLoaded.run 3 :=
      Emulator.session_of_load (load_zeroImage reports.created) none 3
    have report : Report.ofSession (still zeroImage).echo (zeroRun none) start zeroImage =
        match (start.session zeroImage none 3).result with
        | .error fault => .faulted fault
        | .ok _ => .ended (start.session zeroImage none 3).emulator.machine.framebuffer false := rfl
    generalize zeroLoaded.run 3 = outcome at ended drawn session
    refine ⟨outcome.emulator.machine.framebuffer, drawn, ?_⟩
    rw [reports.run_eq, report, session]
    cases result : outcome.result with
    | error f =>
      rw [result] at ended
      contradiction
    | ok executed => rfl
  · obtain ⟨config, start, reports⟩ := run_headless shows (zeroRun_headless (some "z")) named found
    exact reports.run_eq

end Chip8.CommandLine
