import Chip8.Proofs.CommandLine.Headless
import Chip8.Proofs.Text.Integer
import Mathlib.Data.List.Induction
import Mathlib.Data.List.Nodup

/-!
# Command lines that say options

Options are said by their long names, and the program after a double dash. If no setting is said
twice, the order of their first mention is the order in which they are said, so the options of a
headless run are read as they were said.
-/

namespace Chip8.CommandLine

/-! ## Items -/

/-- The long name of a setting. -/
def Setting.longName : Setting → String
  | cycles => "--cycles"
  | realtime => "--realtime"
  | cps => "--cps"
  | key => "--key"
  | keyMap => "--keymap"
  | seed => "--seed"
  | png => "--png"
  | scale => "--scale"

/-- The long name of a switch. -/
def Switch.longName : Switch → String
  | noDisplay => "--no-display"
  | trace => "--trace"
  | verbose => "--verbose"
  | version => "--version"
  | help => "--help"

/-- The arguments that say an item. -/
def Item.arguments : Item → List String
  | setting s value => [s.longName, value]
  | switch s => [s.longName]
  | text t => [t]

theorem readArguments_setting (s : Setting) (value : String) (rest : List String) :
    readArguments (s.longName :: value :: rest) =
      (readArguments rest).map (.setting s value :: ·) := by
  have no_dashes : s.longName ≠ "--" := by cases s <;> decide
  have option : isOption s.longName = true := by cases s <;> rfl
  have read : readOption s.longName = .ok ([], some (s, s.longName)) := by cases s <;> rfl
  rw [readArguments.eq_def]
  simp only [if_neg no_dashes, if_pos option, read]
  cases readArguments rest <;> rfl

theorem readArguments_switch (s : Switch) (rest : List String) :
    readArguments (s.longName :: rest) = (readArguments rest).map (.switch s :: ·) := by
  have no_dashes : s.longName ≠ "--" := by cases s <;> decide
  have option : isOption s.longName = true := by cases s <;> rfl
  have read : readOption s.longName = .ok ([.switch s], none) := by cases s <;> rfl
  rw [readArguments.eq_def]
  simp only [if_neg no_dashes, if_pos option, read]
  cases readArguments rest <;> rfl

/-- Options and texts are read as they were said, if the texts stand after a double dash. -/
theorem readArguments_written (texts : List String) {items : List Item}
    (options : ∀ t, .text t ∉ items) :
    readArguments (items.flatMap Item.arguments ++ "--" :: texts) =
      .ok (items ++ texts.map .text) := by
  induction items with
  | nil => rfl
  | cons item items ih =>
    have rest := ih fun t mem => options t (List.mem_cons_of_mem item mem)
    cases item with
    | setting s value =>
      have first := readArguments_setting s value (items.flatMap Item.arguments ++ "--" :: texts)
      rw [rest] at first
      exact first
    | switch s =>
      have first := readArguments_switch s (items.flatMap Item.arguments ++ "--" :: texts)
      rw [rest] at first
      exact first
    | text t => exact absurd List.mem_cons_self (options t)

/-! ## Settings that are said once -/

/-- The setting that an item gives a value. -/
def Item.setting? : Item → Option Setting
  | setting s _ => some s
  | _ => none

/-- The value that an item gives a setting, or else the one found before. -/
def Item.valueOr (s : Setting) (found : Option String) : Item → Option String
  | setting t value => if t = s then some value else found
  | _ => found

theorem lastValue?_concat (items : List Item) (item : Item) (s : Setting) :
    lastValue? (items ++ [item]) s = item.valueOr s (lastValue? items s) := by
  rw [lastValue?, List.foldl_append]
  rfl

/-- The value that a setting is given last counts. -/
theorem lastValue?_append_cons (before : List Item) (s : Setting) (value : String)
    {after : List Item} (last : s ∉ after.filterMap Item.setting?) :
    lastValue? (before ++ .setting s value :: after) s = some value := by
  induction after using List.reverseRecOn with
  | nil => rw [lastValue?_concat, Item.valueOr, if_pos rfl]
  | append_singleton after item ih =>
    rw [List.filterMap_append, List.mem_append, not_or] at last
    rw [← List.cons_append, ← List.append_assoc, lastValue?_concat, ih last.1]
    cases item with
    | setting t v =>
      have other : t ≠ s := by
        rintro rfl
        exact last.2 List.mem_cons_self
      rw [Item.valueOr, if_neg other]
    | switch t => rfl
    | text t => rfl

theorem eraseDups_of_nodup [BEq α] [LawfulBEq α] {xs : List α} (h : xs.Nodup) :
    xs.eraseDups = xs := by
  induction xs with
  | nil => rfl
  | cons x xs ih =>
    obtain ⟨fresh, distinct⟩ := List.nodup_cons.mp h
    have others : xs.filter (fun y => !y == x) = xs := by
      rw [List.filter_eq_self]
      intro y mem
      simp only [Bool.not_eq_true', beq_eq_false_iff_ne]
      rintro rfl
      exact fresh mem
    rw [List.eraseDups_cons, others, ih distinct]

/-- The options after an item, of which a setting alone changes them. -/
def Options.take (o : Options) : Item → Except UsageError Options
  | .setting s value => o.give value s
  | _ => .ok o

/-- The options after the settings that are mentioned are given their last values. -/
def Options.giveEach (o : Options) (items : List Item) (mentions : List Setting) :
    Except UsageError Options :=
  mentions.foldlM
    (fun o s => match lastValue? items s with
      | some value => o.give value s
      | none => .ok o)
    o

theorem giveEach_filterMap (before after : List Item)
    (once : (after.filterMap Item.setting?).Nodup) (o : Options) :
    o.giveEach (before ++ after) (after.filterMap Item.setting?) = after.foldlM Options.take o := by
  induction after generalizing before o with
  | nil => rfl
  | cons item after ih =>
    have moved : before ++ item :: after = (before ++ [item]) ++ after := by simp
    cases item with
    | setting s value =>
      obtain ⟨fresh, distinct⟩ := List.nodup_cons.mp once
      have value_eq := lastValue?_append_cons before s value fresh
      change (match lastValue? (before ++ .setting s value :: after) s with
        | some value => o.give value s
        | none => .ok o) >>= (fun o => o.giveEach (before ++ .setting s value :: after)
          (after.filterMap Item.setting?)) = _
      rw [value_eq, List.foldlM_cons, moved]
      exact congrArg (o.give value s >>= ·) (funext fun o => ih _ distinct o)
    | switch s =>
      rw [moved]
      exact ih _ once o
    | text t =>
      rw [moved]
      exact ih _ once o

/-- If no setting is said twice, the settings are given in the order in which they are said. -/
theorem ofItems_of_nodup {items : List Item} (once : (items.filterMap Item.setting?).Nodup)
    {rom : String} {texts : List String} (free : freeTexts items = rom :: texts) :
    Options.ofItems items = items.foldlM Options.take (.plain rom texts.head? items) := by
  have given := giveEach_filterMap [] items once (.plain rom texts.head? items)
  have opened : Options.ofItems items = (do
      let given ← (Options.plain ((freeTexts items).headD "") (freeTexts items).tail.head?
        items).giveEach items (items.filterMap Item.setting?).eraseDups
      if freeTexts items = [] then .error .missingRom else .ok given) := rfl
  rw [opened, free, eraseDups_of_nodup once]
  change (do
    let given ← (Options.plain rom texts.head? items).giveEach ([] ++ items) _
    .ok given) = _
  rw [given]
  cases items.foldlM Options.take (.plain rom texts.head? items) <;> rfl

/-! ## Options of a headless run -/

namespace Options

/-- No number of the options has more digits than are read. -/
structure Sayable (o : Options) : Prop where
  cycles_short : (Nat.toDigits 10 o.cycles).length ≤ 4300
  cyclesPerSecond_short : (Nat.toDigits 10 o.cyclesPerSecond.natAbs).length ≤ 4300
  scale_short : (Nat.toDigits 10 o.scale.natAbs).length ≤ 4300
  seed_short : ∀ n ∈ o.seed, (Nat.toDigits 10 n.natAbs).length ≤ 4300

/-- The options of a headless run as items. -/
def items (o : Options) : List Item :=
  [.setting .cycles o.cycles.repr, .setting .cps o.cyclesPerSecond.repr,
      .setting .keyMap o.keyMap.name, .setting .scale o.scale.repr]
    ++ (o.key.map (Item.setting .key)).toList
    ++ (o.seed.map fun n => Item.setting .seed n.repr).toList
    ++ if o.noDisplay then [.switch .noDisplay] else []

/-- The options of a headless run as arguments. -/
def arguments (o : Options) : List String := o.items.flatMap Item.arguments ++ ["--", o.rom]

theorem readIntFrom?_repr {least n : Int} (le : least ≤ n)
    (short : (Nat.toDigits 10 n.natAbs).length ≤ 4300) : readIntFrom? least n.repr = some n := by
  rw [readIntFrom?, Text.readInt?_repr short, Option.filter_some, if_pos (decide_eq_true le)]

variable {o : Options}

/-- Every setting of a headless run is given the value that the options have. -/
theorem give_items (headless : o.Headless) (sayable : o.Sayable) (given : Options) :
    given.give o.cycles.repr .cycles = .ok { given with cycles := o.cycles } ∧
      given.give o.cyclesPerSecond.repr .cps =
        .ok { given with cyclesPerSecond := o.cyclesPerSecond } ∧
      given.give o.keyMap.name .keyMap = .ok { given with keyMap := o.keyMap } ∧
      given.give o.scale.repr .scale = .ok { given with scale := o.scale } ∧
      ∀ n ∈ o.seed, given.give n.repr .seed = .ok { given with seed := some n } := by
  refine ⟨?_, ?_, ?_, ?_, ?_⟩
  · have natural : (o.cycles : Int).repr = o.cycles.repr := rfl
    have short := sayable.cycles_short
    rw [← Int.natAbs_natCast o.cycles] at short
    have read := readIntFrom?_repr (Int.natCast_nonneg o.cycles) short
    rw [natural] at read
    rw [give, readValue, read]
    rfl
  · have read : readIntFrom? 1 o.cyclesPerSecond.repr = some o.cyclesPerSecond :=
      readIntFrom?_repr headless.cyclesPerSecond_pos sayable.cyclesPerSecond_short
    rw [give, readValue, read]
    rfl
  · have read : readKeyMap? o.keyMap.name = some o.keyMap := by cases o.keyMap <;> rfl
    rw [give, readValue, read]
    rfl
  · have read : readIntFrom? 1 o.scale.repr = some o.scale :=
      readIntFrom?_repr headless.scale_pos sayable.scale_short
    rw [give, readValue, read]
    rfl
  · intro n mem
    rw [give, readValue, Text.readInt?_repr (sayable.seed_short n mem)]
    rfl

/-- The items of a headless run turn the options of a run without settings into its own. -/
theorem foldlM_items (headless : o.Headless) (sayable : o.Sayable) :
    (o.items ++ [Item.text o.rom]).foldlM take (plain o.rom none (o.items ++ [.text o.rom])) =
      .ok o := by
  have gives := give_items headless sayable
  obtain ⟨-, -, realtime_eq, png_eq, extra_eq, trace_eq, verbose_eq⟩ := headless
  obtain ⟨rom, extra, cycles, realtime, cyclesPerSecond, key, keyMap, seed, png, scale, noDisplay,
    trace, verbose⟩ := o
  dsimp only at *
  subst realtime_eq png_eq extra_eq trace_eq verbose_eq
  simp only [forall_and] at gives
  obtain ⟨cycles_given, cps_given, keyMap_given, scale_given, seed_given⟩ := gives
  have key_given (given : Options) (k : String) :
      given.give k .key = .ok { given with key := some k } := rfl
  cases key <;> cases seed <;> cases noDisplay <;>
    simp [items, take, cycles_given, cps_given, keyMap_given, scale_given, seed_given, key_given,
      plain, bind, Except.bind, pure, Except.pure]

/-- Whether key, seed and display are said or not, the items say no setting twice and hold neither a
free text nor a request for information. -/
theorem items_plain (o : Options) :
    ((o.items ++ [Item.text o.rom]).filterMap Item.setting?).Nodup ∧
      freeTexts (o.items ++ [.text o.rom]) = [o.rom] ∧
      information? (o.items ++ [.text o.rom]) = none ∧
      ∀ t, .text t ∉ o.items := by
  obtain ⟨rom, extra, cycles, realtime, cyclesPerSecond, key, keyMap, seed, png, scale, noDisplay,
    trace, verbose⟩ := o
  cases key <;> cases seed <;> cases noDisplay <;>
    exact ⟨by simp [items, Item.setting?, List.filterMap_cons], rfl, rfl, by simp [items]⟩

/-- The options of a headless run are read as they were said. -/
theorem ofArguments_arguments (headless : o.Headless) (sayable : o.Sayable) :
    Request.ofArguments o.arguments = .ok (.run o) := by
  obtain ⟨once, free, uninformed, options⟩ := o.items_plain
  have read : readArguments o.arguments = .ok (o.items ++ [.text o.rom]) :=
    readArguments_written [o.rom] options
  have given : ofItems (o.items ++ [.text o.rom]) = .ok o :=
    (ofItems_of_nodup once free).trans (foldlM_items headless sayable)
  rw [Request.ofArguments, read]
  simp only [bind, Except.bind, uninformed, given]
  rfl

end Options

/-- The command line that says the options of a headless run is answered by that run. -/
theorem run_arguments {m : Type → Type} [Monad m] (s : Surroundings m) {o : Options}
    (headless : o.Headless) (sayable : o.Sayable) : run s o.arguments = o.run s := by
  rw [run, Options.ofArguments_arguments headless sayable]

end Chip8.CommandLine
