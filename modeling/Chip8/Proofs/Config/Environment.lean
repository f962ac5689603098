import Chip8.Config.Environment
import Chip8.Proofs.Keypad.Names
import Chip8.Proofs.Text.Integer
import Mathlib.Logic.Function.Basic

/-!
# Configurations from the environment

Whatever texts the environment variables hold, they describe a configuration. A variable whose text
denotes what its field may be gives that field, and every other variable leaves its field as usual.
No variable matters to the field of another one.
-/

namespace Chip8

namespace Settings

/-! ## Accepted settings -/

/-- Settings that meet all conditions are accepted as they are. -/
theorem exists_config {s : Settings} (display : 0 < s.rows ∧ 0 < s.cols)
    (cycles : 0 < s.cyclesPerSecond) (frames : 0 < s.frameRate)
    (keys : (KeyMap.ofName? s.keyMapName).isSome) :
    ∃ config, s.check = .ok config ∧ config.toSettings = s := by
  rw [Settings.check, dif_pos display, dif_pos cycles, dif_pos frames, dif_pos keys]
  exact ⟨_, rfl, rfl⟩

/-! ## Variables -/

/-- The variables that are read. -/
inductive Variable where
  | rows
  | cols
  | cyclesPerSecond
  | frameRate
  | seed
  | keyMap

namespace Variable

/-- The name of a variable. -/
def name : Variable → String
  | rows => "CHIP8_ROWS"
  | cols => "CHIP8_COLS"
  | cyclesPerSecond => "CHIP8_CPS"
  | frameRate => "CHIP8_FRAME_RATE"
  | seed => "CHIP8_SEED"
  | keyMap => "CHIP8_KEYMAP"

/-- Settings with the field of a variable taken from other settings. -/
def copy (source s : Settings) : Variable → Settings
  | rows => { s with rows := source.rows }
  | cols => { s with cols := source.cols }
  | cyclesPerSecond => { s with cyclesPerSecond := source.cyclesPerSecond }
  | frameRate => { s with frameRate := source.frameRate }
  | seed => { s with seed := source.seed }
  | keyMap => { s with keyMapName := source.keyMapName }

end Variable

/-! ## Fields read from their variables -/

/-- A variable is set to a text that denotes a number. -/
def Tells (held : Option String) (n : Int) : Prop :=
  ∃ text, held = some text ∧ Text.Denotes text n

/-- A field is the positive number that a variable tells, or the usual one if it tells none. -/
def CountFrom (held : Option String) (usual field : Int) : Prop :=
  (∀ n, 0 < n → Tells held n → field = n) ∧ ((∀ n, 0 < n → ¬ Tells held n) → field = usual)

/-- A name is the lower-case form of the text of a variable if that is the name of a key map, and
the usual one if it is not. -/
def NameFrom (lower : String → String) (held : Option String) (field : String) : Prop :=
  (∀ text, held = some text → lower text = "hex" ∨ lower text = "cosmac" → field = lower text) ∧
    ((∀ text, held = some text → lower text ≠ "hex" ∧ lower text ≠ "cosmac") → field = "hex")

variable (env : Environment) (name : String)

theorem environmentInt?_eq_some_iff {n : Int} :
    environmentInt? env name = some n ↔ Tells (env name) n := by
  simp only [environmentInt?, Option.bind_eq_some_iff, Text.readMarkedInt?_eq_some_iff, Tells]

theorem environmentCount?_eq_some_iff {n : Int} :
    environmentCount? env name = some n ↔ Tells (env name) n ∧ 0 < n := by
  rw [environmentCount?, Option.filter_eq_some_iff, environmentInt?_eq_some_iff,
    decide_eq_true_iff]

theorem countFrom_environmentCount? (usual : Int) :
    CountFrom (env name) usual ((environmentCount? env name).getD usual) := by
  constructor
  · intro n positive told
    rw [(environmentCount?_eq_some_iff env name).mpr ⟨told, positive⟩]
    rfl
  · intro silent
    have none : environmentCount? env name = none := by
      rw [Option.eq_none_iff_forall_ne_some]
      intro n count
      obtain ⟨told, positive⟩ := (environmentCount?_eq_some_iff env name).mp count
      exact silent n positive told
    rw [none]
    rfl

theorem environmentCount?_getD_pos {usual : Int} (h : 0 < usual) :
    0 < (environmentCount? env name).getD usual := by
  cases count : environmentCount? env name with
  | none => exact h
  | some n => exact ((environmentCount?_eq_some_iff env name).mp count).2

theorem ofName?_environmentKeyMap? (usual : KeyMap) :
    (KeyMap.ofName? ((environmentKeyMap? env name).getD usual.name)).isSome = true := by
  have known (m : KeyMap) : (KeyMap.ofName? m.name).isSome = true := by
    cases m <;> rfl
  rw [environmentKeyMap?]
  cases (env name).bind KeyMap.ofName? with
  | none => exact known usual
  | some m => exact known m

theorem nameFrom_environmentKeyMap? {lower : String → String} (forms : KeyMap.LowerForms lower) :
    NameFrom lower (env name) ((environmentKeyMap? env name).getD "hex") := by
  have names (text : String) (m : KeyMap) (h : KeyMap.ofName? text = some m) :
      lower text = "hex" ∨ lower text = "cosmac" := by
    have form := forms.ofName?_eq_some_iff.mp h
    cases m with
    | hex => exact .inl form
    | cosmac => exact .inr form
  constructor
  · intro text set named
    obtain ⟨m, form⟩ : ∃ m : KeyMap, lower text = m.name := by
      rcases named with hex | cosmac
      · exact ⟨.hex, hex⟩
      · exact ⟨.cosmac, cosmac⟩
    rw [environmentKeyMap?, set, Option.bind_some, forms.ofName?_eq_some_iff.mpr form, form]
    rfl
  · intro unnamed
    -- a text that names a key map has one of the two lower-case forms that are excluded
    have none : (env name).bind KeyMap.ofName? = none := by
      rw [Option.eq_none_iff_forall_ne_some]
      intro m found
      obtain ⟨text, set, named⟩ := Option.bind_eq_some_iff.mp found
      obtain ⟨not_hex, not_cosmac⟩ := unnamed text set
      exact (names text m named).elim not_hex not_cosmac
    rw [environmentKeyMap?, none]
    rfl

/-- Whatever the variables hold, the settings that they describe are accepted. -/
theorem exists_config_ofEnvironment :
    ∃ config, Config.ofEnvironment env = .ok config ∧ config.toSettings = ofEnvironment env :=
  exists_config
    ⟨environmentCount?_getD_pos env _ (by decide), environmentCount?_getD_pos env _ (by decide)⟩
    (environmentCount?_getD_pos env _ (by decide)) (environmentCount?_getD_pos env _ (by decide))
    (ofName?_environmentKeyMap? env _ .hex)

/-! ## Changes of a variable -/

/-- A variable that is changed matters to its own field only. -/
theorem copy_ofEnvironment_update (v : Variable) (held : Option String) :
    v.copy (ofEnvironment env) (ofEnvironment (Function.update env v.name held)) =
      ofEnvironment env := by
  cases v <;>
    simp [Variable.copy, Variable.name, ofEnvironment, environmentInt?, environmentCount?,
      environmentKeyMap?, Function.update_of_ne]

/-! ## Configurations -/

/-- Whatever the environment holds, it describes a configuration. Each count is the positive number
that its own variable denotes, or the usual one. The seed is the number of any sign that its
variable denotes, or none. The name of the key map is the lower-case form of its variable if that
names one, or the usual name. The other fields are as usual. A variable that is changed matters to
its own field only, and the usual texts of an integer denote it. -/
theorem ofEnvironment_reads :
    (∃ config : Config,
      Config.ofEnvironment env = .ok config ∧ config.toSettings.check = .ok config ∧
      CountFrom (env "CHIP8_ROWS") 32 config.rows ∧
      CountFrom (env "CHIP8_COLS") 64 config.cols ∧
      CountFrom (env "CHIP8_CPS") 700 config.cyclesPerSecond ∧
      CountFrom (env "CHIP8_FRAME_RATE") 60 config.frameRate ∧
      (∀ n, config.seed = some n ↔ Tells (env "CHIP8_SEED") n) ∧
      (∀ lower, KeyMap.LowerForms lower →
        NameFrom lower (env "CHIP8_KEYMAP") config.keyMapName) ∧
      config.fontAddress = 0x50 ∧ config.programStart = 0x200 ∧ config.trace = false ∧
      ∀ (v : Variable) (held : Option String), ∃ other : Config,
        Config.ofEnvironment (Function.update env v.name held) = .ok other ∧
          v.copy config.toSettings other.toSettings = config.toSettings) ∧
    ∀ (text : String) (n : Int), Text.Spelled text n → Text.Denotes text n := by
  refine ⟨?_, fun text n spelled => spelled.denotes⟩
  obtain ⟨config, accepted, same⟩ := exists_config_ofEnvironment env
  refine ⟨config, accepted, ?_⟩
  rw [same]
  refine ⟨accepted, countFrom_environmentCount? env _ _, countFrom_environmentCount? env _ _,
    countFrom_environmentCount? env _ _, countFrom_environmentCount? env _ _,
    fun n => environmentInt?_eq_some_iff env _, fun lower => nameFrom_environmentKeyMap? env _,
    rfl, rfl, rfl, fun v held => ?_⟩
  obtain ⟨other, accepted, same⟩ := exists_config_ofEnvironment (Function.update env v.name held)
  exact ⟨other, accepted, same ▸ copy_ofEnvironment_update env v held⟩

/-- Lower-case forms that are right for ASCII and the Kelvin sign. -/
def kelvinLower (text : String) : String :=
  String.ofList (text.toList.map fun c => if c = '\u212a' then 'k' else c.toLower)

theorem lowerForms_kelvinLower : KeyMap.LowerForms kelvinLower where
  ascii text ascii := by
    rw [kelvinLower, String.toList_ofList]
    refine List.map_congr_left fun c mem => if_neg ?_
    rintro rfl
    exact absurd (ascii _ mem) (by decide)
  beyond text beyond := by
    obtain ⟨c, mem, large⟩ := beyond
    rw [kelvinLower, String.toList_ofList]
    refine ⟨_, List.mem_map_of_mem mem, ?_⟩
    split
    case isTrue => exact .inl rfl
    case isFalse =>
      rw [Text.toLower_of_le large]
      exact .inr large

/-- An environment in which the number of rows, the seed and the key map make sense and the number
of columns does not. -/
def mixedEnvironment : Environment
  | "CHIP8_ROWS" => some " 0X1f\t"
  | "CHIP8_COLS" => some "017"
  | "CHIP8_SEED" => some "-0b101"
  | "CHIP8_KEYMAP" => some "COSMAC"
  | _ => none

/-- What makes sense is read, and the number with a leading zero is not. -/
theorem ofEnvironment_reads_mixed :
    ∃ config : Config, Config.ofEnvironment mixedEnvironment = .ok config ∧
      config.rows = 31 ∧ config.cols = 64 ∧ config.cyclesPerSecond = 700 ∧
      config.seed = some (-5) ∧ config.keyMapName = "cosmac" := by
  obtain ⟨⟨config, accepted, -, rows, cols, cycles, -, seed, name, -⟩, denotes⟩ :=
    ofEnvironment_reads mixedEnvironment
  have rows_spelling : Text.Spelling 31 ([] ++ '0' :: 'X' :: ['1', 'f']) :=
    .marked (r := .hexadecimal) (by decide) (by decide) (by decide)
  have seed_spelling : Text.Spelling (-5) (['-'] ++ '0' :: 'b' :: ['1', '0', '1']) :=
    .marked (r := .binary) (by decide) (by decide) (by decide)
  have rows_told : Tells (mixedEnvironment "CHIP8_ROWS") 31 :=
    ⟨_, rfl, denotes _ _ ⟨[' '], _, ['\t'], rfl, List.all_eq_true.mp (by decide),
      List.all_eq_true.mp (by decide), rows_spelling⟩⟩
  have seed_told : Tells (mixedEnvironment "CHIP8_SEED") (-5) :=
    ⟨_, rfl, denotes _ _ ⟨[], _, [], rfl, List.forall_mem_nil _, List.forall_mem_nil _,
      seed_spelling⟩⟩
  have cols_untold (n : Int) : ¬ Tells (mixedEnvironment "CHIP8_COLS") n := by
    rintro ⟨text, set, told⟩
    cases set
    have unread : Text.readMarkedInt? "017" = none := by decide
    rw [← Text.readMarkedInt?_eq_some_iff, unread] at told
    contradiction
  have cycles_untold (n : Int) : ¬ Tells (mixedEnvironment "CHIP8_CPS") n := by
    rintro ⟨text, set, -⟩
    contradiction
  exact ⟨config, accepted, rows.1 31 (by decide) rows_told,
    cols.2 fun n _ => cols_untold n, cycles.2 fun n _ => cycles_untold n,
    (seed (-5)).mpr seed_told,
    (name kelvinLower lowerForms_kelvinLower).1 "COSMAC" rfl (.inr (by decide))⟩

end Settings

end Chip8
