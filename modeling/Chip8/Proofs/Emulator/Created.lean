import Chip8.Proofs.Emulator.Operation

/-!
# Created emulators

What an emulator is created with, if its layout and the size of its picture are accepted.
-/

namespace Chip8

/-- A check of dimensions changes nothing about them. -/
theorem Framebuffer.Size.eq_of_check {s s' : Size} {storage : Nat}
    (h : s.check storage = .ok s') : s' = s := by
  rw [check] at h
  split at h
  · contradiction
  · split at h
    · contradiction
    · exact (Except.ok.inj h).symm

namespace Emulator

/-- What an emulator is created with on a host that stores so many pixels. -/
structure Created (storage : Nat) (config : Config) (origin : Random.Source) (e : Emulator) :
    Prop where
  placed : Layout.ofAddresses config.fontAddress config.programStart = .ok e.layout
  sized : config.size.check storage = .ok config.size
  config_eq : e.config = config
  machine_eq : e.machine = freshMachine config e.layout (.released config.keyMap)
  origin_eq : e.origin = origin
  source_eq : e.source = origin
  image_eq : e.image = []
  cycles_eq : e.cycles = 0
  frames_eq : e.frames = 0
  stopRequested_eq : e.stopRequested = false
  redraws_eq : e.redraws = #[]

namespace Created

variable {storage : Nat} {config : Config} {origin : Random.Source} {e : Emulator}

theorem of_createWithin (h : createWithin storage config origin = .ok e) :
    Created storage config origin e := by
  rw [createWithin] at h
  cases placed : Layout.ofAddresses config.fontAddress config.programStart with
  | error refused => simp [placed, bind, Except.bind] at h
  | ok layout =>
    cases sized : config.size.check storage with
    | error refused => simp [placed, sized, bind, Except.bind] at h
    | ok size =>
      have same : size = config.size := Framebuffer.Size.eq_of_check sized
      simp only [placed, sized, bind, Except.bind, pure, Except.pure, Except.ok.injEq] at h
      subst h
      exact ⟨placed, same ▸ sized, rfl, rfl, rfl, rfl, rfl, rfl, rfl, rfl, rfl⟩

theorem built (h : Created storage config origin e) : Built e := by
  constructor
  · rw [h.machine_eq]
    rfl
  · rw [h.machine_eq, h.config_eq]
    rfl

end Created

/-- A test that a created emulator passes tells that it is created. -/
theorem exists_of_any_create {config : Config} {origin : Random.Source} {test : Emulator → Bool}
    (h : (create config origin).toOption.any test = true) :
    ∃ e, create config origin = .ok e ∧ test e = true := by
  cases created : create config origin with
  | error refused =>
    rw [created] at h
    contradiction
  | ok e =>
    rw [created] at h
    exact ⟨e, rfl, h⟩

end Emulator

end Chip8
