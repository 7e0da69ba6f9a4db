/-
  Setting a machine up. A program that fits is loaded, and a larger one is refused as a whole
  (`loadRom_of_le`, `loadRom_of_lt`); a reset always has room for the font (`reset_of_size`). A
  machine that was set up was switched on with success (`powerOn_of_create`), and it is fresh: its
  processor is at its start, no instruction was counted, and its display has the sides it was made
  with (`fresh_of_create`), which it keeps in every run (`sides_run_of_create`). Setting up succeeds
  when the display and the audio can be readied and the program fits (`exists_create`), and what it
  then leaves in memory and on the display is told by `ready_of_create`.
-/
import Chip8.Proofs.Machine.Bounds

namespace Chip8

/-! ## Programs and the font in memory -/

namespace Memory

variable {m : Memory}

theorem fontStart_add_le (h : m.size = standardSize) : fontStart + Font.data.length ≤ m.size := by
  rw [h]
  decide

theorem programStart_add_le (h : m.size = standardSize) {data : List Byte}
    (hdata : data.length ≤ romLimit) : programStart + data.length ≤ m.size := by
  unfold romLimit at hdata
  rw [h]
  unfold programStart standardSize
  omega

theorem lt_programStart_add (h : m.size = standardSize) {data : List Byte}
    (hdata : romLimit < data.length) : m.size < programStart + data.length := by
  unfold romLimit at hdata
  rw [h]
  unfold programStart standardSize
  omega

end Memory

namespace Emulator

section

variable {δ : Type} {e : Emulator δ} {data : List Byte}

/-- A program that fits is copied to where programs start. -/
theorem loadRom_of_le (hsize : e.machine.memory.size = Memory.standardSize)
    (hdata : data.length ≤ romLimit) : loadRom data e =
      .ok () ((e.withMemory (e.machine.memory.overwrite Memory.programStart data)).mapHost
        (·.log "cpu" (romText data.length))) :=
  Act.bind_ok (tryMemory_of_ok (·.loadBlock Memory.programStart data)
    (Memory.loadBlock_of_le (Memory.programStart_add_le hsize hdata)))

/-- A program that does not fit is refused, and nothing changes. -/
theorem loadRom_of_lt (hsize : e.machine.memory.size = Memory.standardSize)
    (hdata : romLimit < data.length) : loadRom data e = .error .blockLength e := by
  have hstart : Memory.programStart ≤ e.machine.memory.size := by
    rw [hsize]
    decide
  exact Act.bind_error (tryMemory_of_error (·.loadBlock Memory.programStart data)
    (Memory.loadBlock_of_lt hstart (Memory.lt_programStart_add hsize hdata)))

/-- The font always fits. -/
theorem reset_of_size [Screen δ] (hsize : e.machine.memory.size = Memory.standardSize) :
    reset e = .ok () ((clearScreen (e.mapMachine fun m => { m with cpu := {}, executed := 0 })
      ).withMemory (e.machine.memory.overwrite Memory.fontStart Font.data)) :=
  tryMemory_of_ok (·.loadBlock Memory.fontStart Font.data)
    (e := clearScreen (e.mapMachine fun m => { m with cpu := {}, executed := 0 }))
    (Memory.loadBlock_of_le (Memory.fontStart_add_le hsize))

end

variable {e : Emulator Display}

theorem exists_reset (hsize : e.machine.memory.size = Memory.standardSize) :
    ∃ e', reset e = .ok () e' ∧
      e'.machine.memory = e.machine.memory.overwrite Memory.fontStart Font.data ∧
      e'.machine.display.frame = e.machine.display.frame ∧
      e'.machine.display.cells? = e.machine.display.cells?.map FrameBuffer.clear :=
  ⟨_, reset_of_size hsize, rfl, Display.frame_clear e.stage, Display.cells?_clear e.stage⟩

/-! ## Setting up -/

/-- A machine that was just set up, with a display of the given sides. -/
structure IsFresh (sides : Option (Nat × Nat)) (e : Emulator Display) : Prop where
  cpu : e.machine.cpu = {}
  executed : e.machine.executed = 0
  memory : e.machine.memory.size = Memory.standardSize
  table : e.machine.table = some standardTable
  hint : e.machine.hint = Number.one
  sides : e.machine.display.sides? = sides

variable {sides : Option (Nat × Nat)}

theorem IsFresh.isSound (h : e.IsFresh sides) : e.IsSound 0x1002 e.machine.display.frame where
  bounded :=
    { cpu := by rw [h.cpu]; exact Cpu.IsBounded.start.mono (by decide)
      memory := h.memory
      table := h.table
      hint := h.hint }
  frame := rfl

theorem fresh_loadBlock (start : Nat) (data : List Byte) :
    Act.Keeps (IsFresh sides) (tryMemory (·.loadBlock start data)) :=
  keeps_tryMemory (·.loadBlock start data) fun _ _ h hm =>
    { h with memory := (Memory.size_loadBlock hm).trans h.memory }

theorem fresh_reset : Act.Keeps (IsFresh sides) (reset : Act (Emulator Display) Unit) := by
  refine Act.keeps_bind (Act.keeps_modify fun e h => ?_) fun _ =>
    Act.keeps_bind (Act.keeps_modify fun e h => ?_) fun _ =>
      fresh_loadBlock _ _
  · exact { h with cpu := rfl, executed := rfl }
  · exact { h with sides := (Display.sides?_congr (Display.frame_clear e.stage)).trans h.sides }

theorem fresh_loadRom (data : List Byte) :
    Act.Keeps (IsFresh sides) (loadRom data : Act (Emulator Display) Unit) :=
  Act.keeps_bind (fresh_loadBlock _ _) fun _ => Act.keeps_modify fun _ h => { h with }

/-- A machine before it is switched on. -/
def unready (display : Display) (keyboard : Keyboard) (audio : Audio) (host : Host) :
    Emulator Display :=
  ⟨{ display, keyboard, audio }, host⟩

/-- What switching on does once the display, the keyboard and the audio are readied. -/
def setUp (seed : Setting Int) (rom : List Byte) : Act (Emulator Display) Unit := do
  seedRandom seed
  reset
  if !rom.isEmpty then loadRom rom

/-- What setting up does once the random source is there. -/
def resetAndLoad (rom : List Byte) : Act (Emulator Display) Unit := do
  reset
  if !rom.isEmpty then loadRom rom

theorem keeps_resetAndLoad {kept : Emulator Display → Prop} (hreset : Act.Keeps kept reset)
    (hload : ∀ data, Act.Keeps kept (loadRom data)) (rom : List Byte) :
    Act.Keeps kept (resetAndLoad rom) := by
  refine Act.keeps_bind hreset fun _ => ?_
  split
  · exact hload rom
  · exact Act.keeps_pure _

theorem keeps_setUp {kept : Emulator Display → Prop}
    (hrandom : ∀ e source, kept e → kept (e.withRandom source)) (hreset : Act.Keeps kept reset)
    (hload : ∀ data, Act.Keeps kept (loadRom data)) (seed : Setting Int) (rom : List Byte) :
    Act.Keeps kept (setUp seed rom) := by
  refine Act.keeps_bind (fun e h => ?_) fun _ => keeps_resetAndLoad hreset hload rom
  unfold seedRandom
  cases RandomSource.ofSeed seed e.host.randomBytes with
  | ok source => exact hrandom e source h
  | error fault => exact h

/-- Side by side, the random source of a seed is the same where the hosts have the same bytes. -/
theorem matching_seedRandom_of {R : Emulator Display → Emulator Display → Prop}
    {e' : Emulator Display} (h : R e e') (seed : Setting Int)
    (hbytes : e.host.randomBytes = e'.host.randomBytes)
    (hrandom : ∀ source, R (e.withRandom source) (e'.withRandom source)) :
    Matching R (seedRandom seed e) (seedRandom seed e') := by
  unfold seedRandom
  rw [hbytes]
  cases RandomSource.ofSeed seed e'.host.randomBytes with
  | ok source => exact .ok (hrandom source)
  | error fault => exact .error h

theorem agree_resetAndLoad {R : Emulator Display → Emulator Display → Prop}
    (hreset : Act.Agree R reset reset) (hload : ∀ data, Act.Agree R (loadRom data) (loadRom data))
    (rom : List Byte) : Act.Agree R (resetAndLoad rom) (resetAndLoad rom) := by
  refine Act.agree_bind hreset fun _ => ?_
  split
  · exact hload rom
  · exact Act.agree_pure _

theorem fresh_powerOn (sides : Option (Nat × Nat)) (seed : Setting Int) (rom : List Byte) :
    Act.Keeps (IsFresh sides) (powerOn seed rom : Act (Emulator Display) Unit) := by
  unfold powerOn
  refine Act.keeps_bind ?_ fun _ => Act.keeps_bind ?_ fun _ => Act.keeps_bind ?_ fun _ =>
    keeps_setUp (fun _ _ h => { h with }) fresh_reset fresh_loadRom seed rom
  · intro e h
    unfold onDisplay Act.within
    rw [stateOf_resultWithin]
    exact { h with sides := (Display.sides?_powerOn e.stage).trans h.sides }
  · exact Act.keeps_modify fun _ h => { h with }
  · intro e h
    unfold Act.within
    rw [stateOf_resultWithin]
    exact { h with }

/-- Switching on goes on once the display, the keyboard and the audio are readied. -/
theorem powerOn_of_ready (display : Display × Host) (audio : Audio) {display' : Display × Host}
    {audio' : Audio × Host} (keyboard : Keyboard) (seed : Setting Int) (rom : List Byte)
    (hdisplay : Screen.powerOn display = .ok () display')
    (haudio : Audio.powerOn (audio, display'.2) = .ok () audio') :
    powerOn seed rom (unready display.1 keyboard audio display.2) =
      setUp seed rom (unready display'.1 keyboard.reset audio'.1 audio'.2) := by
  have hstage : onDisplay Screen.powerOn (unready display.1 keyboard audio display.2) =
      .ok () (unready display'.1 keyboard audio display'.2) := by
    change resultWithin _ (Screen.powerOn display) = _
    rw [hdisplay]
    rfl
  have htone : Act.within (fun e : Emulator Display => (e.machine.audio, e.host)) withAudio
      Audio.powerOn (unready display'.1 keyboard.reset audio display'.2) =
        .ok () (unready display'.1 keyboard.reset audio'.1 audio'.2) := by
    change resultWithin _ (Audio.powerOn (audio, display'.2)) = _
    rw [haudio]
    rfl
  unfold powerOn
  rw [Act.bind_ok hstage, Act.modify_bind]
  exact Act.bind_ok htone

/-- Switching on with success readies the display, the keyboard and the audio first. -/
theorem of_powerOn_ok {seed : Setting Int} {rom : List Byte} {e' : Emulator Display}
    (h : powerOn seed rom e = .ok () e') :
    ∃ display audio, Screen.powerOn e.stage = .ok () display ∧
      Audio.powerOn (e.machine.audio, display.2) = .ok () audio ∧
      setUp seed rom ⟨{ e.machine with
          display := display.1, keyboard := e.machine.keyboard.reset, audio := audio.1 },
        audio.2⟩ = .ok () e' := by
  unfold powerOn at h
  obtain ⟨_, e₁, hdisplay, h⟩ := Act.of_bind_ok h
  rw [Act.modify_bind] at h
  obtain ⟨_, e₂, haudio, h⟩ := Act.of_bind_ok h
  unfold onDisplay at hdisplay
  unfold Act.within at hdisplay haudio
  cases hd : Screen.powerOn e.stage with
  | error fault display =>
    rw [hd] at hdisplay
    cases hdisplay
  | ok a display =>
    rw [hd] at hdisplay
    cases hdisplay
    change resultWithin _ (Audio.powerOn (e.machine.audio, display.2)) = _ at haudio
    cases ha : Audio.powerOn (e.machine.audio, display.2) with
    | error fault audio =>
      rw [ha] at haudio
      cases haudio
    | ok a audio =>
      rw [ha] at haudio
      cases haudio
      exact ⟨display, audio, rfl, ha, h⟩

theorem seedRandom_of_ok {seed : Setting Int} {source : RandomSource}
    (h : RandomSource.ofSeed seed e.host.randomBytes = .ok source) :
    seedRandom seed e = .ok () (e.withRandom source) := by
  unfold seedRandom
  rw [h]
  rfl

/-- The rest of switching on starts with a random source, if it succeeds. -/
theorem of_setUp_ok {seed : Setting Int} {rom : List Byte} {e' : Emulator Display}
    (h : setUp seed rom e = .ok () e') :
    ∃ source, RandomSource.ofSeed seed e.host.randomBytes = .ok source ∧
      resetAndLoad rom (e.withRandom source) = .ok () e' := by
  obtain ⟨_, e₁, hseed, h⟩ := Act.of_bind_ok h
  cases hsource : RandomSource.ofSeed seed e.host.randomBytes with
  | ok source =>
    rw [seedRandom_of_ok hsource] at hseed
    cases hseed
    exact ⟨source, rfl, h⟩
  | error fault =>
    unfold seedRandom at hseed
    rw [hsource] at hseed
    cases hseed

/-- A program that is loaded after a reset fits. -/
theorem length_le_of_resetAndLoad_ok {rom : List Byte} {e' : Emulator Display}
    (hsize : e.machine.memory.size = Memory.standardSize)
    (h : resetAndLoad rom e = .ok () e') : rom.length ≤ romLimit := by
  obtain ⟨e₁, hreset, hmemory, -, -⟩ := exists_reset hsize
  replace h := (Act.bind_ok hreset).symm.trans h
  by_contra hlong
  have hne : rom ≠ [] := by
    rintro rfl
    exact hlong (Nat.zero_le _)
  have hsize' : e₁.machine.memory.size = Memory.standardSize := by
    rw [hmemory]
    exact (Memory.size_overwrite _ _ _ (Memory.fontStart_add_le hsize)).trans hsize
  rw [List.isEmpty_eq_false_iff.mpr hne] at h
  cases (loadRom_of_lt hsize' (Nat.lt_of_not_le hlong)).symm.trans h

end Emulator

section

variable {config : MachineConfig Display} {host : Host} {e : Emulator Display}

/-- Setting up answers with the machine that switching on leaves. -/
theorem Machine.create_of_ok (h : Emulator.powerOn config.seed config.rom
      (.unready config.display config.keyboard config.audio host) = .ok () e) :
    Machine.create config host = .ok e e.host := by
  unfold Emulator.unready at h
  unfold create
  dsimp only
  rw [h]

theorem Machine.create_of_error {fault : Fault} (h : Emulator.powerOn config.seed config.rom
      (.unready config.display config.keyboard config.audio host) = .error fault e) :
    Machine.create config host = .error fault e.host := by
  unfold Emulator.unready at h
  unfold create
  dsimp only
  rw [h]

/-- A machine that was set up was switched on with success. -/
theorem Machine.powerOn_of_create {host' : Host} (h : Machine.create config host = .ok e host') :
    Emulator.powerOn config.seed config.rom
      (.unready config.display config.keyboard config.audio host) = .ok () e := by
  cases hr : Emulator.powerOn config.seed config.rom
      (.unready config.display config.keyboard config.audio host) with
  | ok a e' =>
    rw [create_of_ok hr] at h
    cases h
    rfl
  | error fault e' =>
    rw [create_of_error hr] at h
    cases h

theorem Machine.fresh_of_create {host' : Host} (h : Machine.create config host = .ok e host') :
    e.IsFresh config.display.sides? :=
  (Emulator.fresh_powerOn config.display.sides? config.seed config.rom).of_ok
    ⟨rfl, rfl, Memory.size_ofSize _, rfl, rfl, rfl⟩ (Machine.powerOn_of_create h)

/-- The display keeps its sides in every run. -/
theorem Machine.sides_run_of_create {host' : Host} (h : Machine.create config host = .ok e host')
    (events : List Event) : (e.run events).machine.display.sides? = config.display.sides? := by
  have hfresh := Machine.fresh_of_create h
  exact (Display.sides?_congr (Emulator.sound_run hfresh.isSound events).frame).trans hfresh.sides

end

/-! ## What runs lead to -/

/-- An emulator that a run leads to from a machine that was set up, with a display that can be. -/
def Emulator.IsReachable (e : Emulator Display) : Prop :=
  ∃ (config : MachineConfig Display) (host host' : Host) (start : Emulator Display)
    (events : List Event), config.display.IsCountable ∧
      Machine.create config host = .ok start host' ∧ e = start.run events

namespace Emulator.IsReachable

variable {e : Emulator Display}

theorem isBounded (h : e.IsReachable) : e.machine.IsBounded 0x1002 := by
  obtain ⟨config, host, host', start, events, -, hcreate, rfl⟩ := h
  exact (sound_run (Machine.fresh_of_create hcreate).isSound events).bounded

theorem isCountable (h : e.IsReachable) : e.machine.display.IsCountable := by
  obtain ⟨config, host, host', start, events, hcount, hcreate, rfl⟩ := h
  have hfresh := Machine.fresh_of_create hcreate
  rw [Display.isCountable_congr (sound_run hfresh.isSound events).frame]
  exact Display.isCountable_of_sides? hfresh.sides hcount

end Emulator.IsReachable

/-! ## Setting up with success -/

namespace Memory

/-- The memory of a machine without a program. -/
def withFont : Memory := (ofSize standardSize).overwrite fontStart Font.data

/-- The memory of a machine that was just set up. -/
def start (rom : List Byte) : Memory := withFont.overwrite programStart rom

theorem size_withFont : withFont.size = standardSize := by
  rw [withFont, size_overwrite _ _ _ (by rw [size_ofSize]; decide), size_ofSize]

theorem byte_start {rom : List Byte} (h : rom.length ≤ romLimit) (a : Nat) :
    (start rom).byte a =
      if programStart ≤ a ∧ a < programStart + rom.length then rom.getD (a - programStart) 0
      else withFont.byte a := by
  exact byte_overwrite (programStart_add_le size_withFont h) a

theorem byte_overwrite_font {m : Memory} (hsize : m.size = standardSize) {a : Nat}
    (h : a < Font.data.length) :
    (m.overwrite fontStart Font.data).byte a = Font.data.getD a 0 := by
  rw [byte_overwrite (fontStart_add_le hsize), if_pos (by unfold fontStart; omega)]
  rfl

/-- Programs start behind the font. -/
theorem byte_start_font {rom : List Byte} (hrom : rom.length ≤ romLimit) {a : Nat}
    (h : a < Font.data.length) : (start rom).byte a = Font.data.getD a 0 := by
  have hlow : a < programStart := Nat.lt_trans h (by decide)
  rw [byte_start hrom, if_neg (by omega)]
  exact byte_overwrite_font (size_ofSize _) h

end Memory

/-- The words of the program are two bytes of it each. -/
theorem Machine.IsBounded.fetch_start {m : Machine Display} {limit : Int} {rom : List Byte}
    {k : Nat} (hm : m.IsBounded limit) (hmemory : m.memory = Memory.start rom)
    (hpc : m.cpu.pc = 0x200 + (k : Int)) (hk : k + 1 < rom.length)
    (hrom : rom.length ≤ romLimit) :
    m.fetch = .ok (Word.ofBytes (rom.getD k 0) (rom.getD (k + 1) 0)) := by
  have hlimit : rom.length ≤ 0xE00 := hrom
  have hfetch := hm.fetch_of_lt (by rw [hpc]; omega)
  have hbyte (a : Nat) (ha : a < rom.length) : m.memory.byte (0x200 + a) = rom.getD a 0 := by
    rw [hmemory, Memory.byte_start hrom, if_pos (by unfold Memory.programStart; omega)]
    exact congrArg (rom.getD · 0) (Nat.add_sub_cancel_left ..)
  have hplace : m.cpu.pc.toNat = 0x200 + k := by omega
  have hnext : (m.cpu.pc + 1).toNat = 0x200 + (k + 1) := by omega
  rw [hfetch, hplace, hnext, hbyte k (by omega), hbyte (k + 1) hk]

/-- The first two bytes of the program are the first word. -/
theorem Emulator.IsFresh.fetch {e : Emulator Display} {sides : Option (Nat × Nat)} {rom : List Byte}
    (h : e.IsFresh sides) (hmemory : e.machine.memory = Memory.start rom) (hrom : 2 ≤ rom.length)
    (hrom' : rom.length ≤ romLimit) :
    e.machine.fetch = .ok (Word.ofBytes (rom.getD 0 0) (rom.getD 1 0)) :=
  h.isSound.bounded.fetch_start hmemory (by rw [h.cpu]; rfl) hrom hrom'

/-- A machine whose display and audio can be readied is set up with every program that fits. -/
theorem Machine.exists_create (config : MachineConfig Display) (host : Host)
    {display : Display × Host} {audio : Audio × Host} {source : RandomSource}
    (hdisplay : Screen.powerOn (config.display, host) = .ok () display)
    (haudio : Audio.powerOn (config.audio, display.2) = .ok () audio)
    (hseed : RandomSource.ofSeed config.seed audio.2.randomBytes = .ok source)
    (hrom : config.rom.length ≤ romLimit) :
    ∃ e host', Machine.create config host = .ok e host' ∧
      e.machine.memory = Memory.start config.rom ∧
      e.machine.display.frame = display.1.frame ∧
      e.machine.display.cells? = display.1.cells?.map FrameBuffer.clear := by
  let ready := Emulator.unready display.1 config.keyboard.reset audio.1 audio.2
  have hseed' : Emulator.seedRandom config.seed ready = .ok () (ready.withRandom source) :=
    Emulator.seedRandom_of_ok hseed
  have hfresh : (ready.withRandom source).IsFresh display.1.sides? :=
    ⟨rfl, rfl, Memory.size_ofSize _, rfl, rfl, rfl⟩
  obtain ⟨e₁, hreset, hmemory, hframe, hcells⟩ := Emulator.exists_reset hfresh.memory
  have hfresh' : e₁.IsFresh display.1.sides? := by
    have hkept := Emulator.fresh_reset _ hfresh
    rwa [hreset] at hkept
  obtain ⟨e₂, hload, hmemory', hsame⟩ : ∃ e₂, (if !config.rom.isEmpty then
        Emulator.loadRom config.rom else pure () : Act (Emulator Display) Unit) e₁ = .ok () e₂ ∧
      e₂.machine.memory = e₁.machine.memory.overwrite Memory.programStart config.rom ∧
      e₂.machine.display = e₁.machine.display := by
    split
    · exact ⟨_, Emulator.loadRom_of_le hfresh'.memory hrom, rfl, rfl⟩
    · rename_i hempty
      have hnil : config.rom = [] := by simpa using hempty
      exact ⟨e₁, rfl, by rw [hnil, Memory.overwrite_nil], rfl⟩
  have hpower : Emulator.powerOn config.seed config.rom
      (.unready config.display config.keyboard config.audio host) = .ok () e₂ := by
    rw [Emulator.powerOn_of_ready (config.display, host) config.audio config.keyboard config.seed
      config.rom hdisplay haudio]
    unfold Emulator.setUp
    rw [Act.bind_ok hseed', Act.bind_ok hreset, hload]
  refine ⟨e₂, e₂.host, Machine.create_of_ok hpower, ?_, ?_, ?_⟩
  · rw [hmemory', hmemory]
    rfl
  · rw [hsame, hframe]
    rfl
  · rw [hsame, hcells]
    rfl

/-- What a machine that was set up tells of its parts: the display could be readied, and the
program fits. -/
theorem Machine.ready_of_create {config : MachineConfig Display} {host host' : Host}
    {e : Emulator Display} (h : Machine.create config host = .ok e host') :
    ∃ display, Screen.powerOn (config.display, host) = .ok () display ∧
      config.rom.length ≤ romLimit ∧ e.machine.memory = Memory.start config.rom ∧
      e.machine.display.frame = display.1.frame ∧
      e.machine.display.cells? = display.1.cells?.map FrameBuffer.clear := by
  obtain ⟨display, audio, source, hdisplay, haudio, hseed, hrom⟩ :
      ∃ display audio source, Screen.powerOn (config.display, host) = .ok () display ∧
        Audio.powerOn (config.audio, display.2) = .ok () audio ∧
        RandomSource.ofSeed config.seed audio.2.randomBytes = .ok source ∧
        config.rom.length ≤ romLimit := by
    obtain ⟨display, audio, hdisplay, haudio, hrest⟩ :=
      Emulator.of_powerOn_ok (Machine.powerOn_of_create h)
    obtain ⟨source, hseed, hload⟩ := Emulator.of_setUp_ok hrest
    exact ⟨display, audio, source, hdisplay, haudio, hseed,
      Emulator.length_le_of_resetAndLoad_ok (Memory.size_ofSize _) hload⟩
  obtain ⟨e', _, h', hmemory, hframe, hcells⟩ :=
    Machine.exists_create config host hdisplay haudio hseed hrom
  rw [h'] at h
  cases h
  exact ⟨display, hdisplay, hrom, hmemory, hframe, hcells⟩

end Chip8
