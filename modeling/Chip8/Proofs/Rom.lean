/-
  Loading programs. An image is accepted by its size alone (`Rom.validate_eq_ok_iff`), and the
  accepted sizes are those that memory has room for, so that a nonempty image is accepted exactly
  if it can be loaded (`exists_validate_iff`). Loading from a file reads, accepts and copies, and
  is done or refused as a whole (`exists_loadRomFrom_of_takes`, `loadRomFrom_of_read_error`), as
  long as the output takes the path; `Rom.Refuses` tells why a file is refused. The main statement
  is `load_or_refuse`. A path that is to be told of and is refused is found out after the image was
  copied (`loadRomFrom_of_not_canTell`).
-/
import Chip8.Proofs.Machine.Creation
import Chip8.Rom.Image

namespace Chip8

namespace Rom

variable {data image : List Byte} {look : FileLookup} {p : PathName}

theorem validate_of_lt (h : romLimit < data.length) :
    validate data = .error (.tooLarge data.length) := by
  have hne : data ≠ [] := by
    rintro rfl
    exact absurd h (Nat.not_lt_zero _)
  unfold validate
  rw [List.isEmpty_eq_false_iff.mpr hne, if_neg Bool.false_ne_true, if_pos h]

theorem validate_of_le (hne : data ≠ []) (hfits : data.length ≤ romLimit) :
    validate data = .ok data := by
  unfold validate
  rw [List.isEmpty_eq_false_iff.mpr hne, if_neg Bool.false_ne_true, if_neg (Nat.not_lt.mpr hfits)]

/-- An image is accepted by its size, and as it is. -/
theorem validate_eq_ok_iff :
    validate data = .ok image ↔ image = data ∧ data ≠ [] ∧ data.length ≤ romLimit := by
  constructor
  · intro h
    have hne : data ≠ [] := by
      rintro rfl
      cases h
    have hfits : data.length ≤ romLimit := by
      by_contra hlong
      rw [validate_of_lt (Nat.lt_of_not_le hlong)] at h
      cases h
    rw [validate_of_le hne hfits] at h
    cases h
    exact ⟨rfl, hne, hfits⟩
  · rintro ⟨rfl, hne, hfits⟩
    exact validate_of_le hne hfits

/-- Why a file is refused as a program. -/
inductive Refuses (look : FileLookup) (p : PathName) : RomFault → Prop
  | unread {cause : FileFault} (hfile : look.read p = .error cause) :
      Refuses look p (readFault p cause)
  | empty (hfile : look.read p = .ok []) : Refuses look p .empty
  | tooLarge {data : List Byte} (hfile : look.read p = .ok data) (hlong : romLimit < data.length) :
      Refuses look p (.tooLarge data.length)

/-- A file with a name that the system can be asked for is read, or refused as a program. -/
theorem read_or_refuses (hname : Fault.ofHostText? p.text = none) :
    (∃ data, look.read p = .ok data ∧ read look p = .ok data ∧ data ≠ [] ∧
      data.length ≤ romLimit) ∨
    ∃ fault, read look p = .error (.rom fault) ∧ Refuses look p fault := by
  unfold read
  rw [hname]
  dsimp only
  cases hfile : look.read p with
  | error cause => exact .inr ⟨_, rfl, .unread hfile⟩
  | ok data =>
    dsimp only
    by_cases hempty : data = []
    · subst hempty
      exact .inr ⟨_, rfl, .empty hfile⟩
    · by_cases hlong : romLimit < data.length
      · rw [validate_of_lt hlong]
        exact .inr ⟨_, rfl, .tooLarge hfile hlong⟩
      · have hfits := Nat.le_of_not_lt hlong
        rw [validate_of_le hempty hfits]
        exact .inl ⟨data, rfl, rfl, hempty, hfits⟩

end Rom

namespace Emulator

variable {δ : Type} {e : Emulator δ} {look : FileLookup} {path : Text} {data : List Byte}

/-- A nonempty image is accepted exactly if it can be loaded. -/
theorem exists_validate_iff (hsize : e.machine.memory.size = Memory.standardSize)
    (hdata : data ≠ []) :
    (∃ image, Rom.validate data = .ok image) ↔ ∃ e', loadRom data e = .ok () e' := by
  simp only [Rom.validate_eq_ok_iff, exists_eq_left]
  constructor
  · rintro ⟨-, hfits⟩
    exact ⟨_, loadRom_of_le hsize hfits⟩
  · rintro ⟨e', hload⟩
    refine ⟨hdata, Nat.not_lt.mp fun hlong => ?_⟩
    rw [loadRom_of_lt hsize hlong] at hload
    cases hload

theorem eq_of_loadRom_error (hsize : e.machine.memory.size = Memory.standardSize) {fault : Fault}
    {e' : Emulator δ} (h : loadRom data e = .error fault e') : e' = e := by
  by_cases hfits : data.length ≤ romLimit
  · rw [loadRom_of_le hsize hfits] at h
    cases h
  · rw [loadRom_of_lt hsize (Nat.lt_of_not_le hfits)] at h
    cases h
    rfl

/-- The machine with an image in memory, which its host was told of. -/
def loaded (data : List Byte) (e : Emulator δ) : Emulator δ :=
  (e.withMemory (e.machine.memory.overwrite Memory.programStart data)).mapHost
    (·.log "cpu" (romText data.length))

theorem loadRomFrom_of_read_ok (hsize : e.machine.memory.size = Memory.standardSize)
    (hread : Rom.read look (PathName.parse path) = .ok data) (hfits : data.length ≤ romLimit) :
    loadRomFrom look path e =
      (onHost (Host.tryLog "loader" (loaderText path data.length)) >>= fun _ => pure data.length)
        (e.loaded data) := by
  have hbytes : Act.ofExcept (Rom.read look (PathName.parse path)) e = .ok data e := by
    rw [hread]
    rfl
  exact (Act.bind_ok hbytes).trans (Act.bind_ok (loadRom_of_le hsize hfits))

/-- What is told of a loaded image can be told if the output takes its path. -/
theorem canTell_loaderText (data : List Byte) (size : Nat)
    (htold : e.host.isLogging "loader" = true → e.host.outlet.Takes path) :
    (e.loaded data).host.CanTell "loader" (loaderText path size) := by
  refine (e.host.sameOutput_logged _ _).canTell_iff.mp fun hon => Host.takes_line.mpr ⟨?_, ?_⟩
  · exact e.host.outlet.takes_ofString "loader"
  · simpa only [loaderText, Outlet.takes_append, Outlet.takes_ofString, true_and, and_true]
      using htold hon

theorem exists_loadRomFrom_of_takes (hsize : e.machine.memory.size = Memory.standardSize)
    (hread : Rom.read look (PathName.parse path) = .ok data) (hfits : data.length ≤ romLimit)
    (htold : e.host.isLogging "loader" = true → e.host.outlet.Takes path) :
    ∃ host, loadRomFrom look path e = .ok data.length
        ⟨{ e.machine with memory := e.machine.memory.overwrite Memory.programStart data }, host⟩ ∧
      host.calls = e.host.calls := by
  have htell := onHost_tryLog_of_canTell (canTell_loaderText data data.length htold)
  rw [loadRomFrom_of_read_ok hsize hread hfits, Act.bind_ok htell]
  exact ⟨_, rfl, (Host.calls_logged ..).trans (Host.calls_logged ..)⟩

/-- A path that the output refuses is told of too late: the image is in memory by then. -/
theorem loadRomFrom_of_not_canTell (hsize : e.machine.memory.size = Memory.standardSize)
    (hread : Rom.read look (PathName.parse path) = .ok data) (hfits : data.length ≤ romLimit)
    (hcan : ¬ (e.loaded data).host.CanTell "loader" (loaderText path data.length)) :
    ∃ fault, loadRomFrom look path e = .error fault (e.loaded data) ∧ fault.IsRefusal := by
  obtain ⟨fault, hfault, hrefusal⟩ := Host.tryLog_of_not hcan
  have htell : onHost (Host.tryLog "loader" (loaderText path data.length)) (e.loaded data) =
      .error fault (e.loaded data) := by
    rw [onHost, Act.within, hfault]
    rfl
  rw [loadRomFrom_of_read_ok hsize hread hfits, Act.bind_error htell]
  exact ⟨fault, rfl, hrefusal⟩

theorem loadRomFrom_of_read_error {fault : Fault}
    (hread : Rom.read look (PathName.parse path) = .error fault) :
    loadRomFrom look path e = .error fault e := by
  have hbytes : Act.ofExcept (Rom.read look (PathName.parse path)) e = .error fault e := by
    rw [hread]
    rfl
  exact Act.bind_error hbytes

end Emulator

/-! ## All or nothing -/

/-- From any file system that answers with bytes or with a fault of its own, and where the output
takes the path if loading is to be told of, loading a file into a machine with the standard memory
returns the size of the file, from 1 to 3584, with the file in memory from `0x200` on and nothing
else of the machine changed; or it is refused, because the file is not read, empty or too large, and
nothing is changed at all. A nonempty image is accepted exactly if the machine can load it, and what
the machine refuses to load changes nothing. -/
theorem load_or_refuse {δ : Type} (look : FileLookup) (path : Text)
    (hname : Fault.ofHostText? (PathName.parse path).text = none) (e : Emulator δ)
    (htold : e.host.isLogging "loader" = true → e.host.outlet.Takes path)
    (hsize : e.machine.memory.size = 4096) :
    ((∃ data e', look.read (PathName.parse path) = .ok data ∧
        Emulator.loadRomFrom look path e = .ok data.length e' ∧
        1 ≤ data.length ∧ data.length ≤ 3584 ∧
        e'.machine = { e.machine with memory := e'.machine.memory } ∧
        e'.machine.memory.size = 4096 ∧
        (∀ a, e'.machine.memory.byte a =
          if 0x200 ≤ a ∧ a < 0x200 + data.length then data.getD (a - 0x200) 0
          else e.machine.memory.byte a) ∧
        e'.host.calls = e.host.calls) ∨
      ∃ fault, Emulator.loadRomFrom look path e = .error (.rom fault) e ∧
        Rom.Refuses look (PathName.parse path) fault) ∧
    ∀ data : List Byte, data ≠ [] →
      ((∃ image, Rom.validate data = .ok image) ↔
        ∃ e', Emulator.loadRom data e = .ok () e') ∧
      ∀ fault e', Emulator.loadRom data e = .error fault e' → e' = e := by
  constructor
  · obtain ⟨data, hfile, hread, hne, hfits⟩ | ⟨fault, hread, hrefuses⟩ :=
      Rom.read_or_refuses hname
    · obtain ⟨host, hload, hcalls⟩ :=
        Emulator.exists_loadRomFrom_of_takes hsize hread hfits htold
      have hlimit : data.length ≤ 3584 := hfits
      have hend := Memory.programStart_add_le hsize hfits
      exact .inl ⟨data, _, hfile, hload, List.length_pos_iff.mpr hne, hlimit, rfl,
        (Memory.size_overwrite _ _ _ hend).trans hsize, Memory.byte_overwrite hend, hcalls⟩
    · exact .inr ⟨fault, Emulator.loadRomFrom_of_read_error hread, hrefuses⟩
  · intro data hdata
    exact ⟨Emulator.exists_validate_iff hsize hdata, fun fault e' =>
      Emulator.eq_of_loadRom_error hsize⟩

/-- A jump to itself, loaded from a file. -/
theorem load_or_refuse_jump : ∃ e' : Emulator Display,
    Emulator.loadRomFrom (fun _ => .ok (.file [0x12, 0x00])) "maze.ch8"
      ⟨{ display := Display.bitmap (FrameBuffer.blank 8 4), keyboard := .latch 0
         audio := .counter {} }, { categories := ⟨["loader"]⟩ }⟩ = .ok 2 e' ∧
    e'.machine.memory.byte 0x200 = 0x12 := by
  obtain ⟨⟨data, e', hfile, hload, -, -, -, -, hbytes, -⟩ | ⟨fault, -, hrefuses⟩, -⟩ :=
    load_or_refuse (fun _ => .ok (.file [0x12, 0x00])) "maze.ch8" (by decide)
      ⟨{ display := Display.bitmap (FrameBuffer.blank 8 4), keyboard := .latch 0
         audio := .counter {} }, { categories := ⟨["loader"]⟩ }⟩
      (fun _ => Outlet.takes_ofString _ "maze.ch8") (Memory.size_ofSize _)
  · cases hfile
    exact ⟨e', hload, hbytes 0x200⟩
  · cases hrefuses with
    | unread hfile => cases hfile
    | empty hfile => cases hfile
    | tooLarge hfile hlong =>
      cases hfile
      exact absurd hlong (by decide)

end Chip8
