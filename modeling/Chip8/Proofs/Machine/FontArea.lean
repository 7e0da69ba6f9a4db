/-
  The font in memory along runs. Only a store of decimals or of registers writes to memory, and to
  the bytes that it is made for (`byte_step`); a program from outside starts behind the font, and a
  reset restores it. So a byte of the font is there as long as no instruction has stored to its
  address since the last reset, whether the instruction succeeded or failed (`fontByte_run`).
-/
import Chip8.Proofs.Machine.Frame
import Chip8.Proofs.Machine.RunBounds

namespace Chip8

/-- The event is a step whose instruction stores to the address: decimals to the three bytes from
the index on, or registers to as many bytes as there are of them. -/
def Moment.StoresAt (m : Moment Display) (a : Nat) : Prop :=
  m.event = .step ∧ ∃ w, m.before.machine.fetch = .ok w ∧
    ((w &&& 0xF0FF = 0xF033 ∧ ∃ k < 3, m.before.machine.cpu.i + (k : Nat) = a) ∨
      (w &&& 0xF0FF = 0xF055 ∧ ∃ k ≤ w.x.val, m.before.machine.cpu.i + (k : Nat) = a))

/-- An index that is not negative names the cell of its number. -/
theorem eq_of_place? {size a : Nat} {index : Int} (hindex : 0 ≤ index)
    (h : place? size index = some a) : index = a := by
  obtain ⟨place, hcell, rfl⟩ := Option.map_eq_some_iff.mp h
  have hrange := cell?_isSome_iff.mp (Option.isSome_of_eq_some hcell)
  rw [val_of_cell? hcell, Int.emod_eq_of_lt hindex hrange.2]

namespace Memory

theorem byte_congr {m m' : Memory} {a : Nat} (h : m'.cells[a]? = m.cells[a]?) :
    m'.byte a = m.byte a := by
  unfold byte
  rw [Array.getD_eq_getD_getElem?, h, Array.getD_eq_getD_getElem?]

end Memory

namespace Emulator

variable {e : Emulator Display} {fr : Display} {a : Nat}

/-- A step leaves a byte alone, whether it succeeds or fails, unless it stores there. -/
theorem byte_step (h : e.IsSound 0x1002 fr)
    (hstores : ¬ (⟨.step, e⟩ : Moment Display).StoresAt a) :
    (stateOf (step e)).machine.memory.byte a = e.machine.memory.byte a := by
  have hsame : (Part.byte a).IsSame e.machine (stateOf (step e)).machine := by
    refine isSame_step h.bounded.table fun op w hf hop htarget => hstores ⟨rfl, w, hf, ?_⟩
    obtain ⟨k, hk, ha⟩ := htarget
    have hi := h.bounded.cpu.i_nonneg
    have hplace := eq_of_place? (by omega) ha
    obtain ⟨hw, hk⟩ | ⟨hw, hk⟩ := Operation.bits_of_stored (Word.operation?_eq_some_iff.mp hop) hk
    · exact Or.inl ⟨hw, k, hk, hplace⟩
    · exact Or.inr ⟨hw, k, hk, hplace⟩
  exact Memory.byte_congr hsame

/-- A program from outside leaves the bytes before it alone. -/
theorem byte_after_loadRom (hsize : e.machine.memory.size = Memory.standardSize) (data : List Byte)
    (ha : a < Memory.programStart) :
    (e.after (.loadRom data)).machine.memory.byte a = e.machine.memory.byte a := by
  rw [after_loadRom]
  by_cases hdata : data.length ≤ romLimit
  · rw [loadRom_of_le hsize hdata]
    change (e.machine.memory.overwrite Memory.programStart data).byte a = _
    rw [Memory.byte_overwrite (Memory.programStart_add_le hsize hdata), if_neg (by omega)]
  · rw [loadRom_of_lt hsize (Nat.lt_of_not_le hdata)]
    rfl

/-- Nothing but a store and a reset reaches a byte before the program. -/
theorem byte_after (h : e.IsSound 0x1002 fr) (ha : a < Memory.programStart) {event : Event}
    (hreset : event ≠ .reset) (hstores : ¬ (⟨event, e⟩ : Moment Display).StoresAt a) :
    (e.after event).machine.memory.byte a = e.machine.memory.byte a := by
  by_cases hstep : event = .step
  · subst hstep
    rw [after_step]
    exact byte_step h hstores
  · by_cases htick : event = .tick
    · subst htick
      rfl
    · by_cases hload : ∃ data, event = .loadRom data
      · obtain ⟨data, rfl⟩ := hload
        exact byte_after_loadRom h.bounded.memory data ha
      · obtain ⟨keyboard, memory, host, houtside, hmemory⟩ :=
          exists_after_outside e hstep hreset htick
        rw [houtside]
        exact congrArg (Memory.byte · a) (hmemory fun data hdata => hload ⟨data, hdata⟩)

/-- A byte of the font is there if no store has reached it since the last reset. -/
theorem fontByte_run (h : e.IsSound 0x1002 fr) (ha : a < Font.data.length)
    (hstart : e.machine.memory.byte a = Font.data.getD a 0) (events : List Event) :
    (∀ m ∈ Moment.sinceReset (e.moments events), ¬ m.StoresAt a) →
      (e.run events).machine.memory.byte a = Font.data.getD a 0 := by
  refine sound_history (P := fun moments s =>
    (∀ m ∈ Moment.sinceReset moments, ¬ m.StoresAt a) →
      s.machine.memory.byte a = Font.data.getD a 0)
    h (fun _ => hstart) (fun moments s event hs hbyte hnone => ?_) events
  rw [Moment.sinceReset_append] at hnone
  split at hnone
  · rename_i hreset
    cases hreset
    -- whatever was stored before, a reset puts the byte back
    rw [memory_after_reset hs.bounded.memory]
    exact Memory.byte_overwrite_font hs.bounded.memory ha
  · rename_i hreset
    rw [byte_after hs (Nat.lt_trans ha (by decide)) hreset
      (hnone _ (List.mem_append_right _ (List.mem_singleton_self _)))]
    exact hbyte fun m hm => hnone m (List.mem_append_left _ hm)

end Emulator

/-- The memory holds the font where it was put. -/
def Memory.HasFont (m : Memory) : Prop := ∀ a < Font.data.length, m.byte a = Font.data.getD a 0

/-- In every run of a machine that was set up, the font is there if no store has reached it since
the last reset. -/
theorem Machine.hasFont_of_create {config : MachineConfig Display} {host host' : Host}
    {start : Emulator Display} (h : Machine.create config host = .ok start host')
    (events : List Event) (hstores : ∀ m ∈ Moment.sinceReset (start.moments events),
      ∀ a < Font.data.length, ¬ m.StoresAt a) : (start.run events).machine.memory.HasFont := by
  obtain ⟨-, -, hrom, hmemory, -⟩ := Machine.ready_of_create h
  intro a ha
  refine Emulator.fontByte_run (Machine.fresh_of_create h).isSound ha ?_ events fun m hm =>
    hstores m hm a ha
  rw [hmemory]
  exact Memory.byte_start_font hrom ha

end Chip8
