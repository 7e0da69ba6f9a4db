/-
  Machines that differ in how they show and sound. Two machines are alike if they have the same
  processor, memory, keys and random source, and the same cells to draw on; what else belongs to
  a display, the audio and the host may differ. Every event leaves machines alike that are alike,
  and gets the same answer from them if their hosts hear of it alike (`matching_event`), and so does
  every run (`alike_run`).
-/
import Chip8.Proofs.Machine.Stage

namespace Chip8

namespace Display

variable {d d' : Display}

theorem width_of_cells? (h : d.cells? = d'.cells?) : Screen.width d = Screen.width d' := by
  rw [width_eq, h, width_eq]

theorem height_of_cells? (h : d.cells? = d'.cells?) : Screen.height d = Screen.height d' := by
  rw [height_eq, h, height_eq]

theorem isLit_of_cells? (h : d.cells? = d'.cells?) : d.isLit = d'.isLit := by
  unfold isLit
  rw [h]

theorem isCountable_of_cells? (h : d.cells? = d'.cells?) (hd : d.IsCountable) :
    d'.IsCountable := by
  intro f hf
  exact hd f (h ▸ hf)

end Display

namespace Machine

/-- Machines that cannot be told apart by what they compute. -/
structure Alike (m m' : Machine Display) : Prop where
  cpu : m.cpu = m'.cpu
  executed : m.executed = m'.executed
  memory : m.memory = m'.memory
  keyboard : m.keyboard = m'.keyboard
  random : m.random = m'.random
  table : m.table = m'.table
  hint : m.hint = m'.hint
  cells : m.display.cells? = m'.display.cells?
  oversized : m.display.isOversized = m'.display.isOversized

namespace Alike

variable {m m' m'' : Machine Display} {limit : Int}

theorem refl (m : Machine Display) : m.Alike m := ⟨rfl, rfl, rfl, rfl, rfl, rfl, rfl, rfl, rfl⟩

theorem trans (h : m.Alike m') (h' : m'.Alike m'') : m.Alike m'' where
  cpu := h.cpu.trans h'.cpu
  executed := h.executed.trans h'.executed
  memory := h.memory.trans h'.memory
  keyboard := h.keyboard.trans h'.keyboard
  random := h.random.trans h'.random
  table := h.table.trans h'.table
  hint := h.hint.trans h'.hint
  cells := h.cells.trans h'.cells
  oversized := h.oversized.trans h'.oversized

theorem isBounded (h : m.Alike m') (hm : m.IsBounded limit) : m'.IsBounded limit where
  cpu := h.cpu ▸ hm.cpu
  memory := h.memory ▸ hm.memory
  table := h.table ▸ hm.table
  hint := h.hint ▸ hm.hint

theorem spriteRows (h : m.Alike m') (w : Word) : m.spriteRows w = m'.spriteRows w := by
  rw [Machine.spriteRows, h.cpu, Display.height_of_cells? h.cells, Machine.spriteRows]

theorem readableRows (h : m.Alike m') (w : Word) : m.readableRows w = m'.readableRows w := by
  rw [Machine.readableRows, h.spriteRows, Machine.base, h.cpu, h.memory, Machine.readableRows,
    Machine.base]

theorem spriteDots (h : m.Alike m') (w : Word) : m.spriteDots w = m'.spriteDots w := by
  have hbytes : m.bytesAtIndex = m'.bytesAtIndex := by
    funext k
    rw [Machine.bytesAtIndex, Machine.base, h.cpu, h.memory, Machine.bytesAtIndex, Machine.base]
  rw [Machine.spriteDots, h.readableRows, h.cpu, hbytes, Display.width_of_cells? h.cells,
    Machine.spriteDots]

theorem drawnDots (h : m.Alike m') (w : Word) : m.drawnDots w = m'.drawnDots w := by
  rw [Machine.drawnDots, Sprite.reached, h.spriteDots, h.oversized, Machine.drawnDots,
    Sprite.reached]

theorem collision (h : m.Alike m') (w : Word) : m.collision w = m'.collision w := by
  rw [Machine.collision, h.drawnDots, Display.isLit_of_cells? h.cells, Machine.collision]

theorem drawFault? (h : m.Alike m') (w : Word) : m.drawFault? w = m'.drawFault? w := by
  rw [Machine.drawFault?, h.oversized, h.spriteDots, h.readableRows, h.spriteRows,
    Machine.drawFault?]

/-- Flipping the same places keeps displays alike. -/
theorem flipped (h : m.Alike m') {places : List (Nat × Nat)} {d d' : Display}
    (hd : m.display.Flipped places d) (hd' : m'.display.Flipped places d') :
    d.cells? = d'.cells? ∧ d.isOversized = d'.isOversized := by
  constructor
  · rw [hd.cells, hd'.cells, h.cells]
  · rw [← Display.isOversized_frame, hd.frame, Display.isOversized_frame, h.oversized,
      ← Display.isOversized_frame, ← hd'.frame, Display.isOversized_frame]

end Alike

end Machine

namespace Emulator

variable {e e' : Emulator Display} {limit : Int}

/-- Emulators whose machines are alike. -/
def Alike (e e' : Emulator Display) : Prop := e.machine.Alike e'.machine

theorem sharesMemory_alike : SharesMemory Alike where
  cpu h := h.cpu
  key h := congrArg Keyboard.key h.keyboard
  random h := h.random
  memory h := h.memory
  withCpu h _ := { h with cpu := rfl }
  withRandom h _ := { h with random := rfl }
  withMemory h _ := { h with memory := rfl }
  counted h := { h with executed := congrArg (· + 1) h.executed }
  log h _ _ := h

theorem alike_clearScreen (h : e.Alike e') : (clearScreen e).Alike (clearScreen e') := by
  have hover (s : Display × Host) : (Screen.clear s).1.isOversized = s.1.isOversized := by
    rw [← Display.isOversized_frame, Display.frame_clear, Display.isOversized_frame]
  refine { h with cells := ?_, oversized := ?_ }
  · exact (Display.cells?_clear e.stage).trans
      ((congrArg _ h.cells).trans (Display.cells?_clear e'.stage).symm)
  · exact (hover e.stage).trans (h.oversized.trans (hover e'.stage).symm)

theorem matching_drawSprite_alike (h : e.Alike e') (hm : e.machine.IsBounded limit)
    (hcount : e.machine.display.IsCountable) (w : Word) :
    Matching Alike (drawSprite w.x w.y w.n e) (drawSprite w.x w.y w.n e') := by
  obtain ⟨d, host, hflipped, hdraw⟩ := drawSprite_eq hm hcount w
  obtain ⟨d', host', hflipped', hdraw'⟩ :=
    drawSprite_eq (h.isBounded hm) (Display.isCountable_of_cells? h.cells hcount) w
  rw [← h.drawnDots] at hflipped'
  obtain ⟨hcells, hover⟩ := h.flipped hflipped hflipped'
  rw [hdraw, hdraw', ← h.drawFault?, ← h.collision]
  have hend : Alike ⟨{ e.machine with
        display := d, cpu := e.machine.cpu.set flagRegister (e.machine.collision w) }, host⟩
      ⟨{ e'.machine with
        display := d', cpu := e'.machine.cpu.set flagRegister (e.machine.collision w) }, host'⟩ :=
    { h with cpu := by rw [h.cpu], cells := hcells, oversized := hover }
  cases e.machine.drawFault? w with
  | none => exact .ok hend
  | some fault => exact .error hend

theorem matching_step_alike (h : e.Alike e') (hm : e.machine.IsBounded 0x1002)
    (hcount : e.machine.display.IsCountable) : Matching Alike (step e) (step e') := by
  have hfetch : e.machine.fetch = e'.machine.fetch := by
    rw [Machine.fetch, h.memory, h.cpu, Machine.fetch]
  refine matching_step sharesMemory_alike.toShares h hm.table (h.table ▸ hm.table) hfetch
    fun w op _ _ e₁ e₁' h₁ hsame _ => ?_
  by_cases hdraw : op = .draw
  · subst hdraw
    exact matching_drawSprite_alike h₁ (hsame ▸ hm) (hsame ▸ hcount) w
  · by_cases hclear : op = .clearScreen
    · subst hclear
      exact .ok (alike_clearScreen h₁)
    · exact sharesMemory_alike.agree_perform hclear hdraw w e₁ e₁' h₁

/-! ## Events -/

/-- Keys that come to the same keyboard are answered alike if the keyboards answer alike. -/
theorem matching_onKeyboard {α : Type} {act : Act (Keyboard × Host) α} (h : e.Alike e')
    (hact : Matching (fun s t : Keyboard × Host => s.1 = t.1) (act (e.machine.keyboard, e.host))
      (act (e.machine.keyboard, e'.host))) :
    Matching Alike (onKeyboard act e) (onKeyboard act e') := by
  rw [onKeyboard, Act.within, Act.within, ← h.keyboard]
  exact hact.resultWithin fun _ _ hk => { h with keyboard := hk }

theorem agree_reset : Act.Agree Alike reset reset :=
  Act.agree_bind (Act.agree_modify fun _ _ h => { h with cpu := rfl, executed := rfl }) fun _ =>
    Act.agree_bind (Act.agree_modify fun _ _ h => alike_clearScreen h) fun _ =>
      sharesMemory_alike.agree_tryMemory _

theorem agree_loadRom (data : List Byte) : Act.Agree Alike (loadRom data) (loadRom data) :=
  Act.agree_bind (sharesMemory_alike.agree_tryMemory _) fun _ =>
    Act.agree_modify fun _ _ h => h

theorem alike_tick (h : e.Alike e') : e.tick.Alike e'.tick :=
  { h with cpu := congrArg Cpu.tick h.cpu }

/-- Machines that are alike answer an event alike, and stay alike, if their hosts hear of it
alike. -/
theorem matching_event (h : e.Alike e') (hm : e.machine.IsBounded 0x1002)
    (hcount : e.machine.display.IsCountable) (event : Event)
    (hheard : event.HeardAlike e.host e'.host) :
    Matching Alike (event.act e) (event.act e') := by
  cases event with
  | step => exact (matching_step_alike h hm hcount).bind fun w => Act.agree_pure (some w)
  | tick => exact .ok (alike_tick h)
  | press name =>
    exact (matching_onKeyboard h (Keyboard.matching_press hheard _)).bind fun _ =>
      Act.agree_pure none
  | release name =>
    exact (matching_onKeyboard h (Keyboard.matching_release name _ _ _)).bind fun _ =>
      Act.agree_pure none
  | setKey code => exact .ok { h with keyboard := congrArg (Keyboard.assign code) h.keyboard }
  | reset => exact (agree_reset e e' h).bind fun _ => Act.agree_pure none
  | loadRom data => exact (agree_loadRom data e e' h).bind fun _ => Act.agree_pure none

/-- Whatever hosts hear, machines stay alike. -/
theorem alike_after (h : e.Alike e') (hm : e.machine.IsBounded 0x1002)
    (hcount : e.machine.display.IsCountable) (event : Event) :
    (e.after event).Alike (e'.after event) := by
  by_cases hheard : event.HeardAlike e.host e'.host
  · exact (matching_event h hm hcount event hheard).state
  · cases event with
    | press name =>
      rw [after_press, after_press, press, stateOf_onKeyboard, stateOf_onKeyboard]
      exact { h with keyboard := h.keyboard ▸ Keyboard.fst_press name _ e.host e'.host }
    | _ => exact absurd trivial hheard

variable {fr : Display}

theorem IsSound.isCountable (hsound : e.IsSound 0x1002 fr) (hcount : fr.IsCountable) :
    e.machine.display.IsCountable := by
  rw [← Display.isCountable_frame_iff, hsound.frame]
  exact hcount

/-- So do runs, which answer alike if the hosts hear of all their events alike. -/
theorem alike_run (h : e.Alike e') (hsound : e.IsSound 0x1002 fr) (hcount : fr.IsCountable)
    (events : List Event) :
    (e.run events).Alike (e'.run events) ∧
      ((∀ event ∈ events, event.HeardAlike e.host e'.host) →
        (e.moments events).map Moment.answer = (e'.moments events).map Moment.answer) := by
  let R (s t : Emulator Display) : Prop := s.Alike t ∧ s.IsSound 0x1002 fr
  have hafter (s t : Emulator Display) (event : Event) (hst : R s t) :
      R (s.after event) (t.after event) :=
    ⟨alike_after hst.1 hst.2.bounded (hst.2.isCountable hcount) event,
      keeps_event event s hst.2⟩
  have htable {s t : Emulator Display} (hst : R s t) :
      s.machine.table = some standardTable ∧ t.machine.table = some standardTable :=
    ⟨hst.2.bounded.table, hst.1.table ▸ hst.2.bounded.table⟩
  have hevent (s t : Emulator Display) (event : Event) (hst : R s t)
      (hheard : event.HeardAlike s.host t.host) : Matching R (event.act s) (event.act t) := by
    have hmatch := matching_event hst.1 hst.2.bounded (hst.2.isCountable hcount) event hheard
    exact Matching.iff.mpr ⟨hmatch.answer, hmatch.state, keeps_event event s hst.2⟩
  exact ⟨(related_run hafter ⟨h, hsound⟩ events).1, fun hheard =>
    (matching_run_of_heard htable hevent ⟨h, hsound⟩ hheard).1⟩

end Emulator

end Chip8
