/-
  What happens to the display and the host. An instruction prints, clears the display or flips
  cells of it; everything else that it does concerns other parts of the machine. So a property of
  the display with its host that these keep (`IsPainted`) is kept by every instruction
  (`keeps_step_staged`), and by every event if asking for sounds does not matter to it either
  (`keeps_event_staged`). A machine that was set up has the property if its display has it once
  it is ready (`staged_of_create`). Where its messages go does not change, so two hosts that hear
  of keys alike go on to do so (`matching_run_of_heard`).
-/
import Chip8.Proofs.Display.Paintings
import Chip8.Proofs.Machine.Agree
import Chip8.Proofs.Machine.Creation

namespace Chip8

/-- Two hosts hear of an event alike. Only presses of keys tell them something that may be
refused. -/
def Event.HeardAlike (h h' : Host) : Event → Prop
  | press name => Keypad.HeardAlike name h h'
  | _ => True

theorem Event.HeardAlike.congr {event : Event} {h h' k k' : Host} (hheard : event.HeardAlike h h')
    (hsame : h.SameOutput k) (hsame' : h'.SameOutput k') : event.HeardAlike k k' := by
  cases event with
  | press name => exact Keypad.HeardAlike.congr hheard hsame hsame'
  | _ => trivial

theorem Event.HeardAlike.of_sameOutput {h h' : Host} (hsame : h.SameOutput h') (event : Event) :
    event.HeardAlike h h' := by
  cases event with
  | press name => exact Keypad.HeardAlike.of_sameOutput hsame
  | _ => trivial

/-- Properties of a display and its host that printing, clearing and flipping a cell keep. -/
structure IsPainted (shown : Display × Host → Prop) : Prop where
  log : ∀ {d : Display} {h : Host} (category message : Text),
    shown (d, h) → shown (d, h.logged category message)
  clear : ∀ {s : Display × Host}, shown s → shown (Screen.clear s)
  flipCell : ∀ {x y : Nat} {c : Sprite.Canvas Display}, shown c.screen → c.screen.1.Has (x, y) →
    shown (stateOf (Sprite.flipCell Number.one x y c)).screen

/-- What holds of hosts, whatever is printed and whatever a display asks of them. -/
theorem isPainted_of_calls {P : Host → Prop}
    (hlog : ∀ h category message, P h → P (h.logged category message))
    (hcall : ∀ h c, HostCall.isShowing c = true → P h → P (h.call c)) :
    IsPainted fun s : Display × Host => P s.2 where
  log category message h := hlog _ category message h
  clear {s} h := Display.holds_clear hcall s h
  flipCell {x y c} h _ :=
    (Sprite.agree_flipCell_sameOn (H := fun h _ => P h) (fun h _ c hc => hcall h c hc) Number.one
      x y c c ⟨⟨rfl, h⟩, rfl⟩).state.1.2

namespace Sprite

variable {shown : Display × Host → Prop}

/-- Every cell that drawing flips lies on the display. -/
theorem keeps_draw (hs : IsPainted shown) (row : Nat → Except Fault Byte) (left top count : Nat)
    {c : Canvas Display} (hc : shown c.screen) :
    shown (stateOf (draw Number.one row left top count c)).screen := by
  let kept (c' : Canvas Display) : Prop :=
    shown c'.screen ∧ c'.screen.1.frame = c.screen.1.frame
  have hflip {x y : Nat} (h : c.screen.1.Has (x, y)) :
      Act.Keeps kept (flipCell Number.one x y) := by
    rintro c' ⟨hshown, hframe⟩
    exact ⟨hs.flipCell hshown ((Display.has_congr hframe (x, y)).mpr h),
      keeps_frame_flipCell Number.one x y _ c' hframe⟩
  have hrows : Act.Keeps kept ((List.range (visibleRows count top
      (Screen.height c.screen.1))).forM (drawnRow Number.one row left top
        (Screen.width c.screen.1))) := by
    refine Act.keeps_forM _ fun i hi => ?_
    refine Act.keeps_bind (Act.keeps_ofExcept _) fun dots => ?_
    refine Act.keeps_forM _ fun col hcol => hflip ⟨?_, ?_⟩
    · have := (List.mem_filter.mp hcol).2
      simp only [Bool.and_eq_true, decide_eq_true_eq] at this
      exact this.2
    · have := List.mem_range.mp hi
      unfold visibleRows at this
      dsimp only
      omega
  exact (hrows c ⟨hc, rfl⟩).1

end Sprite

namespace Emulator

/-- A machine with the standard table and the usual hint, whose display has the property. -/
structure IsStaged (shown : Display × Host → Prop) (e : Emulator Display) : Prop where
  table : e.machine.table = some standardTable
  hint : e.machine.hint = Number.one
  shown : shown e.stage

variable {δ : Type} {shown : Display × Host → Prop} {e : Emulator Display}

/-- A machine next to itself, with the property. -/
theorem sharesMemory_staged (hs : IsPainted shown) :
    SharesMemory fun e e' : Emulator Display => e = e' ∧ e.IsStaged shown where
  cpu h := by rw [h.1]
  key h := by rw [h.1]
  random h := by rw [h.1]
  memory h := by rw [h.1]
  withCpu h _ := ⟨by rw [h.1], h.2.table, h.2.hint, h.2.shown⟩
  withRandom h _ := ⟨by rw [h.1], h.2.table, h.2.hint, h.2.shown⟩
  withMemory h _ := ⟨by rw [h.1], h.2.table, h.2.hint, h.2.shown⟩
  counted h := ⟨by rw [h.1], h.2.table, h.2.hint, h.2.shown⟩
  log h category message :=
    ⟨by rw [h.1], h.2.table, h.2.hint, hs.log category message h.2.shown⟩

theorem IsStaged.clearScreen (hs : IsPainted shown) (h : e.IsStaged shown) :
    (clearScreen e).IsStaged shown :=
  ⟨h.table, h.hint, hs.clear h.shown⟩

theorem keeps_drawSprite_staged (hs : IsPainted shown) (x y : Register) (count : Nat) :
    Act.Keeps (IsStaged shown) (drawSprite x y count) := by
  intro e h
  have hdrawn := Sprite.keeps_draw hs (fun row => e.machine.memory.load (e.machine.cpu.i + row))
    (e.machine.cpu.get x).toNat (e.machine.cpu.get y).toNat count (c := ⟨e.stage, false⟩) h.shown
  unfold drawSprite
  dsimp only
  rw [stateOf_resultWithin, h.hint]
  exact ⟨h.table, h.hint, hdrawn⟩

/-- An instruction keeps the property, whether it succeeds or fails. -/
theorem keeps_step_staged (hs : IsPainted shown) : Act.Keeps (IsStaged shown) step := by
  intro e h
  have hR := sharesMemory_staged hs
  have hmatch : Matching (fun e e' : Emulator Display => e = e' ∧ e.IsStaged shown)
      (step e) (step e) := by
    refine matching_step hR.toShares ⟨rfl, h⟩ h.table h.table rfl
      fun w op _ _ e₁ e₁' h₁ _ _ => ?_
    by_cases hdraw : op = .draw
    · subst hdraw
      obtain ⟨rfl, h₁⟩ := h₁
      have hdrawn := keeps_drawSprite_staged hs w.x w.y w.n e₁ h₁
      change Matching _ (drawSprite w.x w.y w.n e₁) (drawSprite w.x w.y w.n e₁)
      cases hp : drawSprite w.x w.y w.n e₁ with
      | ok a e₂ => exact .ok ⟨rfl, by rwa [hp] at hdrawn⟩
      | error fault e₂ => exact .error ⟨rfl, by rwa [hp] at hdrawn⟩
    · by_cases hclear : op = .clearScreen
      · subst hclear
        obtain ⟨rfl, h₁⟩ := h₁
        exact .ok ⟨rfl, h₁.clearScreen hs⟩
      · exact hR.agree_perform hclear hdraw w e₁ e₁' h₁
  exact hmatch.state.2

/-! ## Events -/

theorem keeps_tryMemory_staged (change : Memory → Except Fault Memory) :
    Act.Keeps (IsStaged shown) (tryMemory change) :=
  keeps_tryMemory change fun _ _ h _ => ⟨h.table, h.hint, h.shown⟩

theorem keeps_reset_staged (hs : IsPainted shown) : Act.Keeps (IsStaged shown) reset :=
  Act.keeps_bind (Act.keeps_modify fun _ h => ⟨h.table, h.hint, h.shown⟩) fun _ =>
    Act.keeps_bind (Act.keeps_modify fun _ h => h.clearScreen hs) fun _ =>
      keeps_tryMemory_staged _

theorem keeps_loadRom_staged (hs : IsPainted shown) (data : List Byte) :
    Act.Keeps (IsStaged shown) (loadRom data) :=
  Act.keeps_bind (keeps_tryMemory_staged _) fun _ =>
    Act.keeps_modify fun _ h => ⟨h.table, h.hint, hs.log _ _ h.shown⟩

/-- The keys print a message at most. -/
theorem keeps_onKeyboard_staged (hs : IsPainted shown) {act : Act (Keyboard × Host) Unit}
    (hact : ∀ s, (stateOf (act s)).2 = s.2 ∨
      ∃ category message, (stateOf (act s)).2 = s.2.logged category message) :
    Act.Keeps (IsStaged shown) (onKeyboard act) := by
  intro e h
  rw [stateOf_onKeyboard]
  refine ⟨h.table, h.hint, ?_⟩
  change shown (e.machine.display, (stateOf (act (e.machine.keyboard, e.host))).2)
  obtain hsame | ⟨category, message, hlog⟩ := hact (e.machine.keyboard, e.host)
  · rw [hsame]
    exact h.shown
  · rw [hlog]
    exact hs.log category message h.shown

/-- Whatever happens but a tick keeps the property. -/
theorem keeps_event_staged_of_ne_tick (hs : IsPainted shown) {event : Event} (h : event ≠ .tick) :
    Act.Keeps (IsStaged shown) (event.act : Act (Emulator Display) (Option Word)) := by
  cases event with
  | step => exact Act.keeps_bind (keeps_step_staged hs) fun _ => Act.keeps_pure _
  | tick => exact absurd rfl h
  | press name =>
    exact Act.keeps_bind (keeps_onKeyboard_staged hs (Keyboard.exists_logged_of_press name))
      fun _ => Act.keeps_pure _
  | release name =>
    exact Act.keeps_bind (keeps_onKeyboard_staged hs (Keyboard.exists_logged_of_release name))
      fun _ => Act.keeps_pure _
  | setKey code =>
    exact Act.keeps_bind (Act.keeps_modify fun _ h => ⟨h.table, h.hint, h.shown⟩) fun _ =>
      Act.keeps_pure _
  | reset => exact Act.keeps_bind (keeps_reset_staged hs) fun _ => Act.keeps_pure _
  | loadRom data => exact Act.keeps_bind (keeps_loadRom_staged hs data) fun _ => Act.keeps_pure _

/-- A tick drives the audio and prints a message. -/
theorem host_tick (e : Emulator δ) : ∃ message, e.tick.host =
    (Audio.drive e.machine.cpu.tick.sound (e.machine.audio, e.host)).2.logged "timer" message :=
  ⟨_, rfl⟩

/-- A tick asks for sounds only. -/
theorem asks_tick (e : Emulator δ) : e.host.Asks HostCall.isSound e.tick.host := by
  obtain ⟨message, hhost⟩ := host_tick e
  rw [hhost]
  exact (Audio.holds_drive e.host.keptByTone_asks _ _ (.refl _ _)).trans (Host.asks_log _ _ _ _)

theorem sameOutput_tick (e : Emulator δ) : e.host.SameOutput e.tick.host := by
  obtain ⟨message, hhost⟩ := host_tick e
  rw [hhost]
  exact (Audio.holds_drive e.host.keptByTone_sameOutput _ _ (.refl _)).trans
    (Host.sameOutput_logged _ _ _)

variable (htone : ∀ {d : Display} {h h' : Host}, shown (d, h) → h.Asks HostCall.isSound h' →
  shown (d, h'))

include htone in
theorem staged_tick (h : e.IsStaged shown) : e.tick.IsStaged shown := by
  refine ⟨h.table, h.hint, ?_⟩
  exact htone h.shown (asks_tick e)

include htone in
/-- Every event keeps the property. -/
theorem keeps_event_staged (hs : IsPainted shown) (event : Event) :
    Act.Keeps (IsStaged shown) (event.act : Act (Emulator Display) (Option Word)) := by
  by_cases htick : event = .tick
  · subst htick
    exact Act.keeps_bind (Act.keeps_modify fun _ h => staged_tick htone h) fun _ =>
      Act.keeps_pure _
  · exact keeps_event_staged_of_ne_tick hs htick

include htone in
theorem staged_run (hs : IsPainted shown) (h : e.IsStaged shown) (events : List Event) :
    (e.run events).IsStaged shown :=
  run_induction h (fun s event hs' => keeps_event_staged htone hs event s hs') events

/-! ## Where messages go -/

section

variable {P : Host → Prop}

/-- A machine next to itself, with a property of its host. -/
theorem sharesMemory_host (hlog : ∀ h category message, P h → P (h.logged category message)) :
    SharesMemory fun e e' : Emulator δ => e = e' ∧ P e.host where
  cpu h := by rw [h.1]
  key h := by rw [h.1]
  random h := by rw [h.1]
  memory h := by rw [h.1]
  withCpu h _ := ⟨by rw [h.1], h.2⟩
  withRandom h _ := ⟨by rw [h.1], h.2⟩
  withMemory h _ := ⟨by rw [h.1], h.2⟩
  counted h := ⟨by rw [h.1], h.2⟩
  log h category message := ⟨by rw [h.1], hlog _ category message h.2⟩

/-- What printing and the requests of a display keep is kept by every operation. -/
theorem keeps_host_perform (hlog : ∀ h category message, P h → P (h.logged category message))
    (hcall : ∀ h c, HostCall.isShowing c = true → P h → P (h.call c)) (op : Operation) (w : Word) :
    Act.Keeps (fun e : Emulator Display => P e.host) (perform op w) := by
  intro e h
  -- only drawing and clearing make requests
  by_cases hdraw : op = .draw
  · subst hdraw
    have hdrawn := Sprite.agree_draw_sameOn (H := fun h _ => P h) (fun h _ c hc => hcall h c hc)
      e.machine.hint (fun row => e.machine.memory.load (e.machine.cpu.i + row))
      (e.machine.cpu.get w.x).toNat (e.machine.cpu.get w.y).toNat w.n ⟨e.stage, false⟩
      ⟨e.stage, false⟩ ⟨⟨rfl, h⟩, rfl⟩
    change P (stateOf (drawSprite w.x w.y w.n e)).host
    unfold drawSprite
    rw [stateOf_resultWithin]
    exact hdrawn.state.1.2
  · by_cases hclear : op = .clearScreen
    · subst hclear
      exact Display.holds_clear hcall e.stage h
    · exact ((sharesMemory_host hlog).agree_perform hclear hdraw w e e ⟨rfl, h⟩).state.2

/-- An instruction of the standard table keeps it too, whatever the hint is. -/
theorem keeps_host_step (hlog : ∀ h category message, P h → P (h.logged category message))
    (hcall : ∀ h c, HostCall.isShowing c = true → P h → P (h.call c))
    (htable : e.machine.table = some standardTable) (h : P e.host) : P (stateOf (step e)).host := by
  have hR := sharesMemory_host (δ := Display) hlog
  have hmatch : Matching (fun s t : Emulator Display => s = t ∧ P s.host) (step e) (step e) := by
    refine matching_step hR.toShares ⟨rfl, h⟩ htable htable rfl fun w op _ _ e₁ e₁' h₁ _ _ => ?_
    obtain ⟨rfl, hP⟩ := h₁
    exact Matching.iff.mpr ⟨rfl, rfl, keeps_host_perform hlog hcall op w e₁ hP⟩
  exact hmatch.state.2

end

/-- An instruction prints where it printed before. -/
theorem sameOutput_step (htable : e.machine.table = some standardTable) :
    e.host.SameOutput (stateOf (step e)).host :=
  keeps_host_step (fun h _ _ hsame => hsame.trans (h.sameOutput_logged _ _))
    (fun _ _ _ hsame => hsame) htable (.refl e.host)

theorem sameOutput_clearScreen (e : Emulator Display) : e.host.SameOutput (clearScreen e).host :=
  Display.holds_clear (fun _ _ _ hsame => hsame) e.stage (.refl e.host)

theorem sameOutput_of_logged {h h' : Host}
    (hlog : h' = h ∨ ∃ category message, h' = h.logged category message) : h.SameOutput h' := by
  obtain rfl | ⟨category, message, rfl⟩ := hlog
  · exact .refl _
  · exact h.sameOutput_logged category message

/-- No event changes which diagnostics are on, and where they go. -/
theorem sameOutput_event (htable : e.machine.table = some standardTable) (event : Event) :
    e.host.SameOutput (e.after event).host := by
  have hmemory (change : Memory → Except Fault Memory) :
      Act.Keeps (fun s : Emulator Display => e.host.SameOutput s.host) (tryMemory change) :=
    keeps_tryMemory change fun _ _ h _ => h
  cases event with
  | step =>
    rw [after_step]
    exact sameOutput_step htable
  | tick => exact sameOutput_tick e
  | press name =>
    rw [after_press, press, stateOf_onKeyboard]
    exact sameOutput_of_logged (Keyboard.exists_logged_of_press name _)
  | release name =>
    rw [after_release, release, stateOf_onKeyboard]
    exact sameOutput_of_logged (Keyboard.exists_logged_of_release name _)
  | setKey code => exact .refl _
  | reset =>
    rw [after_reset]
    refine (Act.keeps_bind (Act.keeps_modify fun _ h => h) fun _ => Act.keeps_bind
      (Act.keeps_modify fun s h => h.trans (sameOutput_clearScreen s)) fun _ => hmemory _ :
      Act.Keeps (fun s : Emulator Display => e.host.SameOutput s.host) reset) e (.refl _)
  | loadRom data =>
    rw [after_loadRom]
    refine (Act.keeps_bind (hmemory _) fun _ => Act.keeps_modify fun s h =>
      h.trans (s.host.sameOutput_logged _ _) :
      Act.Keeps (fun s : Emulator Display => e.host.SameOutput s.host) (loadRom data)) e (.refl _)

theorem sameOutput_run (htable : ∀ events, (e.run events).machine.table = some standardTable)
    (events : List Event) : e.host.SameOutput (e.run events).host := by
  induction events using List.reverseRecOn with
  | nil => exact .refl _
  | append_singleton events event ih =>
    rw [run_append]
    exact ih.trans (sameOutput_event (htable events) event)

/-! ## Hearing of keys -/

/-- Events that hosts hear of alike and that then match on related emulators match in every run:
their answers are the same, and what they end in is related. -/
theorem matching_run_of_heard {R : Emulator Display → Emulator Display → Prop}
    (htable : ∀ {s t}, R s t →
      s.machine.table = some standardTable ∧ t.machine.table = some standardTable)
    (hevent : ∀ s t (event : Event), R s t → event.HeardAlike s.host t.host →
      Matching R (event.act s) (event.act t))
    {e e' : Emulator Display} (h : R e e') {events : List Event}
    (hheard : ∀ event ∈ events, event.HeardAlike e.host e'.host) :
    (e.moments events).map Moment.answer = (e'.moments events).map Moment.answer ∧
      R (e.run events) (e'.run events) := by
  -- both hosts go on printing as they did at the start
  let R' (s t : Emulator Display) : Prop :=
    R s t ∧ e.host.SameOutput s.host ∧ e'.host.SameOutput t.host
  have hmatch : ∀ event ∈ events, ∀ s t, R' s t → Matching R' (event.act s) (event.act t) := by
    rintro event hmem s t ⟨hst, hs, ht⟩
    obtain ⟨hleft, hright⟩ := htable hst
    exact (hevent s t event hst ((hheard event hmem).congr hs ht)).and_states
      (hs.trans (sameOutput_event hleft event)) (ht.trans (sameOutput_event hright event))
  obtain ⟨hanswers, hrun, -⟩ := matching_run hmatch ⟨h, .refl _, .refl _⟩
  exact ⟨hanswers, hrun⟩

/-! ## Setting up -/

/-- What follows on readying the display and the audio. -/
theorem staged_of_powerOn (hs : IsPainted shown) {seed : Setting Int} {rom : List Byte}
    {e' : Emulator Display} (htable : e.machine.table = some standardTable)
    (hhint : e.machine.hint = Number.one)
    (hready : ∀ s, Screen.powerOn e.stage = .ok () s → shown s)
    (haudio : ∀ {d : Display} {a : Audio} {h : Host}, shown (d, h) →
      shown (d, (stateOf (Audio.powerOn (a, h))).2))
    (h : powerOn seed rom e = .ok () e') : e'.IsStaged shown := by
  obtain ⟨display, audio, hdisplay, hsound, hrest⟩ := of_powerOn_ok h
  have hkeeps : Act.Keeps (IsStaged shown) (setUp seed rom) :=
    keeps_setUp (fun _ _ h => ⟨h.table, h.hint, h.shown⟩) (keeps_reset_staged hs)
      (keeps_loadRom_staged hs) seed rom
  have hsounding := haudio (a := e.machine.audio) (hready display hdisplay)
  rw [hsound] at hsounding
  have hstart : IsStaged shown ⟨{ e.machine with
      display := display.1, keyboard := e.machine.keyboard.reset, audio := audio.1 }, audio.2⟩ :=
    ⟨htable, hhint, hsounding⟩
  exact hkeeps.of_ok hstart hrest

end Emulator

section

variable {config : MachineConfig Display} {host host' : Host} {e : Emulator Display}

/-- A machine that was set up has the property if its display has it once it is ready. -/
theorem Machine.staged_of_create {shown : Display × Host → Prop} (hs : IsPainted shown)
    (hready : ∀ s, Screen.powerOn (config.display, host) = .ok () s → shown s)
    (haudio : ∀ {d : Display} {a : Audio} {h : Host}, shown (d, h) →
      shown (d, (stateOf (Audio.powerOn (a, h))).2))
    (h : Machine.create config host = .ok e host') : e.IsStaged shown :=
  Emulator.staged_of_powerOn hs (e := .unready config.display config.keyboard config.audio host)
    rfl rfl hready haudio (Machine.powerOn_of_create h)

/-- Setting a machine up prints, opens a window and makes the sound, and asks for nothing else. -/
theorem Machine.holds_create {P : Host → Prop}
    (hlog : ∀ h category message, P h → P (h.logged category message))
    (hshow : ∀ h c, HostCall.isShowing c = true → P h → P (h.call c))
    (hcaption : ∀ h text, P h → P (h.call (.caption text)))
    (hmake : ∀ h wave, P h → P (h.call (.makeSound wave))) (hhost : P host)
    (h : Machine.create config host = .ok e host') : P e.host := by
  have hdisplay (s : Display × Host) (hs : Screen.powerOn (config.display, host) = .ok () s) :
      P s.2 := by
    have hpower := Display.holds_powerOn hlog hshow hcaption (config.display, host) hhost
    rwa [hs] at hpower
  exact (Machine.staged_of_create (isPainted_of_calls hlog hshow) hdisplay
    (fun {d a host'} hs => Audio.holds_powerOn hlog hmake (a, host') hs) h).shown

theorem Machine.sameOutput_of_create (h : Machine.create config host = .ok e host') :
    host.SameOutput e.host :=
  Machine.holds_create (fun h _ _ hsame => hsame.trans (h.sameOutput_logged _ _))
    (fun _ _ _ => id) (fun _ _ => id) (fun _ _ => id) (.refl host) h

end

end Chip8
