/-
  Machines on hosts that differ in their diagnostics. Two hosts are twins if they are the same
  apart from what was printed and from the categories that are on. Printing keeps hosts twins, and
  so does asking both for the same. A machine does not look at its diagnostics, so on twin hosts
  every event leaves the same machine and twin hosts (`Emulator.twin_after`), and it gets the same
  answer, unless it tells only one of them what is refused (`Emulator.matching_event_twin`).
-/
import Chip8.Proofs.Display.Paintings
import Chip8.Proofs.Machine.Alike
import Chip8.Proofs.Machine.Tone

namespace Chip8

namespace Host

/-- The host without its diagnostics: what was printed, and the categories that are on. -/
def muted (h : Host) : Host := { h with printed := #[], categories := {} }

/-- The same hosts apart from their diagnostics. -/
def Twin (h h' : Host) : Prop := h.muted = h'.muted

theorem muted_log (h : Host) (category message : Text) :
    (h.logged category message).muted = h.muted := of_logged (fun _ _ => rfl) h category message

theorem muted_call (h : Host) (c : HostCall) : (h.call c).muted = h.muted.call c := rfl

namespace Twin

variable {h h' : Host}

theorem refl (h : Host) : h.Twin h := rfl

theorem calls (htwin : h.Twin h') : h.calls = h'.calls := (congrArg Host.calls htwin :)

theorem toolkit (htwin : h.Twin h') : h.toolkit = h'.toolkit := (congrArg Host.toolkit htwin :)

theorem mixerRate (htwin : h.Twin h') : h.mixerRate = h'.mixerRate :=
  (congrArg Host.mixerRate htwin :)

theorem console (htwin : h.Twin h') : h.console = h'.console := (congrArg Host.console htwin :)

theorem randomBytes (htwin : h.Twin h') : h.randomBytes = h'.randomBytes :=
  (congrArg Host.randomBytes htwin :)

theorem outlet (htwin : h.Twin h') : h.outlet = h'.outlet := (congrArg Host.outlet htwin :)

theorem call (htwin : h.Twin h') (c : HostCall) : (h.call c).Twin (h'.call c) := by
  rw [Twin, muted_call, muted_call]
  exact congrArg (Host.call · c) htwin

/-- Twins may print what they like. -/
theorem put (htwin : h.Twin h') (text text' : Text) : (h.put text).Twin (h'.put text') := htwin

theorem log (htwin : h.Twin h') (category message category' message' : Text) :
    (h.logged category message).Twin (h'.logged category' message') := by
  rw [Twin, muted_log, muted_log]
  exact htwin

theorem withConsole (htwin : h.Twin h') (lines : List (Option Text)) :
    Host.Twin { h with console := lines } { h' with console := lines } := by
  have hmuted := congrArg (fun h : Host => { h with console := lines }) htwin
  exact hmuted

end Twin

theorem keptByCalls_twin (kind : HostCall → Bool) : KeptByCalls kind Twin :=
  fun _ _ c _ htwin => htwin.call c

theorem keptBySound_twin : KeptBySound Twin where
  call := keptByCalls_twin _
  channels htwin := (congrArg Host.channels htwin :)
  withChannels htwin channels := by
    have hmuted := congrArg (fun h : Host => { h with channels }) htwin
    exact hmuted

/-- What prints a message at most leaves a twin. -/
theorem twin_of_log {h h' t t' : Host} (htwin : h.Twin h')
    (hlog : t = h ∨ ∃ category message, t = h.logged category message)
    (hlog' : t' = h' ∨ ∃ category message, t' = h'.logged category message) : t.Twin t' := by
  have hmuted {h t : Host} (hlog : t = h ∨ ∃ category message, t = h.logged category message) :
      t.muted = h.muted := by
    rcases hlog with rfl | ⟨category, message, rfl⟩
    · rfl
    · exact h.muted_log category message
  rw [Twin, hmuted hlog, hmuted hlog']
  exact htwin

end Host

namespace Emulator

/-- The same machine with the standard table, on twin hosts. -/
structure Twin (e e' : Emulator Display) : Prop where
  machine : e.machine = e'.machine
  host : e.host.Twin e'.host
  table : e.machine.table = some standardTable

variable {e e' : Emulator Display}

namespace Twin

theorem refl (htable : e.machine.table = some standardTable) : e.Twin e := ⟨rfl, .refl _, htable⟩

theorem fetch (h : e.Twin e') : e.machine.fetch = e'.machine.fetch := by rw [h.machine]

/-- The machines are changed alike, and each host prints what it likes. -/
theorem mapMachine (h : e.Twin e') {change : Machine Display → Machine Display}
    (htable : ∀ m, (change m).table = m.table) :
    (e.mapMachine change).Twin (e'.mapMachine change) :=
  ⟨congrArg change h.machine, h.host, (htable _).trans h.table⟩

theorem mapHost (h : e.Twin e') {change change' : Host → Host}
    (hchange : ∀ h h', h.Twin h' → (change h).Twin (change' h')) :
    (e.mapHost change).Twin (e'.mapHost change') :=
  ⟨h.machine, hchange _ _ h.host, h.table⟩

/-- What is only printed on one side does not matter. -/
theorem withHost (h : e.Twin e') {host : Host} (hmuted : host.muted = e'.host.muted) :
    e.Twin (e'.mapHost fun _ => host) :=
  ⟨h.machine, h.host.trans hmuted.symm, h.table⟩

theorem log (h : e.Twin e') (category message category' message' : Text) :
    (e.mapHost (·.logged category message)).Twin (e'.mapHost (·.logged category' message')) :=
  h.mapHost fun _ _ htwin => htwin.log category message category' message'

theorem stage (h : e.Twin e') : Host.SameOn Host.Twin e.stage e'.stage :=
  ⟨congrArg Machine.display h.machine, h.host⟩

theorem withStage (h : e.Twin e') {s s' : Display × Host} (hs : Host.SameOn Host.Twin s s') :
    (e.withStage s).Twin (e'.withStage s') := by
  refine ⟨?_, hs.2, h.table⟩
  change { e.machine with display := s.1 } = { e'.machine with display := s'.1 }
  rw [h.machine, hs.1]

theorem sound (h : e.Twin e') :
    Host.SameOn Host.Twin (e.machine.audio, e.host) (e'.machine.audio, e'.host) :=
  ⟨congrArg Machine.audio h.machine, h.host⟩

theorem withAudio (h : e.Twin e') {s s' : Audio × Host} (hs : Host.SameOn Host.Twin s s') :
    (e.withAudio s).Twin (e'.withAudio s') := by
  refine ⟨?_, hs.2, h.table⟩
  change { e.machine with audio := s.1 } = { e'.machine with audio := s'.1 }
  rw [h.machine, hs.1]

theorem withKeyboard (h : e.Twin e') {s t : Keyboard × Host} (hkeyboard : s.1 = t.1)
    (hhost : s.2.Twin t.2) : (e.withKeyboard s).Twin (e'.withKeyboard t) := by
  refine ⟨?_, hhost, h.table⟩
  change { e.machine with keyboard := s.1 } = { e'.machine with keyboard := t.1 }
  rw [h.machine, hkeyboard]

end Twin

theorem sharesMemory_twin : SharesMemory Twin where
  cpu h := by rw [h.machine]
  key h := by rw [h.machine]
  random h := by rw [h.machine]
  memory h := by rw [h.machine]
  withCpu h _ := h.mapMachine fun _ => rfl
  withRandom h _ := h.mapMachine fun _ => rfl
  withMemory h _ := h.mapMachine fun _ => rfl
  counted h := h.mapMachine fun _ => rfl
  log h _ _ := h.log ..

/-! ## Instructions -/

theorem twin_clearScreen (h : e.Twin e') : (clearScreen e).Twin (clearScreen e') :=
  h.withStage (Display.sameOn_clear (Host.keptByCalls_twin _) h.stage)

theorem matching_drawSprite_twin (h : e.Twin e') (x y : Register) (count : Nat) :
    Matching Twin (drawSprite x y count e) (drawSprite x y count e') := by
  have hdraw := Sprite.agree_draw_sameOn (Host.keptByCalls_twin _) e.machine.hint
    (fun row => e.machine.memory.load (e.machine.cpu.i + row)) (e.machine.cpu.get x).toNat
    (e.machine.cpu.get y).toNat count ⟨e.stage, false⟩ ⟨e'.stage, false⟩ ⟨h.stage, rfl⟩
  unfold drawSprite
  dsimp only
  rw [← h.machine]
  refine hdraw.resultWithin fun c c' ⟨hscreen, hhit⟩ => ?_
  rw [hhit]
  exact (h.withStage hscreen).mapMachine fun _ => rfl

theorem agree_perform_twin (op : Operation) (w : Word) :
    Act.Agree Twin (perform op w) (perform op w) := by
  intro e e' h
  -- only drawing and clearing reach the host; the rest is settled by the shared memory
  by_cases hdraw : op = .draw
  · subst hdraw
    exact matching_drawSprite_twin h w.x w.y w.n
  · by_cases hclear : op = .clearScreen
    · subst hclear
      exact .ok (twin_clearScreen h)
    · exact sharesMemory_twin.agree_perform hclear hdraw w e e' h

theorem matching_step_twin (h : e.Twin e') : Matching Twin (step e) (step e') :=
  matching_step sharesMemory_twin.toShares h h.table (h.machine ▸ h.table) h.fetch
    fun w op _ _ e₁ e₁' h₁ _ _ => agree_perform_twin op w e₁ e₁' h₁

/-! ## Events -/

theorem twin_tick (h : e.Twin e') : e.tick.Twin e'.tick := by
  have hcounted : (e.mapCpu Cpu.tick).Twin (e'.mapCpu Cpu.tick) := h.mapMachine fun _ => rfl
  have hdriven : Host.SameOn Host.Twin
      (Audio.drive e.machine.cpu.tick.sound (e.machine.audio, e.host))
      (Audio.drive e'.machine.cpu.tick.sound (e'.machine.audio, e'.host)) := by
    rw [h.machine]
    exact Audio.sameOn_drive Host.keptBySound_twin _ ⟨rfl, h.host⟩
  exact (hcounted.withAudio hdriven).log ..

/-- Keys from the host print a message at most. -/
theorem matching_onKeyboard_twin (h : e.Twin e') {act : Act (Keyboard × Host) Unit}
    (hact : Matching (fun s t : Keyboard × Host => s.1 = t.1) (act (e.machine.keyboard, e.host))
      (act (e.machine.keyboard, e'.host)))
    (hlog : ∀ s, (stateOf (act s)).2 = s.2 ∨
      ∃ category message, (stateOf (act s)).2 = s.2.logged category message) :
    Matching Twin (onKeyboard act e) (onKeyboard act e') := by
  let printed (h : Host) (s : Keyboard × Host) : Prop :=
    s.2 = h ∨ ∃ category message, s.2 = h.logged category message
  have hprinted (h : Host) : printed h (stateOf (act (e.machine.keyboard, h))) := hlog _
  rw [onKeyboard, Act.within, Act.within, ← h.machine]
  refine (hact.and_states (hprinted e.host) (hprinted e'.host)).resultWithin ?_
  rintro s t ⟨hst, hs, ht⟩
  exact h.withKeyboard hst (Host.twin_of_log h.host hs ht)

theorem matching_press_twin (h : e.Twin e') {name : Text}
    (hheard : Keypad.HeardAlike name e.host e'.host) :
    Matching Twin (press name e) (press name e') :=
  matching_onKeyboard_twin h (Keyboard.matching_press hheard _)
    (Keyboard.exists_logged_of_press name)

theorem matching_release_twin (h : e.Twin e') (name : Text) :
    Matching Twin (release name e) (release name e') :=
  matching_onKeyboard_twin h (Keyboard.matching_release name _ _ _)
    (Keyboard.exists_logged_of_release name)

theorem agree_reset_twin : Act.Agree Twin reset reset :=
  Act.agree_bind (Act.agree_modify fun _ _ h => h.mapMachine fun _ => rfl) fun _ =>
    Act.agree_bind (Act.agree_modify fun _ _ h => twin_clearScreen h) fun _ =>
      sharesMemory_twin.agree_tryMemory _

theorem agree_loadRom_twin (data : List Byte) : Act.Agree Twin (loadRom data) (loadRom data) :=
  Act.agree_bind (sharesMemory_twin.agree_tryMemory _) fun _ =>
    Act.agree_modify fun _ _ h => h.log ..

/-- Twins answer every event alike that their hosts hear of alike, and stay twins. -/
theorem matching_event_twin (h : e.Twin e') (event : Event)
    (hheard : event.HeardAlike e.host e'.host) :
    Matching Twin (event.act e) (event.act e') := by
  cases event with
  | step => exact (matching_step_twin h).bind fun w => Act.agree_pure (some w)
  | tick => exact .ok (twin_tick h)
  | press name => exact (matching_press_twin h hheard).bind fun _ => Act.agree_pure none
  | release name => exact (matching_release_twin h name).bind fun _ => Act.agree_pure none
  | setKey code => exact .ok (h.mapMachine fun _ => rfl)
  | reset => exact (agree_reset_twin e e' h).bind fun _ => Act.agree_pure none
  | loadRom data => exact (agree_loadRom_twin data e e' h).bind fun _ => Act.agree_pure none

/-- Whatever hosts hear, twins stay twins. -/
theorem twin_after (h : e.Twin e') (event : Event) : (e.after event).Twin (e'.after event) := by
  by_cases hheard : event.HeardAlike e.host e'.host
  · exact (matching_event_twin h event hheard).state
  · cases event with
    | press name =>
      have hkeys := Keyboard.fst_press name e.machine.keyboard e.host e'.host
      rw [after_press, after_press, press, stateOf_onKeyboard, stateOf_onKeyboard, ← h.machine]
      exact h.withKeyboard hkeys (Host.twin_of_log h.host (Keyboard.exists_logged_of_press name _)
        (Keyboard.exists_logged_of_press name _))
    | _ => exact absurd trivial hheard

/-- What leaves the keyboard alone and prints a message at most leaves a twin. -/
theorem twin_onKeyboard_of_fst (h : e.Twin e') {act : Act (Keyboard × Host) Unit}
    (hkeyboard : ∀ s, (stateOf (act s)).1 = s.1)
    (hlog : ∀ s, (stateOf (act s)).2 = s.2 ∨
      ∃ category message, (stateOf (act s)).2 = s.2.logged category message) :
    (stateOf (onKeyboard act e)).Twin e' := by
  rw [stateOf_onKeyboard]
  exact h.withKeyboard (t := (e'.machine.keyboard, e'.host))
    ((hkeyboard _).trans (congrArg Machine.keyboard h.machine))
    (Host.twin_of_log h.host (hlog _) (Or.inl rfl))

/-- Host keys that stand for no key leave twins. -/
theorem twin_after_key_of_unmapped (h : e.Twin e') {name : Text}
    (hname : PadKey.ofName? name = none) :
    (e.after (.press name)).Twin e' ∧ (e.after (.release name)).Twin e' := by
  rw [after_press, after_release]
  exact ⟨twin_onKeyboard_of_fst h (Keyboard.fst_press_of_unmapped hname)
      (Keyboard.exists_logged_of_press name),
    twin_onKeyboard_of_fst h (Keyboard.fst_release_of_unmapped hname)
      (Keyboard.exists_logged_of_release name)⟩

theorem twin_present (h : e.Twin e') :
    (e.withStage (Display.present e.stage)).Twin (e'.withStage (Display.present e'.stage)) :=
  h.withStage (Display.sameOn_present (Host.keptByCalls_twin _) h.stage)

end Emulator

end Chip8
