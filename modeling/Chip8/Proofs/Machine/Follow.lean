/-
  A machine that goes along with another one. `Follows` relates a machine that runs after it was
  set up to a second one on another host, that is alike and sounds the same, and whose host was
  asked for what the audio knows. Steps, ticks and keys keep this when they happen to both
  (`Follows.step`, `Follows.tick`, `Follows.press`, `Follows.release`). The second machine
  may also ask for what has nothing to do with the tone, and show its window
  (`Follows.quietly`, `Follows.present`).
-/
import Chip8.Proofs.Machine.Alike
import Chip8.Proofs.Machine.Frame
import Chip8.Proofs.Machine.Quiet

namespace Chip8

namespace Emulator

theorem IsReachable.after {e : Emulator Display} (h : e.IsReachable) (event : Event) :
    (e.after event).IsReachable := by
  obtain ⟨config, host, host', start, events, hcount, hcreate, rfl⟩ := h
  exact ⟨config, host, host', start, events ++ [event], hcount, hcreate,
    (run_append start events event).symm⟩

/-- The second machine goes along with the first one, which has run since it was set up. Since
the calls of before, the second host was asked for tones as its audio knows; its console still
has the given lines. -/
structure Follows (before : List HostCall) (console : List (Option Text))
    (e e' : Emulator Display) : Prop where
  reachable : e.IsReachable
  keypad : ∃ pad, e.machine.keyboard = .keypad pad
  alike : e.Alike e'
  tone : Audio.SameTone (e.machine.audio, e.host) (e'.machine.audio, e'.host)
  tuned : Audio.IsTuned before (e'.machine.audio, e'.host)
  console : e'.host.console = console
  output : e.host.SameOutput e'.host

namespace Follows

variable {before : List HostCall} {console : List (Option Text)} {e e' : Emulator Display}

theorem table (h : e.Follows before console e') :
    e.machine.table = some standardTable ∧ e'.machine.table = some standardTable :=
  ⟨h.reachable.isBounded.table, h.alike.table ▸ h.reachable.isBounded.table⟩

theorem hint (h : e.Follows before console e') :
    e.machine.hint = Number.one ∧ e'.machine.hint = Number.one :=
  ⟨h.reachable.isBounded.hint, h.alike.hint ▸ h.reachable.isBounded.hint⟩

/-- The second machine does not mind another display of the same cells, nor quiet requests. -/
theorem quietly (h : e.Follows before console e') {m : Machine Display} {host : Host}
    (hm : e'.machine.Alike m) (haudio : m.audio = e'.machine.audio)
    (hq : e'.host.AsksQuietly host) : e.Follows before console ⟨m, host⟩ where
  reachable := h.reachable
  keypad := h.keypad
  alike := h.alike.trans hm
  tone := ⟨h.tone.1.trans haudio.symm, h.tone.2.trans hq.channels.symm⟩
  tuned := by
    rw [haudio]
    exact h.tuned.asks hq.asks
  console := hq.console.trans h.console
  output := h.output.trans hq.output

theorem present (h : e.Follows before console e') :
    e.Follows before console (e'.withStage (Display.present e'.stage)) := by
  have hq := Display.quietly_present e'.stage
  obtain ⟨⟨cpu, executed, memory, display, keyboard, audio, random, table, hint⟩, host⟩ := e'
  refine h.quietly ?_ rfl hq
  cases display with
  | window w =>
    have hshown : (Display.present (.window w, host)).1.cells? = some w.bitmap ∧
        (Display.present (.window w, host)).1.isOversized = (Display.window w).isOversized := by
      change (Display.window (Window.present (w, host)).1).cells? = _ ∧
        (Display.window (Window.present (w, host)).1).isOversized = _
      unfold Window.present
      dsimp only
      split <;> exact ⟨rfl, rfl⟩
    exact { Machine.Alike.refl _ with cells := hshown.1.symm, oversized := hshown.2.symm }
  | _ => exact .refl _

theorem withConsole (h : e.Follows before console e') (rest : List (Option Text)) :
    e.Follows before rest (e'.mapHost fun host => { host with console := rest }) :=
  { h with
    tuned := h.tuned.asks (.of_calls_eq rfl)
    console := rfl }

/-! ## Events -/

/-- Acts that match and leave the audio alone, asking quietly. -/
theorem of_matching {α : Type} {r r' : EStateM.Result Fault (Emulator Display) α}
    (h : e.Follows before console e') (hmatch : Matching Alike r r')
    (hreachable : (stateOf r).IsReachable)
    (hkeypad : ∃ pad, (stateOf r).machine.keyboard = .keypad pad)
    (haudio : (stateOf r).machine.audio = e.machine.audio)
    (haudio' : (stateOf r').machine.audio = e'.machine.audio)
    (hq : e.host.AsksQuietly (stateOf r).host) (hq' : e'.host.AsksQuietly (stateOf r').host) :
    Matching (Follows before console) r r' := by
  let left (s : Emulator Display) : Prop := s.IsReachable ∧
    (∃ pad, s.machine.keyboard = .keypad pad) ∧ s.machine.audio = e.machine.audio ∧
    e.host.AsksQuietly s.host
  let right (t : Emulator Display) : Prop := t.machine.audio = e'.machine.audio ∧
    e'.host.AsksQuietly t.host
  have hboth : Matching (fun s t => s.Alike t ∧ left s ∧ right t) r r' :=
    hmatch.and_states ⟨hreachable, hkeypad, haudio, hq⟩ ⟨haudio', hq'⟩
  refine hboth.mono ?_
  rintro s t ⟨halike, ⟨hreachable, hkeypad, haudio, hq⟩, haudio', hq'⟩
  exact
    { reachable := hreachable
      keypad := hkeypad
      alike := halike
      tone := ⟨haudio.trans (h.tone.1.trans haudio'.symm),
        hq.channels.trans (h.tone.2.trans hq'.channels.symm)⟩
      tuned := by
        rw [haudio']
        exact h.tuned.asks hq'.asks
      console := hq'.console.trans h.console
      output := (hq.output.symm.trans h.output).trans hq'.output }

theorem step (h : e.Follows before console e') :
    Matching (Follows before console) (step e) (step e') := by
  refine h.of_matching
    (matching_step_alike h.alike h.reachable.isBounded h.reachable.isCountable)
    (after_step e ▸ h.reachable.after .step) ?_ (audio_step h.table.1) (audio_step h.table.2)
    (quietly_step h.table.1 h.hint.1) (quietly_step h.table.2 h.hint.2)
  rw [keyboard_step h.table.1]
  exact h.keypad

theorem tick (h : e.Follows before console e') : e.tick.Follows before console e'.tick where
  reachable := h.reachable.after .tick
  keypad := h.keypad
  alike := alike_tick h.alike
  tone := by
    have hsound : e.machine.cpu.tick.sound = e'.machine.cpu.tick.sound := by rw [h.alike.cpu]
    have hdriven : Audio.SameTone
        (Audio.drive e.machine.cpu.tick.sound (e.machine.audio, e.host))
        (Audio.drive e'.machine.cpu.tick.sound (e'.machine.audio, e'.host)) := by
      rw [← hsound]
      exact Audio.sameTone_drive _ h.tone
    refine ⟨hdriven.1, ?_⟩
    change ((Audio.drive _ _).2.logged _ _).channels = ((Audio.drive _ _).2.logged _ _).channels
    rw [(Host.quietly_log ..).channels, (Host.quietly_log ..).channels]
    exact hdriven.2
  tuned := (Audio.tuned_drive e'.machine.cpu.tick.sound h.tuned).asks (Host.quietly_log ..).asks
  console := by
    change ((Audio.drive _ _).2.logged _ _).console = console
    rw [(Host.quietly_log ..).console, Audio.console_drive]
    exact h.console
  output := ((sameOutput_tick e).symm.trans h.output).trans (sameOutput_tick e')

/-- Keys from the host print a message at most, and a keypad takes them. -/
theorem onKeyboard (h : e.Follows before console e') {act : Act (Keyboard × Host) Unit}
    {event : Event} (hact : event.act e = (Emulator.onKeyboard act >>= fun _ => pure none) e)
    (hmatch : Matching (fun s t : Keyboard × Host => s.1 = t.1) (act (e.machine.keyboard, e.host))
      (act (e.machine.keyboard, e'.host)))
    (hlog : ∀ s, (stateOf (act s)).2 = s.2 ∨
      ∃ category message, (stateOf (act s)).2 = s.2.logged category message)
    (htaken : ∀ pad, ∃ pad' host', act (.keypad pad, e.host) = .ok () (.keypad pad', host')) :
    ∃ e₁, Emulator.onKeyboard act e' = .ok () e₁ ∧
      (⟨event, e⟩ : Moment Display).answer = .ok none ∧
      (e.after event).Follows before console e₁ := by
  have hquiet (e : Emulator Display) :
      (stateOf (Emulator.onKeyboard act e)).machine.audio = e.machine.audio ∧
        e.host.AsksQuietly (stateOf (Emulator.onKeyboard act e)).host := by
    rw [stateOf_onKeyboard]
    exact ⟨rfl, Host.quietly_of_log (hlog (e.machine.keyboard, e.host))⟩
  have hafter : e.after event = stateOf (Emulator.onKeyboard act e) := by
    rw [after, hact]
    exact Act.stateOf_bind_pure _ (fun _ => none) e
  obtain ⟨pad, hpad⟩ := h.keypad
  obtain ⟨pad', host', hok⟩ := htaken pad
  have hright : Emulator.onKeyboard act e = .ok () (e.withKeyboard (.keypad pad', host')) := by
    unfold Emulator.onKeyboard Act.within
    dsimp only
    rw [hpad, hok]
    rfl
  have hfollows := h.of_matching (matching_onKeyboard h.alike hmatch)
    (hafter ▸ h.reachable.after event) ⟨pad', by rw [hright]; rfl⟩ (hquiet e).1 (hquiet e').1
    (hquiet e).2 (hquiet e').2
  obtain ⟨e₁, hfollows, hok'⟩ := hfollows.of_ok hright
  refine ⟨e₁, hok', ?_, ?_⟩
  · rw [Moment.answer, hact, Act.bind_ok hright]
    rfl
  · rw [hafter, hright]
    exact hfollows

/-- A press that can be told. -/
theorem press (h : e.Follows before console e') {name : Text}
    (hcan : Keypad.CanTellPress name e.host) :
    ∃ e₁, Emulator.press name e' = .ok () e₁ ∧
      (⟨.press name, e⟩ : Moment Display).answer = .ok none ∧
      (e.after (.press name)).Follows before console e₁ :=
  h.onKeyboard rfl (Keyboard.matching_press (.of_sameOutput h.output) _)
    (Keyboard.exists_logged_of_press name) (Keyboard.exists_press_of_canTellPress hcan)

theorem release (h : e.Follows before console e') (name : Text) :
    ∃ e₁, Emulator.release name e' = .ok () e₁ ∧
      (⟨.release name, e⟩ : Moment Display).answer = .ok none ∧
      (e.after (.release name)).Follows before console e₁ :=
  h.onKeyboard rfl (Keyboard.matching_release name _ _ _) (Keyboard.exists_logged_of_release name)
    fun _ => ⟨_, _, rfl⟩

end Follows

end Emulator

end Chip8
