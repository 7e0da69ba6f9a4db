/-
  Who leaves the tone alone. Displays ask the host for paintings only, so an instruction makes
  quiet requests only (`Emulator.quietly_step`), and so do the host's keys. Setting a machine up
  makes quiet requests too, and leaves an audio that plays nothing (`Machine.quietly_create`).
-/
import Chip8.Proofs.Beeper
import Chip8.Proofs.Machine.Tone

namespace Chip8

namespace Host

theorem quietly_of_log {h h' : Host}
    (hlog : h' = h ∨ ∃ category message, h' = h.logged category message) : h.AsksQuietly h' := by
  obtain rfl | ⟨category, message, rfl⟩ := hlog
  · exact .refl h'
  · exact h.quietly_log category message

end Host

/-! ## Displays -/

theorem HostCall.isQuiet_of_isShowing {c : HostCall} (h : c.isShowing = true) :
    c.isQuiet = true := by
  cases c <;> first | rfl | cases h

/-- What a display asks for is quiet. -/
theorem Host.AsksQuietly.call_of_isShowing {h : Host} (h' : Host) (c : HostCall)
    (hc : c.isShowing = true) (hq : h.AsksQuietly h') : h.AsksQuietly (h'.call c) :=
  hq.trans (h'.quietly_call (HostCall.isQuiet_of_isShowing hc))

namespace Display

theorem quietly_present (s : Display × Host) : s.2.AsksQuietly (present s).2 :=
  holds_present Host.AsksQuietly.call_of_isShowing s (.refl s.2)

end Display

/-- Since a host, requests were quiet: nothing that a machine shows changes this. -/
theorem isPainted_quietly (h : Host) : IsPainted fun s : Display × Host => h.AsksQuietly s.2 :=
  isPainted_of_calls (fun h' category message hq => hq.trans (h'.quietly_log category message))
    Host.AsksQuietly.call_of_isShowing

/-! ## Audio -/

/-- A beeper that was readied has its wave, and does not play. -/
theorem Beeper.of_powerOn_ok {s t : Beeper × Host} (h : powerOn s = .ok () t) :
    ∃ wave, t.1 = { s.1 with sound := some wave, playing := false } := by
  obtain ⟨wave, hready, -⟩ := (endsIn_powerOn s).of_ok h
  exact ⟨wave, hready⟩

namespace Audio

theorem of_powerOn_beeper {b : Beeper} {host : Host} {t : Audio × Host}
    (h : powerOn (.beeper b, host) = .ok () t) :
    ∃ wave, t.1 = .beeper { b with sound := some wave, playing := false } := by
  change resultWithin _ (Beeper.powerOn (b, host)) = _ at h
  cases hp : Beeper.powerOn (b, host) with
  | ok a u =>
    rw [hp] at h
    cases h
    obtain ⟨wave, hready⟩ := Beeper.of_powerOn_ok hp
    exact ⟨wave, congrArg beeper hready⟩
  | error fault u =>
    rw [hp] at h
    cases h

theorem not_isPlaying_of_powerOn {s t : Audio × Host} (h : powerOn s = .ok () t) :
    t.1.isPlaying = false := by
  obtain ⟨a, host⟩ := s
  cases a with
  | counter c =>
    cases h
    rfl
  | beeper b =>
    obtain ⟨wave, hready⟩ := of_powerOn_beeper h
    rw [hready]
    rfl

end Audio

/-! ## Machines -/

namespace Emulator

variable {e e' : Emulator Display}

/-- An instruction asks for nothing about the tone. -/
theorem quietly_step (htable : e.machine.table = some standardTable)
    (hhint : e.machine.hint = Number.one) : e.host.AsksQuietly (stateOf (step e)).host :=
  (keeps_step_staged (isPainted_quietly e.host) e ⟨htable, hhint, .refl e.host⟩).shown

/-- A machine with the given audio and keyboard. -/
def Has (audio : Audio) (keyboard : Keyboard) (e : Emulator Display) : Prop :=
  e.machine.audio = audio ∧ e.machine.keyboard = keyboard

/-- Switching on ends with the audio that was readied and the keyboard without a key. -/
theorem has_of_powerOn {seed : Setting Int} {rom : List Byte} (h : powerOn seed rom e = .ok () e') :
    ∃ display audio, Screen.powerOn e.stage = .ok () display ∧
      Audio.powerOn (e.machine.audio, display.2) = .ok () audio ∧
      e'.Has audio.1 e.machine.keyboard.reset := by
  obtain ⟨display, audio, hdisplay, haudio, hrest⟩ := of_powerOn_ok h
  have hkeeps : Act.Keeps (Has audio.1 e.machine.keyboard.reset) (setUp seed rom) := by
    refine keeps_setUp (fun _ _ h => h) ?_ (fun data => ?_) seed rom
    · exact Act.keeps_bind (Act.keeps_modify fun _ h => h) fun _ =>
        Act.keeps_bind (Act.keeps_modify fun _ h => h) fun _ =>
          keeps_tryMemory _ fun _ _ h _ => h
    · exact Act.keeps_bind (keeps_tryMemory _ fun _ _ h _ => h) fun _ =>
        Act.keeps_modify fun _ h => h
  have hstart : Has audio.1 e.machine.keyboard.reset ⟨{ e.machine with
      display := display.1, keyboard := e.machine.keyboard.reset, audio := audio.1 }, audio.2⟩ :=
    ⟨rfl, rfl⟩
  exact ⟨display, audio, hdisplay, haudio, hkeeps.of_ok hstart hrest⟩

end Emulator

section

variable {config : MachineConfig Display} {host host' : Host} {e : Emulator Display}

/-- A machine that was set up has the audio that was readied and the keyboard without a key. -/
theorem Machine.has_of_create (h : Machine.create config host = .ok e host') :
    ∃ display audio, Screen.powerOn (config.display, host) = .ok () display ∧
      Audio.powerOn (config.audio, display.2) = .ok () audio ∧
      e.Has audio.1 config.keyboard.reset :=
  Emulator.has_of_powerOn (Machine.powerOn_of_create h)

/-- Setting a machine up makes quiet requests, plays nothing and presses no key. -/
theorem Machine.quietly_create (h : Machine.create config host = .ok e host') :
    host.AsksQuietly e.host ∧ e.machine.audio.isPlaying = false ∧
      e.machine.keyboard = config.keyboard.reset := by
  obtain ⟨display, audio, -, haudio, hsame, hkeyboard⟩ := Machine.has_of_create h
  refine ⟨?_, ?_, hkeyboard⟩
  · exact Machine.holds_create
      (fun h category message hq => hq.trans (h.quietly_log category message))
      Host.AsksQuietly.call_of_isShowing (fun _ _ hq => hq.trans (Host.quietly_call rfl _))
      (fun _ _ hq => hq.trans (Host.quietly_call rfl _)) (.refl host) h
  · rw [hsame]
    exact Audio.not_isPlaying_of_powerOn haudio

end

end Chip8
