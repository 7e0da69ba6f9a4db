/-
  Running with a host and without. A machine with a bitmap that counts its tones needs nothing
  of a host; a machine with a window and a beeper needs a toolkit and a mixer that is ready. If
  these work and the window's scale is below 2^53, setting up answers the same for both, and the
  machines run alike (`alike_of_create`).
-/
import Chip8.Proofs.Display.Surface
import Chip8.Proofs.Machine.Alike

namespace Chip8

namespace Window

theorem isOversized_of_lt {w : Window} (hscale : w.scale < 2 ^ 53) :
    (Display.window w).isOversized = false := by
  have hle : Binary64.twoTo 53 ≤ Binary64.overflowBound := by
    have hdouble : Binary64.twoTo 54 = 2 * Binary64.twoTo 53 := Binary64.twoTo_succ 53
    have hpos := Binary64.twoTo_pos 53
    unfold Binary64.overflowBound
    exact Nat.le_trans (by omega) (Nat.le_mul_of_pos_right _ (Binary64.twoTo_pos 970))
  have hlt : w.scale < Binary64.overflowBound := Nat.lt_of_lt_of_le hscale hle
  simp [Display.isOversized, hlt]

end Window

namespace Beeper

/-- Readying the beeper does not look at what was asked of the host before. -/
theorem matching_powerOn_flushed (b : Beeper) {h h' : Host} (hflush : h'.flush = h.flush) :
    Matching (Host.SameOn fun h₁ h₂ => h₁.flush = h.flush ∧ h₂.flush = h.flush)
      (powerOn (b, h)) (powerOn (b, h')) := by
  have htoolkit : h.toolkit = h'.toolkit := (congrArg Host.toolkit hflush.symm :)
  have hmixer : h.mixerRate = h'.mixerRate := (congrArg Host.mixerRate hflush.symm :)
  have hlogging : h.isLogging "audio" = h'.isLogging "audio" :=
    (congrArg (·.isLogging "audio") hflush.symm :)
  refine matching_powerOn (fun _ hsame => hsame) ?_ ⟨rfl, hflush⟩ htoolkit hmixer (.inl hlogging)
  intro h₁ h₂ text hsame
  rwa [Host.flush_logged, Host.flush_logged]

theorem toolkit_of_powerOn {b : Beeper} {h : Host} {s : Beeper × Host}
    (hs : powerOn (b, h) = .ok () s) : h.toolkit = true := by
  by_contra htoolkit
  unfold powerOn at hs
  rw [Act.get_bind] at hs
  dsimp only at hs
  simp only [Bool.not_eq_true] at htoolkit
  rw [htoolkit] at hs
  cases hs

end Beeper

namespace Emulator

/-- Once the displays and the audio are readied, setting up goes on alike. -/
theorem matching_powerOn {f : FrameBuffer} {w : Window} {tones : ToneCounter} {b : Beeper}
    {keyboard : Keyboard} {host host' : Host} (seed : Setting Int) (rom : List Byte)
    (hf : f.clear = w.bitmap.clear) (hscale : w.scale < 2 ^ 53)
    (hbytes : host.randomBytes = host'.randomBytes)
    (hsound : ∃ s, Beeper.powerOn (b, host') = .ok () s) :
    Matching Alike (powerOn seed rom (unready (.bitmap f) keyboard (.counter tones) host))
      (powerOn seed rom (unready (.window w) keyboard (.beeper b) host')) := by
  obtain ⟨s, hs⟩ := hsound
  obtain ⟨host₁, hopen, hflush, -⟩ :=
    Window.exists_powerOn (w := w) (Beeper.toolkit_of_powerOn hs) hscale
  obtain ⟨t, ⟨-, -, hflush'⟩, ht⟩ := (Beeper.matching_powerOn_flushed b hflush).of_ok hs
  let opened := Display.window { w with opened := true, dirty := true, bitmap := w.bitmap.clear }
  let plain := unready (.bitmap f.clear) keyboard.reset (.counter tones.powerOn) host
  let shown := unready opened keyboard.reset (.beeper t.1) t.2
  have hbeeper : Audio.powerOn (.beeper b, host₁) = .ok () (.beeper t.1, t.2) := by
    change resultWithin _ (Beeper.powerOn (b, host₁)) = _
    rw [ht]
    rfl
  have hwindow : Screen.powerOn (Display.window w, host') = .ok () (opened, host₁) := by
    change resultWithin _ (Window.powerOn (w, host')) = _
    rw [hopen]
    rfl
  have hplain := powerOn_of_ready (.bitmap f, host) (.counter tones) keyboard seed rom rfl rfl
  have hshown := powerOn_of_ready (.window w, host') (.beeper b) keyboard seed rom hwindow hbeeper
  have hover : opened.isOversized = false := Window.isOversized_of_lt hscale
  have halike : plain.Alike shown :=
    { cpu := rfl
      executed := rfl
      memory := rfl
      keyboard := rfl
      random := rfl
      table := rfl
      hint := rfl
      cells := congrArg some hf
      oversized := hover.symm }
  have hbytes' : plain.host.randomBytes = shown.host.randomBytes :=
    hbytes.trans (congrArg Host.randomBytes hflush').symm
  rw [hplain, hshown]
  have hseeded : Matching Alike (seedRandom seed plain) (seedRandom seed shown) :=
    matching_seedRandom_of halike seed hbytes' fun _ => { halike with random := rfl }
  exact hseeded.bind fun _ => agree_resetAndLoad agree_reset agree_loadRom rom

end Emulator

/-- A machine with a bitmap and a counter of tones, and one with a window and a beeper whose
toolkit and mixer work, are set up alike and run alike. -/
theorem alike_of_create (scale : Nat) (hscale : scale < 2 ^ 53) (palette : Palette)
    (fullscreen : Bool) (caption : Text) (tones : ToneCounter) (b : Beeper) (keyboard : Keyboard)
    (rom : List Byte) (seed : Setting Int) (host host' : Host)
    (hbytes : host.randomBytes = host'.randomBytes)
    (hsound : ∃ s, Beeper.powerOn (b, host') = .ok () s) :
    let plain : MachineConfig Display :=
      { display := .bitmap (FrameBuffer.blank 64 32), keyboard, audio := .counter tones, rom, seed }
    let shown : MachineConfig Display :=
      { display := .window { scale, palette, fullscreen, caption }, keyboard, audio := .beeper b,
        rom, seed }
    (∃ fault h h', Machine.create plain host = .error fault h ∧
      Machine.create shown host' = .error fault h') ∨
    ∃ e h e' h', Machine.create plain host = .ok e h ∧ Machine.create shown host' = .ok e' h' ∧
      ∀ events : List Event,
        ((∀ event ∈ events, event.HeardAlike host host') →
          (e.moments events).map Moment.answer = (e'.moments events).map Moment.answer) ∧
        (e.run events).machine.cpu = (e'.run events).machine.cpu ∧
        (e.run events).machine.executed = (e'.run events).machine.executed ∧
        (e.run events).machine.memory = (e'.run events).machine.memory ∧
        ∃ f, (e.run events).machine.display.cells? = some f ∧
          (e'.run events).machine.display.cells? = some f ∧ f.width = 64 ∧ f.height = 32 := by
  intro plain shown
  have hmatch : Matching Emulator.Alike
      (Emulator.powerOn seed rom (Emulator.unready plain.display keyboard plain.audio host))
      (Emulator.powerOn seed rom (Emulator.unready shown.display keyboard shown.audio host')) :=
    Emulator.matching_powerOn seed rom rfl hscale hbytes hsound
  generalize hr : Emulator.powerOn seed rom (Emulator.unready plain.display _ _ _) = r at hmatch
  generalize hr' : Emulator.powerOn seed rom (Emulator.unready shown.display _ _ _) = r' at hmatch
  cases hmatch with
  | error halike =>
    exact Or.inl ⟨_, _, _, Machine.create_of_error hr, Machine.create_of_error hr'⟩
  | @ok _ e e' halike =>
    have hcreate : Machine.create plain host = .ok e e.host := Machine.create_of_ok hr
    have hcreate' : Machine.create shown host' = .ok e' e'.host := Machine.create_of_ok hr'
    have hout := Machine.sameOutput_of_create hcreate
    have hout' := Machine.sameOutput_of_create hcreate'
    refine Or.inr ⟨e, _, e', _, hcreate, hcreate', fun events => ?_⟩
    have hfresh := Machine.fresh_of_create hcreate
    have hcount : plain.display.IsCountable := by
      intro f hf
      cases hf
      exact FrameBuffer.isCountable_of_blank? (w := 64) (h := 32) rfl
    obtain ⟨hrun, hanswers⟩ := Emulator.alike_run halike hfresh.isSound
      ((Display.isCountable_frame_iff _).mpr (Display.isCountable_of_sides? hfresh.sides hcount))
      events
    obtain ⟨f, hf, hwidth, hheight⟩ :=
      Display.sides?_eq_some_iff.mp (Machine.sides_run_of_create hcreate events)
    exact ⟨fun hheard => hanswers fun event hmem => (hheard event hmem).congr hout hout', hrun.cpu,
      hrun.executed, hrun.memory, f, hf, hrun.cells ▸ hf, hwidth, hheight⟩

/-- A window of the usual scale and the usual beeper, on a host with everything, beside a bitmap. -/
theorem alike_of_create_standard : ∃ (e e' : Emulator Display) (host host' : Host),
    Machine.create { display := .bitmap (FrameBuffer.blank 64 32), rom := [0xD0, 0x05] } {} =
      .ok e host ∧
    Machine.create
      { display := .window (Window.ofScale 10), audio := .beeper .standard,
        rom := [0xD0, 0x05] } {} = .ok e' host' ∧
    (e.run [.step, .tick]).machine.cpu = (e'.run [.step, .tick]).machine.cpu := by
  obtain ⟨e₀, _, hcreate, -⟩ := Machine.exists_create
    { display := Display.bitmap (FrameBuffer.blank 64 32), rom := [0xD0, 0x05] } {} rfl rfl rfl
    (by decide)
  have halike := alike_of_create 10 (by decide) .monochrome false Window.standardCaption
    {} .standard (.latch 0) [0xD0, 0x05] .absent {} {} rfl ⟨_, rfl⟩
  obtain ⟨fault, h, h', hfail, -⟩ | ⟨e, host, e', host', h, h', hrun⟩ := halike
  · rw [hcreate] at hfail
    cases hfail
  · exact ⟨e, e', host, host', h, h', (hrun [.step, .tick]).2.1⟩

end Chip8
