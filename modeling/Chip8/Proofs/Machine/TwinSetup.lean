/-
  Setting machines up on twin hosts. A window tells its size as it is opened, and a beeper its
  sample rate, where somebody wants to know. This can fail only for a window whose size has more
  digits than a number may have. Where it does not, a machine with a window and a tone of the
  standard frequency is set up alike on twin hosts (`Machine.sameSetUp_create`).
-/
import Chip8.Proofs.Machine.Twins
import Chip8.Proofs.Rate

namespace Chip8

/-- Two results of setting something up: both worked, with related outcomes, or both failed alike
and left twin hosts. -/
inductive SameSetUp {σ : Type} (R : σ → σ → Prop) :
    EStateM.Result Fault Host σ → EStateM.Result Fault Host σ → Prop
  | ok {s t : σ} {h h' : Host} (hst : R s t) : SameSetUp R (.ok s h) (.ok t h')
  | error {fault : Fault} {h h' : Host} (htwin : h.Twin h') :
    SameSetUp R (.error fault h) (.error fault h')

/-- The size of the window can be told on both hosts, or both want to know it, or none. -/
def Window.SaysAlike (w : Window) (h h' : Host) : Prop :=
  h.isLogging "video" = h'.isLogging "video" ∨ w.size.1 < 10 ^ Numeral.decimalDigitLimit

namespace Window

theorem agree_clear_twin : Act.Agree (Host.SameOn Host.Twin) (modify clear) (modify clear) := by
  refine Act.agree_modify ?_
  rintro ⟨w, h⟩ ⟨_, h'⟩ ⟨rfl, htwin⟩
  refine ⟨rfl, ?_⟩
  unfold clear
  dsimp only
  split
  · exact htwin.call _
  · exact htwin

theorem matching_powerOn_twin {w : Window} {h h' : Host} (htwin : h.Twin h')
    (htold : w.SaysAlike h h') :
    Matching (Host.SameOn Host.Twin) (powerOn (w, h)) (powerOn (w, h')) := by
  unfold powerOn
  rw [Act.get_bind, Act.get_bind]
  dsimp only
  rw [htwin.toolkit]
  split
  · exact .error ⟨rfl, htwin⟩
  · let w₁ : Window := { w with opened := true }
    let opening (h : Host) : Host :=
      (h.call (.openWindow w.size.1 w.size.2 w.fullscreen)).call (.caption w.caption)
    have hopened : (opening h).Twin (opening h') := (htwin.call _).call _
    have hsize : (opening h).isLogging "video" = (opening h').isLogging "video" ∨
        ∃ text, w₁.sizeText = .ok text := htold.imp_right exists_sizeText
    change Matching _ ((logSize >>= fun _ => modify clear) (w₁, opening h))
      ((logSize >>= fun _ => modify clear) (w₁, opening h'))
    refine Matching.bind (R := Host.SameOn Host.Twin) ?_ fun _ => agree_clear_twin
    rw [logSize_eq, logSize_eq]
    exact Host.matching_tell (fun text hH => hH.log ..) ⟨rfl, hopened⟩ hsize

/-- A window whose size cannot be told is not opened where somebody wants to know it. -/
theorem exists_powerOn_error {w : Window} {h : Host} (htoolkit : h.toolkit = true)
    (hlogging : h.isLogging "video" = true) (hsize : 10 ^ Numeral.decimalDigitLimit ≤ w.size.1) :
    ∃ s, powerOn (w, h) = .error .numeralTooLong s := by
  let w₁ : Window := { w with opened := true }
  let h₁ := (h.call (.openWindow w.size.1 w.size.2 w.fullscreen)).call (.caption w.caption)
  have hfails : logSize (w₁, h₁) = .error .numeralTooLong (w₁, h₁) := by
    have htext : w₁.sizeText = .error .numeralTooLong := sizeText_of_le hsize
    rw [logSize_eq, htext]
    exact if_pos (show h₁.isLogging "video" = true from hlogging)
  have hend : (logSize >>= fun _ => modify clear) (w₁, h₁) = .error .numeralTooLong (w₁, h₁) :=
    Act.bind_error hfails
  unfold powerOn
  rw [Act.get_bind]
  dsimp only
  rw [htoolkit]
  exact ⟨_, hend⟩

end Window

namespace Audio

/-- The audio counts the tones, or it sounds them at the standard frequency. -/
def IsStandard : Audio → Prop
  | counter _ => True
  | beeper b => b.frequency = Beeper.standardFrequency

theorem matching_powerOn_twin {a : Audio} (ha : a.IsStandard) {h h' : Host} (htwin : h.Twin h') :
    Matching (Host.SameOn Host.Twin) (powerOn (a, h)) (powerOn (a, h')) := by
  cases a with
  | counter t => exact .ok ⟨rfl, htwin⟩
  | beeper b =>
    have hready := Beeper.matching_powerOn (H := Host.Twin) (fun wave hH => hH.call _)
      (fun text hH => hH.log ..) htwin htwin.toolkit htwin.mixerRate
      (.inr fun _ _ hwave => Beeper.exists_rateText (b := b) ha hwave)
    refine hready.resultWithin fun s t hst => ⟨?_, hst.2⟩
    rw [hst.1]

end Audio

namespace Emulator

variable {e e' : Emulator Display}

theorem agree_setUp_twin (seed : Setting Int) (rom : List Byte) :
    Act.Agree Twin (setUp seed rom) (setUp seed rom) := by
  refine Act.agree_bind (fun e e' h => ?_) fun _ =>
    agree_resetAndLoad agree_reset_twin agree_loadRom_twin rom
  exact matching_seedRandom_of h seed h.host.randomBytes fun _ => h.mapMachine fun _ => rfl

/-- Machines that are readied alike are switched on alike. -/
theorem matching_powerOn_twin (h : e.Twin e') (seed : Setting Int) (rom : List Byte)
    (hdisplay : Matching (Host.SameOn Host.Twin) (Screen.powerOn e.stage) (Screen.powerOn e'.stage))
    (haudio : e.machine.audio.IsStandard) :
    Matching Twin (powerOn seed rom e) (powerOn seed rom e') := by
  -- the beeper is readied after the display and the keys, which leave its frequency as it is
  let ready (s t : Emulator Display) : Prop := s.Twin t ∧ s.machine.audio.IsStandard
  have hopen : Matching ready (onDisplay Screen.powerOn e) (onDisplay Screen.powerOn e') :=
    hdisplay.resultWithin fun s t hst => ⟨h.withStage hst, haudio⟩
  have hkeyboard : Act.Agree ready
      (modify (mapMachine fun m => { m with keyboard := m.keyboard.reset }))
      (modify (mapMachine fun m => { m with keyboard := m.keyboard.reset })) :=
    Act.agree_modify fun s t hst => ⟨hst.1.mapMachine fun _ => rfl, hst.2⟩
  unfold powerOn
  refine hopen.bind_mono (fun _ _ hst => hst.1) fun _ s t hst => ?_
  refine (hkeyboard s t hst).bind_mono (fun _ _ hst => hst.1) fun _ s t ⟨htwin, hstandard⟩ => ?_
  refine Matching.bind ?_ fun _ => agree_setUp_twin seed rom
  have hready := Audio.matching_powerOn_twin hstandard htwin.host
  unfold Act.within
  dsimp only
  rw [← htwin.machine]
  exact hready.resultWithin fun _ _ hst => htwin.withAudio hst

end Emulator

/-- A machine with a window is set up alike on twin hosts. -/
theorem Machine.sameSetUp_create {config : MachineConfig Display} {w : Window}
    (hwindow : config.display = .window w) (haudio : config.audio.IsStandard) {h h' : Host}
    (htwin : h.Twin h') (htold : w.SaysAlike h h') :
    SameSetUp Emulator.Twin (Machine.create config h) (Machine.create config h') := by
  let unready (h : Host) : Emulator Display :=
    .unready config.display config.keyboard config.audio h
  have hpower : Matching Emulator.Twin (Emulator.powerOn config.seed config.rom (unready h))
      (Emulator.powerOn config.seed config.rom (unready h')) := by
    have htwins : (unready h).Twin (unready h') := ⟨rfl, htwin, rfl⟩
    refine Emulator.matching_powerOn_twin htwins _ _ ?_ haudio
    change Matching _ (Screen.powerOn (config.display, h)) (Screen.powerOn (config.display, h'))
    rw [hwindow]
    refine (Window.matching_powerOn_twin htwin htold).resultWithin fun s t hst => ⟨?_, hst.2⟩
    rw [hst.1]
  cases hr : Emulator.powerOn config.seed config.rom (unready h) with
  | ok a e =>
    obtain ⟨e', he, hr'⟩ := hpower.of_ok hr
    rw [Machine.create_of_ok hr, Machine.create_of_ok hr']
    exact .ok he
  | error fault e =>
    obtain ⟨e', he, hr'⟩ := hpower.of_error hr
    rw [Machine.create_of_error hr, Machine.create_of_error hr']
    exact .error he.host

end Chip8
