/-
  The edges of the tone. A tick asks the audio for the tone or for silence, whatever it asked for
  before; a beeper goes to its channel only where this changes, to play or to stop
  (`Beeper.edge`, `Audio.coupled_drive`), and nothing but a tick goes to it at all. So a beeper
  plays as the last tick asked it to, however the timer was set or reset since (`coupled_run`), as
  long as the mixer gives it a channel. The main statement is `edges_of_run`.
-/
import Chip8.Proofs.Machine.Countdown

namespace Chip8

/-! ## Requests to a channel -/

/-- A request to a channel of the mixer. -/
def HostCall.isChannel : HostCall → Bool
  | playLooped | volume .. | stopChannel => true
  | _ => false

theorem HostCall.isChannel_of_isShowing {c : HostCall} (h : c.isShowing = true) :
    c.isChannel = false := by
  cases c <;> first | rfl | cases h

namespace Host

/-- The requests to channels so far, in order. -/
def channelCalls (h : Host) : List HostCall := h.calls.toList.filter HostCall.isChannel

/-- So much was asked of channels, and these answers are left about free ones. -/
def HasChannels (calls : List HostCall) (channels : List Bool) (h : Host) : Prop :=
  h.channelCalls = calls ∧ h.channels = channels

variable {calls : List HostCall} {channels : List Bool}

theorem channelCalls_call (h : Host) {c : HostCall} (hc : c.isChannel = true) :
    (h.call c).channelCalls = h.channelCalls ++ [c] := by
  simp [channelCalls, call, hc]

theorem channelCalls_call_other (h : Host) {c : HostCall} (hc : c.isChannel = false) :
    (h.call c).channelCalls = h.channelCalls := by
  simp [channelCalls, call, hc]

theorem channelCalls_play (h : Host) (level : Binary64) :
    ((h.call .playLooped).call (.volume level)).channelCalls =
      h.channelCalls ++ [.playLooped, .volume level] := by
  rw [channelCalls_call _ rfl, channelCalls_call _ rfl, List.append_assoc]
  rfl

theorem HasChannels.log {h : Host} (category message : Text) (hh : h.HasChannels calls channels) :
    (h.logged category message).HasChannels calls channels := by
  unfold HasChannels channelCalls
  rw [calls_logged, (h.quietly_log category message).channels]
  exact hh

theorem HasChannels.call {h : Host} {c : HostCall} (hc : c.isChannel = false)
    (hh : h.HasChannels calls channels) : (h.call c).HasChannels calls channels :=
  ⟨(h.channelCalls_call_other hc).trans hh.1, hh.2⟩

/-- What a machine shows is nothing to the channels. -/
theorem isPainted_hasChannels (calls : List HostCall) (channels : List Bool) :
    IsPainted fun s : Display × Host => s.2.HasChannels calls channels :=
  isPainted_of_calls (fun _ category message hh => hh.log category message)
    fun _ _ hc hh => hh.call (HostCall.isChannel_of_isShowing hc)

/-- If a channel is always free, the mixer gives one. -/
theorem findChannel_of_free {h : Host} (hfree : ∀ found ∈ h.channels, found = true) :
    h.findChannel = (true, { h with channels := h.channels.tail }.call (.findChannel true)) := by
  have hfound : h.channels.head?.getD true = true := by
    cases hchannels : h.channels with
    | nil => rfl
    | cons found rest => exact hfree found (by simp [hchannels])
  unfold findChannel
  rw [hfound]

end Host

/-! ## A beeper on its channel -/

/-- What a beeper asks of its channel, by whether the tone was on before and is on now. -/
def Beeper.edge (b : Beeper) : Bool → Bool → List HostCall
  | false, true => [.playLooped, .volume b.volume]
  | true, false => [.stopChannel]
  | false, false | true, true => []

namespace Audio

/-- The audio is the beeper with its wave, playing or not, and with a channel where it plays; a
channel is always free. -/
structure IsCoupled (b : Beeper) (wave : SquareWave) (on : Bool) (s : Audio × Host) : Prop where
  audio : ∃ channel, s.1 = .beeper { b with sound := some wave, channel, playing := on } ∧
    (on = true → channel = true)
  free : ∀ found ∈ s.2.channels, found = true

variable {b : Beeper} {wave : SquareWave} {on : Bool} {s : Audio × Host}

theorem coupled_start (h : IsCoupled b wave on s) : IsCoupled b wave true (start s) ∧
    (start s).2.channelCalls = s.2.channelCalls ++ b.edge on true := by
  obtain ⟨a, host⟩ := s
  obtain ⟨⟨channel, rfl, hchannel⟩, hfree⟩ := h
  -- a beeper that plays already does nothing, and one without a channel asks the mixer first
  cases on with
  | true => exact ⟨⟨⟨channel, rfl, hchannel⟩, hfree⟩, (List.append_nil _).symm⟩
  | false =>
    cases channel with
    | true => exact ⟨⟨⟨true, rfl, fun _ => rfl⟩, hfree⟩, host.channelCalls_play b.volume⟩
    | false =>
      let found := { host with channels := host.channels.tail }.call (.findChannel true)
      have hstart : start
          (.beeper { b with sound := some wave, channel := false, playing := false },
          host) = (.beeper { b with sound := some wave, channel := true, playing := true },
            (found.call .playLooped).call (.volume b.volume)) := by
        simp [start, Beeper.start, Host.findChannel_of_free hfree, found]
      have hfound : found.channelCalls = host.channelCalls := Host.channelCalls_call_other _ rfl
      rw [hstart]
      refine ⟨⟨⟨true, rfl, fun _ => rfl⟩, fun c hc => hfree c (List.mem_of_mem_tail hc)⟩, ?_⟩
      exact (found.channelCalls_play b.volume).trans (by rw [hfound]; rfl)

theorem coupled_stop (h : IsCoupled b wave on s) : IsCoupled b wave false (stop s) ∧
    (stop s).2.channelCalls = s.2.channelCalls ++ b.edge on false := by
  obtain ⟨a, host⟩ := s
  obtain ⟨⟨channel, rfl, hchannel⟩, hfree⟩ := h
  cases on with
  | true =>
    obtain rfl := hchannel rfl
    exact ⟨⟨⟨true, rfl, nofun⟩, hfree⟩, host.channelCalls_call rfl⟩
  | false => exact ⟨⟨⟨channel, rfl, hchannel⟩, hfree⟩, (List.append_nil _).symm⟩

/-- A tick goes to the channel where the tone changes. -/
theorem coupled_drive (h : IsCoupled b wave on s) (sound : Int) :
    IsCoupled b wave (decide (0 < sound)) (drive sound s) ∧
      (drive sound s).2.channelCalls = s.2.channelCalls ++ b.edge on (decide (0 < sound)) := by
  unfold drive
  by_cases hsound : 0 < sound
  · rw [if_pos hsound, decide_eq_true hsound]
    exact coupled_start h
  · rw [if_neg hsound, decide_eq_false hsound]
    exact coupled_stop h

end Audio

/-! ## Along a run -/

/-- Whether the last tick, if there was one, left the sound timer above zero. -/
def Moment.lastSounding (moments : List (Moment Display)) : Bool :=
  (soundings moments).getLast?.getD false

theorem Moment.lastSounding_append (moments : List (Moment Display)) (m : Moment Display) :
    lastSounding (moments ++ [m]) = m.sounding?.getD (lastSounding moments) := by
  unfold lastSounding
  rw [soundings_append, soundings_singleton]
  cases m.sounding? <;> simp

namespace Emulator

open Moment

variable {e : Emulator Display} {fr : Display} {b : Beeper} {wave : SquareWave} {on : Bool}

theorem coupled_tick (h : Audio.IsCoupled b wave on (e.machine.audio, e.host)) :
    let now := decide (0 < (e.after .tick).machine.cpu.sound)
    Audio.IsCoupled b wave now ((e.after .tick).machine.audio, (e.after .tick).host) ∧
      (e.after .tick).host.channelCalls = e.host.channelCalls ++ b.edge on now := by
  intro now
  obtain ⟨message, haudio, hhost⟩ := exists_after_tick e
  obtain ⟨hcoupled, hcalls⟩ := Audio.coupled_drive h (e.after .tick).machine.cpu.sound
  rw [haudio, hhost]
  have hlog := Host.HasChannels.log "timer" message ⟨hcalls, rfl⟩
  exact ⟨⟨hcoupled.audio, hlog.2.symm ▸ hcoupled.free⟩, hlog.1⟩

/-- Nothing but a tick goes to a channel. -/
theorem hasChannels_after (h : e.IsSound 0x1002 fr) {event : Event} (hevent : event ≠ .tick) :
    (e.after event).host.HasChannels e.host.channelCalls e.host.channels :=
  (keeps_event_staged_of_ne_tick (Host.isPainted_hasChannels _ _) hevent e
    ⟨h.bounded.table, h.bounded.hint, rfl, rfl⟩).shown

/-- A beeper plays if the last tick asked it to. -/
theorem coupled_run (h : e.IsSound 0x1002 fr)
    (hstart : Audio.IsCoupled b wave false (e.machine.audio, e.host)) (events : List Event) :
    Audio.IsCoupled b wave (lastSounding (e.moments events))
      ((e.run events).machine.audio, (e.run events).host) := by
  refine sound_history (P := fun moments s =>
    Audio.IsCoupled b wave (lastSounding moments) (s.machine.audio, s.host))
    h hstart (fun moments s event hs hcoupled => ?_) events
  rw [lastSounding_append]
  by_cases htick : event = .tick
  · subst htick
    exact (coupled_tick hcoupled).1
  · have hnone : (⟨event, s⟩ : Moment Display).sounding? = none := if_neg htick
    rw [hnone, audio_after hs.bounded.table htick]
    refine ⟨hcoupled.audio, ?_⟩
    rw [(hasChannels_after hs htick).2]
    exact hcoupled.free

end Emulator

section

variable {config : MachineConfig Display} {host host' : Host} {e : Emulator Display} {b : Beeper}

/-- A machine that was set up has its beeper ready and silent, and has gone to no channel. -/
theorem Machine.coupled_of_create (h : Machine.create config host = .ok e host')
    (hbeeper : config.audio = .beeper b) (hfree : ∀ found ∈ host.channels, found = true) :
    (∃ wave, Audio.IsCoupled b wave false (e.machine.audio, e.host)) ∧
      e.host.channelCalls = host.channelCalls := by
  have hhost : e.host.HasChannels host.channelCalls host.channels :=
    Machine.holds_create (fun _ category message hh => hh.log category message)
      (fun _ _ hc hh => hh.call (HostCall.isChannel_of_isShowing hc)) (fun _ _ hh => hh.call rfl)
      (fun _ _ hh => hh.call rfl) ⟨rfl, rfl⟩ h
  obtain ⟨display, audio, -, haudio, hsame, -⟩ := Machine.has_of_create h
  rw [hbeeper] at haudio
  obtain ⟨wave, hready⟩ := Audio.of_powerOn_beeper haudio
  refine ⟨⟨wave, ⟨b.channel, hsame.trans hready, nofun⟩, ?_⟩, hhost.1⟩
  rw [hhost.2]
  exact hfree

open Moment

/-- A machine with a beeper, on a mixer that always gives a channel. Setting it up asks nothing of
a channel. A tick asks the channel to play the beeper's sound over and over and sets its volume if
it leaves the sound timer above zero and the tick before did not, asks it to stop if it is the
other way round, and asks nothing if both are alike; before the first tick the tone counts as off.
Nothing else that happens goes to a channel, and the beeper plays if the last tick left the sound
timer above zero. -/
theorem edges_of_run (h : Machine.create config host = .ok e host')
    (hbeeper : config.audio = .beeper b) (hfree : ∀ found ∈ host.channels, found = true) :
    e.host.channelCalls = host.channelCalls ∧
    ∃ wave, ∀ events,
      let s := e.run events
      let before := lastSounding (e.moments events)
      let now := decide (0 < (s.after .tick).machine.cpu.sound)
      (∃ channel, s.machine.audio =
        .beeper { b with sound := some wave, channel, playing := before }) ∧
      (s.after .tick).host.channelCalls = s.host.channelCalls ++ b.edge before now ∧
      ∀ event, event ≠ .tick → (s.after event).host.channelCalls = s.host.channelCalls := by
  obtain ⟨⟨wave, hstart⟩, hquiet⟩ := Machine.coupled_of_create h hbeeper hfree
  have hfresh := Machine.fresh_of_create h
  refine ⟨hquiet, wave, fun events => ?_⟩
  have hsound := Emulator.sound_run hfresh.isSound events
  have hcoupled := Emulator.coupled_run hfresh.isSound hstart events
  obtain ⟨channel, haudio, -⟩ := hcoupled.audio
  exact ⟨⟨channel, haudio⟩, (Emulator.coupled_tick hcoupled).2,
    fun event hevent => (Emulator.hasChannels_after hsound hevent).1⟩

/-- The first tick after the sound timer is set to three plays the tone. -/
theorem edges_of_run_chime : ∃ (e : Emulator Display) (host' : Host), Machine.create
      { display := Display.bitmap (FrameBuffer.blank 8 4), audio := .beeper .standard,
        rom := chime } {} = .ok e host' ∧
    (e.run [.step, .step]).host.channelCalls = [] ∧
    (e.run [.step, .step, .tick]).host.channelCalls =
      [.playLooped, .volume Beeper.standard.volume] ∧
    (e.run [.step, .step, .tick]).machine.audio.isPlaying = true := by
  obtain ⟨e, host', h, hmemory, -⟩ := Machine.exists_create
    { display := Display.bitmap (FrameBuffer.blank 8 4), audio := .beeper .standard,
      rom := chime } {} rfl rfl rfl (by decide)
  obtain ⟨hnone, wave, hrun⟩ := edges_of_run h rfl (by simp)
  have hquiet : (e.run [.step, .step]).host.channelCalls = [] :=
    ((hrun [.step]).2.2 .step nofun).trans (((hrun []).2.2 .step nofun).trans hnone)
  have htwo : (e.run [.step, .step, .tick]).machine.cpu.sound = 2 :=
    congrArg Cpu.countDown (sound_chime h hmemory)
  have hloud : decide (0 < (e.run [.step, .step, .tick]).machine.cpu.sound) = true := by
    rw [htwo]
    rfl
  obtain ⟨-, hedge, -⟩ := hrun [.step, .step]
  change (e.run [.step, .step, .tick]).host.channelCalls = _ ++ Beeper.standard.edge false
    (decide (0 < (e.run [.step, .step, .tick]).machine.cpu.sound)) at hedge
  rw [hquiet, hloud] at hedge
  obtain ⟨channel, haudio⟩ := (hrun [.step, .step, .tick]).1
  refine ⟨e, host', h, hquiet, hedge, ?_⟩
  rw [haudio]
  exact hloud

end

end Chip8
