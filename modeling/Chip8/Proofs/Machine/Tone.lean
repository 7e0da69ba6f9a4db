/-
  The tone on the host. It sounds from a request to play until the next request to stop
  (`Host.tone`), and a beeper knows whether it does (`Audio.IsTuned`); ticks keep this, and when the
  audio is shut down there is no tone (`Audio.tuned_shutdown`). What an audio does depends on the
  host's free channels alone (`Audio.sameTone_drive`). Instructions and
  keys ask for nothing about the tone (`Host.AsksQuietly`).
-/
import Chip8.Proofs.Machine.Stage

namespace Chip8

namespace Host

/-! ## Quiet requests -/

/-- The second host is the first one with more printed and more requests, all of them quiet. It
prints what the first one does. -/
structure AsksQuietly (h h' : Host) : Prop where
  asks : h.Asks HostCall.isQuiet h'
  channels : h'.channels = h.channels
  console : h'.console = h.console
  output : h.SameOutput h'

variable {before : List HostCall} {on : Bool} {h h' h'' : Host}

theorem AsksQuietly.refl (h : Host) : h.AsksQuietly h := ⟨.refl _ _, rfl, rfl, .refl _⟩

theorem AsksQuietly.trans (hq : h.AsksQuietly h') (hq' : h'.AsksQuietly h'') :
    h.AsksQuietly h'' :=
  ⟨hq.asks.trans hq'.asks, hq'.channels.trans hq.channels, hq'.console.trans hq.console,
    hq.output.trans hq'.output⟩

theorem quietly_call {c : HostCall} (hc : c.isQuiet = true) (h : Host) :
    h.AsksQuietly (h.call c) :=
  ⟨asks_call h hc, rfl, rfl, .refl _⟩

theorem quietly_put (h : Host) (text : Text) : h.AsksQuietly (h.put text) :=
  ⟨.of_calls_eq rfl, rfl, rfl, .refl _⟩

theorem quietly_log (h : Host) (category message : Text) :
    h.AsksQuietly (h.logged category message) := by
  rcases h.logged_cases category message with heq | heq
  · rw [heq]
    exact .refl h
  · rw [heq]
    exact h.quietly_put _

/-! ## The tone -/

/-- Whether the tone sounds after one more request. -/
def toneAfter (on : Bool) : HostCall → Bool
  | .playLooped => true
  | .stopChannel => false
  | _ => on

/-- Whether the tone sounds after the requests, from silence. -/
def tone (calls : List HostCall) : Bool := calls.foldl toneAfter false

theorem tone_append (calls : List HostCall) (c : HostCall) :
    tone (calls ++ [c]) = toneAfter (tone calls) c := by
  rw [tone, List.foldl_append]
  rfl

theorem toneAfter_of_isQuiet (on : Bool) {c : HostCall} (h : c.isQuiet = true) :
    toneAfter on c = on := by
  cases c <;> first | rfl | cases h

theorem tone_append_of_isQuiet (calls : List HostCall) {added : List HostCall}
    (h : ∀ c ∈ added, c.isQuiet = true) : tone (calls ++ added) = tone calls := by
  induction added using List.reverseRecOn with
  | nil => rw [List.append_nil]
  | append_singleton added c ih =>
    rw [← List.append_assoc, tone_append, toneAfter_of_isQuiet _ (h c (by simp))]
    exact ih fun c' hc' => h c' (List.mem_append_left _ hc')

/-- Since the requests of before, the host was not closed, and its tone is on or off. -/
def Sounds (before : List HostCall) (on : Bool) (h : Host) : Prop :=
  ∃ added, h.calls.toList = before ++ added ∧ .quit ∉ added ∧ tone added = on

theorem Sounds.start (h : Host) : h.Sounds h.calls.toList false :=
  ⟨[], by simp, by simp, rfl⟩

theorem Sounds.call (hs : h.Sounds before on) {c : HostCall} (hc : c ≠ .quit) :
    (h.call c).Sounds before (toneAfter on c) := by
  obtain ⟨added, hcalls, hopen, rfl⟩ := hs
  exact ⟨added ++ [c], by simp [Host.call, hcalls], by simp [hopen, hc.symm],
    tone_append added c⟩

theorem Sounds.asks (hs : h.Sounds before on) (hasks : h.Asks HostCall.isQuiet h') :
    h'.Sounds before on := by
  obtain ⟨added, hcalls, hopen, rfl⟩ := hs
  obtain ⟨more, hcalls', hquiet⟩ := hasks
  refine ⟨added ++ more, by rw [hcalls', hcalls, List.append_assoc], fun hquit => ?_,
    tone_append_of_isQuiet added hquiet⟩
  rcases List.mem_append.mp hquit with hquit | hquit
  · exact hopen hquit
  · cases hquiet _ hquit

end Host

/-! ## What the audio asks for -/

namespace Beeper

/-- Starting may ask for a channel, and then plays or does nothing. -/
theorem exists_start (b : Beeper) (h : Host) :
    ∃ h₁, h.Asks HostCall.isQuiet h₁ ∧ h₁.console = h.console ∧
      (start (b, h) = (b, h₁) ∨
        start (b, h) = ({ b with channel := true, playing := true },
          (h₁.call .playLooped).call (.volume b.volume))) := by
  unfold start
  dsimp only
  split
  · exact ⟨h, .refl _ _, rfl, .inl rfl⟩
  · split
    · exact ⟨h, .refl _ _, rfl, .inr rfl⟩
    · refine ⟨h.findChannel.2, ⟨[.findChannel (h.channels.head?.getD true)], ?_, ?_⟩, rfl, ?_⟩
      · simp [Host.findChannel, Host.call]
      · simp [HostCall.isQuiet]
      · split
        · exact .inr rfl
        · exact .inl rfl

end Beeper

namespace Audio

/-- Whether a tone was asked for that was not stopped. -/
def isPlaying : Audio → Bool
  | counter _ => false
  | beeper b => b.playing

/-- The audio after it is shut down. -/
def silenced : Audio → Audio
  | counter t => counter t
  | beeper b => beeper { b with playing := false, channel := false }

/-- The audio knows whether the tone sounds on its host, and a tone has a channel. -/
structure IsTuned (before : List HostCall) (s : Audio × Host) : Prop where
  sounds : s.2.Sounds before s.1.isPlaying
  channel : ∀ b, s.1 = .beeper b → b.playing = true → b.channel = true

variable {before : List HostCall} {a : Audio} {h h' : Host} {s : Audio × Host}

theorem IsTuned.asks (ht : IsTuned before (a, h)) (hasks : h.Asks HostCall.isQuiet h') :
    IsTuned before (a, h') :=
  ⟨ht.sounds.asks hasks, ht.channel⟩

theorem tuned_start (ht : IsTuned before s) : IsTuned before (start s) := by
  obtain ⟨a, h⟩ := s
  cases a with
  | counter t => exact ⟨ht.sounds, by rintro b ⟨⟩⟩
  | beeper b =>
    change IsTuned before (beeper (Beeper.start (b, h)).1, (Beeper.start (b, h)).2)
    obtain ⟨h₁, hasks, -, hsame | hplays⟩ := b.exists_start h
    · rw [hsame]
      exact ht.asks hasks
    · have hsounds : h₁.Sounds before b.playing := ht.sounds.asks hasks
      rw [hplays]
      refine ⟨?_, by rintro _ ⟨⟩ _; rfl⟩
      exact (hsounds.call (c := .playLooped) (by decide)).call (c := .volume b.volume) (by simp)

theorem tuned_stop (ht : IsTuned before s) :
    IsTuned before (stop s) ∧ (stop s).1.isPlaying = false := by
  obtain ⟨a, h⟩ := s
  cases a with
  | counter t => exact ⟨⟨ht.sounds, by rintro b ⟨⟩⟩, rfl⟩
  | beeper b =>
    change IsTuned before (beeper (Beeper.stop (b, h)).1, (Beeper.stop (b, h)).2) ∧
      (Beeper.stop (b, h)).1.playing = false
    unfold Beeper.stop
    dsimp only
    by_cases hplaying : b.playing = true
    · rw [if_pos hplaying, if_pos (ht.channel b rfl hplaying)]
      refine ⟨⟨?_, by rintro _ ⟨⟩ ⟨⟩⟩, rfl⟩
      exact ht.sounds.call (c := .stopChannel) (by decide)
    · rw [if_neg hplaying]
      exact ⟨ht, by simpa using hplaying⟩

/-- Shutting down leaves no tone. -/
theorem tuned_shutdown (ht : IsTuned before s) :
    (shutdown s).2.Sounds before false ∧ (shutdown s).1 = s.1.silenced := by
  obtain ⟨a, h⟩ := s
  cases a with
  | counter t => exact ⟨ht.sounds, rfl⟩
  | beeper b =>
    obtain ⟨hstop, hsilent⟩ := tuned_stop ht
    have hsounds := hstop.sounds
    rw [hsilent] at hsounds
    refine ⟨hsounds, ?_⟩
    change beeper { (Beeper.stop (b, h)).1 with channel := false } = _
    unfold Beeper.stop
    dsimp only
    by_cases hplaying : b.playing = true
    · rw [if_pos hplaying]
      rfl
    · have hoff : b.playing = false := by simpa using hplaying
      rw [if_neg hplaying]
      unfold silenced
      rw [← hoff]

/-! ## On another host -/

/-- The same audio, on hosts that will answer the same about channels. -/
def SameTone (s t : Audio × Host) : Prop := s.1 = t.1 ∧ s.2.channels = t.2.channels

variable {H : Host → Host → Prop} {t : Audio × Host}

theorem sameOn_start (hH : Host.KeptBySound H) (h : Host.SameOn H s t) :
    Host.SameOn H (start s) (start t) := by
  obtain ⟨a, host⟩ := s
  obtain ⟨_, host'⟩ := t
  obtain ⟨rfl, hsame⟩ := h
  replace hsame : H host host' := hsame
  cases a with
  | counter t => exact ⟨rfl, hsame⟩
  | beeper b =>
    change Host.SameOn H (beeper (Beeper.start (b, host)).1, (Beeper.start (b, host)).2)
      (beeper (Beeper.start (b, host')).1, (Beeper.start (b, host')).2)
    unfold Beeper.start
    dsimp only
    split
    · exact ⟨rfl, hsame⟩
    · split
      · exact ⟨rfl, hH.call _ _ _ rfl (hH.call _ _ _ rfl hsame)⟩
      · -- a channel is asked for, and the hosts give the same answer
        have hasked := hH.call _ _ (.findChannel (host'.channels.head?.getD true)) rfl
          (hH.withChannels hsame host'.channels.tail)
        unfold Host.findChannel
        rw [hH.channels hsame]
        dsimp only
        split
        · exact ⟨rfl, hH.call _ _ _ rfl (hH.call _ _ _ rfl hasked)⟩
        · exact ⟨rfl, hasked⟩

theorem sameOn_beeper_stop (hH : Host.KeptByCalls HostCall.isSound H) (b : Beeper)
    {host host' : Host} (hsame : H host host') :
    Host.SameOn H (Beeper.stop (b, host)) (Beeper.stop (b, host')) := by
  unfold Beeper.stop
  dsimp only
  split
  · split
    · exact ⟨rfl, hH _ _ _ rfl hsame⟩
    · exact ⟨rfl, hsame⟩
  · exact ⟨rfl, hsame⟩

theorem sameOn_stop (hH : Host.KeptByCalls HostCall.isSound H) (h : Host.SameOn H s t) :
    Host.SameOn H (stop s) (stop t) := by
  obtain ⟨a, host⟩ := s
  obtain ⟨_, host'⟩ := t
  obtain ⟨rfl, hsame⟩ := h
  cases a with
  | counter t => exact ⟨rfl, hsame⟩
  | beeper b =>
    have hstopped := sameOn_beeper_stop hH b hsame
    exact ⟨congrArg beeper hstopped.1, hstopped.2⟩

theorem sameOn_shutdown (hH : Host.KeptByCalls HostCall.isSound H) (h : Host.SameOn H s t) :
    Host.SameOn H (shutdown s) (shutdown t) := by
  obtain ⟨a, host⟩ := s
  obtain ⟨_, host'⟩ := t
  obtain ⟨rfl, hsame⟩ := h
  cases a with
  | counter t => exact ⟨rfl, hsame⟩
  | beeper b =>
    have hstopped := sameOn_beeper_stop hH b hsame
    exact ⟨congrArg (fun b : Beeper => beeper { b with channel := false }) hstopped.1,
      hstopped.2⟩

theorem keptBySound_channels : Host.KeptBySound fun h h' => h.channels = h'.channels where
  call _ _ _ _ hsame := hsame
  channels hsame := hsame
  withChannels _ _ := rfl

/-! ## Ticks -/

theorem tuned_drive (sound : Int) (ht : IsTuned before s) : IsTuned before (drive sound s) := by
  unfold drive
  split
  · exact tuned_start ht
  · exact (tuned_stop ht).1

theorem sameOn_drive (hH : Host.KeptBySound H) (sound : Int) (h : Host.SameOn H s t) :
    Host.SameOn H (drive sound s) (drive sound t) := by
  unfold drive
  split
  · exact sameOn_start hH h
  · exact sameOn_stop hH.call h

theorem sameTone_drive (sound : Int) (h : SameTone s t) :
    SameTone (drive sound s) (drive sound t) :=
  sameOn_drive (H := fun h h' => h.channels = h'.channels) keptBySound_channels sound h

theorem console_drive (sound : Int) (s : Audio × Host) :
    (drive sound s).2.console = s.2.console :=
  holds_drive (P := fun h => h.console = s.2.console) ⟨fun _ _ _ => id, fun _ _ => id⟩ sound s rfl

end Audio

end Chip8
