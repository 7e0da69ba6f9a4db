/-
  What is asked of the host. An act leaves the requests that were made before as they are and makes
  new ones behind them; `Host.Asks kind` says that all of these are of one kind. Printing asks for
  nothing (`asks_log`), and the audio asks for sounds only (`Audio.holds_drive` with
  `Host.keptByTone_asks`, `Audio.asks_powerOn`). A message that may fail to be made is told where
  somebody wants to know (`Host.tell`), and related hosts are told alike (`Host.matching_tell`).
-/
import Chip8.Audio
import Chip8.Keyboard
import Chip8.Proofs.Printing

namespace Chip8

/-- Where a list with one more item at its end can be split: before that item, or earlier. -/
theorem split_of_concat {α : Type} {items before after : List α} {a b : α}
    (h : items ++ [a] = before ++ b :: after) :
    (a = b ∧ items = before ∧ after = []) ∨
      ∃ rest, after = rest ++ [a] ∧ items = before ++ b :: rest := by
  rcases List.eq_nil_or_concat after with rfl | ⟨rest, last, rfl⟩
  · obtain ⟨hitems, hlast⟩ := List.append_inj' h rfl
    exact .inl ⟨List.singleton_inj.mp hlast, hitems, rfl⟩
  · rw [List.concat_eq_append] at h ⊢
    rw [← List.cons_append, ← List.append_assoc] at h
    obtain ⟨hitems, hlast⟩ := List.append_inj' h rfl
    exact .inr ⟨rest, by rw [List.singleton_inj.mp hlast], hitems⟩

namespace HostCall

/-- A request about what is on the window, or on a display that records. -/
def isPainting : HostCall → Bool
  | openWindow .. | fill .. | displayCleared | pixelRead .. | pixelDrawn .. => true
  | _ => false

/-- A request of a display, which may also show what was painted. -/
def isShowing : HostCall → Bool
  | flip => true
  | c => c.isPainting

/-- A request about the tone. -/
def isSound : HostCall → Bool
  | makeSound .. | findChannel .. | playLooped | volume .. | stopChannel => true
  | _ => false

/-- A request that neither starts nor stops the tone, and does not close the host. -/
def isQuiet : HostCall → Bool
  | playLooped | stopChannel | quit => false
  | _ => true

theorem not_isPainting_of_isSound {c : HostCall} (h : c.isSound = true) : c.isPainting = false := by
  cases c <;> first | rfl | cases h

end HostCall

namespace Host

/-- Asking both hosts for the same keeps the relation, if it is of the kind. -/
def KeptByCalls (kind : HostCall → Bool) (H : Host → Host → Prop) : Prop :=
  ∀ h h' c, kind c = true → H h h' → H (h.call c) (h'.call c)

/-- The relation knows which channels are free, and is kept when both hosts are asked for the same
sounds or go on with the same channels. -/
structure KeptBySound (H : Host → Host → Prop) : Prop where
  call : KeptByCalls HostCall.isSound H
  channels : ∀ {h h'}, H h h' → h.channels = h'.channels
  withChannels : ∀ {h h'}, H h h' → ∀ channels, H { h with channels } { h' with channels }

/-- Properties of a host that asking for sounds keeps, whichever channels are left. -/
structure KeptByTone (P : Host → Prop) : Prop where
  call : ∀ h c, HostCall.isSound c = true → P h → P (h.call c)
  withChannels : ∀ h channels, P h → P { h with channels }

/-- The same part of two machines, whose hosts are related. -/
def SameOn {σ : Type} (H : Host → Host → Prop) (s t : σ × Host) : Prop := s.1 = t.1 ∧ H s.2 t.2

/-- The second host is the first one with more requests, all of the kind. Whatever else the hosts
have may differ. -/
def Asks (kind : HostCall → Bool) (h h' : Host) : Prop :=
  ∃ added, h'.calls.toList = h.calls.toList ++ added ∧ ∀ c ∈ added, kind c = true

variable {kind kind' : HostCall → Bool} {h h' h'' : Host}

theorem Asks.refl (kind : HostCall → Bool) (h : Host) : h.Asks kind h := ⟨[], by simp⟩

theorem Asks.of_calls_eq (hcalls : h'.calls = h.calls) : h.Asks kind h' := ⟨[], by simp [hcalls]⟩

theorem Asks.trans (hasks : h.Asks kind h') (hasks' : h'.Asks kind h'') : h.Asks kind h'' := by
  obtain ⟨added, hcalls, hkind⟩ := hasks
  obtain ⟨added', hcalls', hkind'⟩ := hasks'
  refine ⟨added ++ added', by rw [hcalls', hcalls, List.append_assoc], fun c hc => ?_⟩
  rcases List.mem_append.mp hc with hc | hc
  · exact hkind c hc
  · exact hkind' c hc

theorem asks_call {c : HostCall} (h : Host) (hc : kind c = true) : h.Asks kind (h.call c) :=
  ⟨[c], by simp [call], by simpa using hc⟩

theorem asks_log (kind : HostCall → Bool) (h : Host) (category message : Text) :
    h.Asks kind (h.logged category message) :=
  .of_calls_eq (h.calls_logged category message)

/-- Asking for sounds keeps what was asked for since a host. -/
theorem keptByTone_asks (h : Host) : KeptByTone (h.Asks HostCall.isSound) where
  call h' _ hc hasks := hasks.trans (h'.asks_call hc)
  withChannels _ _ hasks := hasks.trans (.of_calls_eq rfl)

theorem keptByTone_sameOutput (h : Host) : KeptByTone h.SameOutput where
  call _ _ _ hsame := hsame
  withChannels _ _ hsame := hsame

/-! ## Messages that may fail to be made -/

variable {σ : Type}

/-- Prints a message where its category is on. -/
def tell (category : String) (message : Except Fault String) (s : σ × Host) :
    EStateM.Result Fault (σ × Host) PUnit :=
  if s.2.isLogging category then
    match message with
    | .ok text => .ok ⟨⟩ (s.1, s.2.logged category text)
    | .error fault => .error fault s
  else .ok ⟨⟩ s

theorem tell_ok (category text : String) (s : σ × Host) :
    tell category (.ok text) s = .ok ⟨⟩ (s.1, s.2.logged category text) := by
  unfold tell
  split
  · rfl
  · rename_i hsilent
    rw [logged_eq, if_neg fun hprinted => hsilent hprinted.1]

theorem fst_tell (category : String) (message : Except Fault String) (s : σ × Host) :
    (stateOf (tell category message s)).1 = s.1 := by
  cases message with
  | ok text => rw [tell_ok]; rfl
  | error fault => unfold tell; split <;> rfl

theorem holds_tell {P : Host → Prop} {category : String} (message : Except Fault String)
    (hlog : ∀ h text, P h → P (h.logged category text)) {s : σ × Host} (hs : P s.2) :
    P (stateOf (tell category message s)).2 := by
  cases message with
  | ok text => rw [tell_ok]; exact hlog s.2 text hs
  | error fault => unfold tell; split <;> exact hs

/-- Telling a message asks for nothing, whether the message can be made or not. -/
theorem endsIn_tell (category : String) (message : Except Fault String) (s : σ × Host) :
    let untouched (t : σ × Host) : Prop := t.1 = s.1 ∧ t.2.calls = s.2.calls
    EndsIn (fun _ => untouched) (fun _ => untouched) (tell category message s) := by
  have hcalls : (stateOf (tell category message s)).2.calls = s.2.calls :=
    holds_tell (P := fun h => h.calls = s.2.calls) message
      (fun h text hh => (h.calls_logged category text).trans hh) rfl
  have hsame := fst_tell category message s
  cases htell : tell category message s with
  | ok a t =>
    rw [htell] at hcalls hsame
    exact ⟨hsame, hcalls⟩
  | error fault t =>
    rw [htell] at hcalls hsame
    exact ⟨hsame, hcalls⟩

/-- Two hosts are told alike, unless only one of them wants to know what cannot be told. -/
theorem matching_tell {H : Host → Host → Prop} {category : String}
    {message : Except Fault String}
    (hlog : ∀ {h h'} text, H h h' → H (h.logged category text) (h'.logged category text))
    {s t : σ × Host}
    (hst : SameOn H s t) (htold : s.2.isLogging category = t.2.isLogging category ∨
      ∃ text, message = .ok text) :
    Matching (SameOn H) (tell category message s) (tell category message t) := by
  cases message with
  | ok text =>
    rw [tell_ok, tell_ok]
    exact .ok ⟨hst.1, hlog text hst.2⟩
  | error fault =>
    rcases htold with hsame | ⟨text, htext⟩
    · unfold tell
      rw [hsame]
      split
      · exact .error hst
      · exact .ok hst
    · cases htext

end Host

namespace Beeper

/-- What asking for sounds keeps is kept by playing. -/
theorem holds_start {P : Host → Prop} (hP : Host.KeptByTone P) (s : Beeper × Host) (hs : P s.2) :
    P (start s).2 := by
  obtain ⟨b, h⟩ := s
  have hfound : P (if b.channel then (true, h) else h.findChannel).2 := by
    split
    · exact hs
    · exact hP.call _ (.findChannel (h.channels.head?.getD true)) rfl
        (hP.withChannels h h.channels.tail hs)
  unfold start
  dsimp only
  generalize (if b.channel then (true, h) else h.findChannel) = found at hfound
  split
  · exact hs
  · split
    · exact hP.call _ _ rfl (hP.call _ _ rfl hfound)
    · exact hfound

theorem holds_stop {P : Host → Prop} (hP : Host.KeptByTone P) (s : Beeper × Host) (hs : P s.2) :
    P (stop s).2 := by
  obtain ⟨b, h⟩ := s
  unfold stop
  dsimp only
  split
  · split
    · exact hP.call _ _ rfl hs
    · exact hs
  · exact hs

theorem logRate_eq (rate : Number) (s : Beeper × Host) :
    logRate rate s = Host.tell "audio" (s.1.rateText rate) s := by
  obtain ⟨b, h⟩ := s
  unfold logRate Host.tell
  rw [Act.get_bind]
  dsimp only
  split
  · cases b.rateText rate <;> rfl
  · rfl

/-- What is left of the host when a beeper was readied. -/
theorem holds_powerOn {P : Host → Prop}
    (hlog : ∀ h category message, P h → P (h.logged category message))
    (hmake : ∀ h wave, P h → P (h.call (.makeSound wave))) (s : Beeper × Host) (hs : P s.2) :
    P (stateOf (powerOn s)).2 := by
  let kept (t : Beeper × Host) : Prop := P t.2
  have hrate (rate : Number) : Act.Keeps kept (logRate rate) := by
    intro t ht
    rw [logRate_eq]
    exact Host.holds_tell _ (fun h => hlog h "audio") ht
  unfold powerOn
  rw [Act.get_bind]
  dsimp only
  split
  · exact hs
  · refine (?_ : Act.Keeps kept _) s hs
    refine Act.keeps_bind (Act.keeps_ofExcept _) fun rate => ?_
    refine Act.keeps_bind (Act.keeps_ofExcept _) fun wave => ?_
    exact Act.keeps_bind (Act.keeps_set (hmake s.2 wave hs)) fun _ => hrate rate

/-- A beeper is readied alike on two hosts that answer the same, unless it could not tell the rate
of its wave and only one of the hosts wants to know. -/
theorem matching_powerOn {H : Host → Host → Prop}
    (hmake : ∀ {h h'} wave, H h h' → H (h.call (.makeSound wave)) (h'.call (.makeSound wave)))
    (hlog : ∀ {h h'} text, H h h' → H (h.logged "audio" text) (h'.logged "audio" text))
    {b : Beeper} {h h' : Host} (hhosts : H h h') (htoolkit : h.toolkit = h'.toolkit)
    (hmixer : h.mixerRate = h'.mixerRate)
    (htold : h.isLogging "audio" = h'.isLogging "audio" ∨ ∀ rate wave,
      SquareWave.ofFrequency rate b.frequency = .ok wave → ∃ text, b.rateText rate = .ok text) :
    Matching (Host.SameOn H) (powerOn (b, h)) (powerOn (b, h')) := by
  unfold powerOn
  rw [Act.get_bind, Act.get_bind]
  dsimp only
  rw [htoolkit, hmixer]
  split
  · exact .error ⟨rfl, hhosts⟩
  · have hstart : Host.SameOn H (b, h) (b, h') := ⟨rfl, hhosts⟩
    refine (Act.agree_ofExcept _ _ _ hstart).bind fun rate _ _ hst => ?_
    cases hwave : SquareWave.ofFrequency rate b.frequency with
    | error fault => exact .error hst
    | ok wave =>
      let b₁ : Beeper := { b with sound := some wave, playing := false }
      change Matching (Host.SameOn H) (logRate rate (b₁, h.call (.makeSound wave)))
        (logRate rate (b₁, h'.call (.makeSound wave)))
      rw [logRate_eq, logRate_eq]
      exact Host.matching_tell hlog ⟨rfl, hmake wave hhosts⟩
        (htold.imp_right fun htold => htold rate wave hwave)

end Beeper

namespace Audio

theorem holds_start {P : Host → Prop} (hP : Host.KeptByTone P) (s : Audio × Host) (hs : P s.2) :
    P (start s).2 := by
  obtain ⟨a, h⟩ := s
  cases a with
  | counter t => exact hs
  | beeper b => exact Beeper.holds_start hP (b, h) hs

theorem holds_stop {P : Host → Prop} (hP : Host.KeptByTone P) (s : Audio × Host) (hs : P s.2) :
    P (stop s).2 := by
  obtain ⟨a, h⟩ := s
  cases a with
  | counter t => exact hs
  | beeper b => exact Beeper.holds_stop hP (b, h) hs

/-- What a tick does with the audio. -/
def drive (sound : Int) (s : Audio × Host) : Audio × Host :=
  if 0 < sound then start s else stop s

theorem holds_drive {P : Host → Prop} (hP : Host.KeptByTone P) (sound : Int) (s : Audio × Host)
    (hs : P s.2) : P (drive sound s).2 := by
  unfold drive
  split
  · exact holds_start hP s hs
  · exact holds_stop hP s hs

/-- What is left of the host when an audio was readied. -/
theorem holds_powerOn {P : Host → Prop}
    (hlog : ∀ h category message, P h → P (h.logged category message))
    (hmake : ∀ h wave, P h → P (h.call (.makeSound wave))) (s : Audio × Host) (hs : P s.2) :
    P (stateOf (powerOn s)).2 := by
  obtain ⟨a, h⟩ := s
  cases a with
  | counter t => exact hs
  | beeper b =>
    have hleft := Beeper.holds_powerOn hlog hmake (b, h) hs
    unfold powerOn
    dsimp only
    rwa [stateOf_resultWithin]

theorem asks_powerOn (s : Audio × Host) : s.2.Asks HostCall.isSound (stateOf (powerOn s)).2 :=
  holds_powerOn (fun h _ _ hasks => hasks.trans (h.asks_log _ _ _))
    (fun h _ hasks => hasks.trans (h.asks_call rfl)) s (.refl _ _)

end Audio

namespace Keypad

variable {name : Text} {h h' : Host} {pad : Keypad}

/-- What a press tells the host can be told: only the name of no key may be refused. -/
def CanTellPress (name : Text) (h : Host) : Prop :=
  PadKey.ofName? name = none → h.CanTell "input" (unmappedText name)

/-- Two hosts hear of a press alike: what one refuses the other refuses, or both can be told. -/
def HeardAlike (name : Text) (h h' : Host) : Prop :=
  (h.outlet = h'.outlet ∧ h.isLogging "input" = h'.isLogging "input") ∨
    (CanTellPress name h ∧ CanTellPress name h')

theorem canTellPress_congr (hsame : h.SameOutput h') : CanTellPress name h ↔ CanTellPress name h' :=
  imp_congr_right fun _ => hsame.canTell_iff

theorem HeardAlike.of_sameOutput (hsame : h.SameOutput h') : HeardAlike name h h' :=
  .inl ⟨hsame.2, congrArg (·.isOn "input") hsame.1⟩

theorem HeardAlike.congr {k k' : Host} (hheard : HeardAlike name h h') (hsame : h.SameOutput k)
    (hsame' : h'.SameOutput k') : HeardAlike name k k' := by
  refine hheard.imp (fun ⟨houtlet, hlogging⟩ => ?_) fun ⟨hcan, hcan'⟩ =>
    ⟨(canTellPress_congr hsame).mp hcan, (canTellPress_congr hsame').mp hcan'⟩
  rw [Host.isLogging, Host.isLogging] at hlogging ⊢
  rw [← hsame.1, ← hsame.2, ← hsame'.1, ← hsame'.2]
  exact ⟨houtlet, hlogging⟩

theorem press_of_unmapped (hname : PadKey.ofName? name = none) : press name (pad, h) =
    resultWithin (pad, ·) (Host.tryLog "input" (unmappedText name) h) := by
  simp only [press, hname, Host.beside_eq]

theorem press_of_mapped {k : PadKey} (hname : PadKey.ofName? name = some k) : press name (pad, h) =
    .ok () (⟨k.code, pad.held.erase k ++ [k]⟩, h.log "input" (keyText "press" k k.code)) := by
  simp only [press, hname]
  rfl

/-- What becomes of the keypad does not depend on the host. -/
theorem fst_press (name : Text) (pad : Keypad) (h h' : Host) :
    (stateOf (press name (pad, h))).1 = (stateOf (press name (pad, h'))).1 := by
  cases hname : PadKey.ofName? name with
  | none =>
    rw [press_of_unmapped hname, press_of_unmapped hname, stateOf_resultWithin,
      stateOf_resultWithin]
  | some k =>
    rw [press_of_mapped hname, press_of_mapped hname]
    rfl

theorem answerOf_press (hheard : HeardAlike name h h') (pad : Keypad) :
    answerOf (press name (pad, h)) = answerOf (press name (pad, h')) := by
  cases hname : PadKey.ofName? name with
  | none =>
    rw [press_of_unmapped hname, press_of_unmapped hname, answerOf_resultWithin,
      answerOf_resultWithin]
    rcases hheard with ⟨houtlet, hlogging⟩ | ⟨hcan, hcan'⟩
    · exact Host.answerOf_tryLog_congr houtlet hlogging
    · rw [Host.tryLog_of_canTell (hcan hname), Host.tryLog_of_canTell (hcan' hname)]
      rfl
  | some k =>
    rw [press_of_mapped hname, press_of_mapped hname]
    rfl

theorem fst_release (name : Text) (pad : Keypad) (h h' : Host) :
    (release name (pad, h)).1 = (release name (pad, h')).1 := by
  unfold release
  cases PadKey.ofName? name with
  | none => rfl
  | some k =>
    dsimp only
    split <;> rfl

end Keypad

namespace Keyboard

/-- Where there is no keypad, nothing is printed. -/
theorem exists_logged_of_onKeypad {part : String} {act : Act (Keypad × Host) Unit}
    (h : ∀ s, (stateOf (act s)).2 = s.2 ∨
      ∃ category message, (stateOf (act s)).2 = s.2.logged category message)
    (s : Keyboard × Host) : (stateOf (onKeypad part act s)).2 = s.2 ∨
      ∃ category message, (stateOf (onKeypad part act s)).2 = s.2.logged category message := by
  obtain ⟨k, host⟩ := s
  cases k with
  | latch key => exact Or.inl rfl
  | headless key => exact Or.inl rfl
  | keypad pad =>
    rw [onKeypad, stateOf_resultWithin]
    exact h (pad, host)

/-- Keys from the host print a message at most. -/
theorem exists_logged_of_press (name : Text) (s : Keyboard × Host) :
    (stateOf (press name s)).2 = s.2 ∨
      ∃ category message, (stateOf (press name s)).2 = s.2.logged category message := by
  refine exists_logged_of_onKeypad (fun s => Or.inr ?_) s
  cases hname : PadKey.ofName? name with
  | none =>
    rw [Keypad.press_of_unmapped hname, stateOf_resultWithin, Host.stateOf_tryLog]
    exact ⟨_, _, rfl⟩
  | some k =>
    rw [Keypad.press_of_mapped hname]
    exact ⟨_, _, rfl⟩

theorem exists_logged_of_release (name : Text) (s : Keyboard × Host) :
    (stateOf (release name s)).2 = s.2 ∨
      ∃ category message, (stateOf (release name s)).2 = s.2.logged category message := by
  refine exists_logged_of_onKeypad (fun s => ?_) s
  change (Keypad.release name s).2 = s.2 ∨
    ∃ category message, (Keypad.release name s).2 = s.2.logged category message
  unfold Keypad.release
  cases PadKey.ofName? name with
  | none => exact Or.inl rfl
  | some k =>
    dsimp only
    split
    · exact Or.inr ⟨_, _, rfl⟩
    · exact Or.inl rfl

/-- What becomes of the keyboard does not depend on the host. -/
theorem fst_onKeypad {part : String} {act : Act (Keypad × Host) Unit} {h h' : Host}
    (hact : ∀ pad, (stateOf (act (pad, h))).1 = (stateOf (act (pad, h'))).1) (k : Keyboard) :
    (stateOf (onKeypad part act (k, h))).1 = (stateOf (onKeypad part act (k, h'))).1 := by
  cases k with
  | latch key => rfl
  | headless key => rfl
  | keypad pad =>
    rw [onKeypad, stateOf_resultWithin, onKeypad, stateOf_resultWithin]
    exact congrArg keypad (hact pad)

theorem answerOf_onKeypad {part : String} {act : Act (Keypad × Host) Unit} {h h' : Host}
    (hact : ∀ pad, answerOf (act (pad, h)) = answerOf (act (pad, h'))) (k : Keyboard) :
    answerOf (onKeypad part act (k, h)) = answerOf (onKeypad part act (k, h')) := by
  cases k with
  | latch key => rfl
  | headless key => rfl
  | keypad pad =>
    rw [onKeypad, answerOf_resultWithin, onKeypad, answerOf_resultWithin]
    exact hact pad

theorem fst_press (name : Text) (k : Keyboard) (h h' : Host) :
    (stateOf (press name (k, h))).1 = (stateOf (press name (k, h'))).1 :=
  fst_onKeypad (fun pad => Keypad.fst_press name pad h h') k

/-- A host key that stands for no key does nothing to the keyboard. -/
theorem fst_press_of_unmapped {name : Text} (hname : PadKey.ofName? name = none)
    (s : Keyboard × Host) : (stateOf (press name s)).1 = s.1 := by
  obtain ⟨k, host⟩ := s
  cases k with
  | latch key | headless key => rfl
  | keypad pad =>
    rw [press, onKeypad, Keypad.press_of_unmapped hname, stateOf_resultWithin,
      stateOf_resultWithin]

theorem fst_release_of_unmapped {name : Text} (hname : PadKey.ofName? name = none)
    (s : Keyboard × Host) : (stateOf (release name s)).1 = s.1 := by
  obtain ⟨k, host⟩ := s
  cases k with
  | latch key | headless key => rfl
  | keypad pad =>
    rw [release, onKeypad, stateOf_resultWithin]
    change keypad (Keypad.release name (pad, host)).1 = keypad pad
    unfold Keypad.release
    rw [hname]

/-- A press is answered alike on hosts that hear of it alike. -/
theorem matching_press {name : Text} {h h' : Host} (hheard : Keypad.HeardAlike name h h')
    (k : Keyboard) : Matching (fun s t : Keyboard × Host => s.1 = t.1) (press name (k, h))
      (press name (k, h')) :=
  Matching.iff.mpr ⟨answerOf_onKeypad (Keypad.answerOf_press hheard) k, fst_press name k h h'⟩

/-- A press that can be told succeeds on a keypad. -/
theorem exists_press_of_canTellPress {name : Text} {h : Host}
    (hcan : Keypad.CanTellPress name h) (pad : Keypad) :
    ∃ pad' h', press name (keypad pad, h) = .ok () (keypad pad', h') := by
  rw [press, onKeypad]
  cases hname : PadKey.ofName? name with
  | none =>
    rw [Keypad.press_of_unmapped hname, Host.tryLog_of_canTell (hcan hname)]
    exact ⟨_, _, rfl⟩
  | some k =>
    rw [Keypad.press_of_mapped hname]
    exact ⟨_, _, rfl⟩

/-- A release is answered alike on any two hosts. -/
theorem matching_release (name : Text) (k : Keyboard) (h h' : Host) :
    Matching (fun s t : Keyboard × Host => s.1 = t.1) (release name (k, h))
      (release name (k, h')) := by
  let act : Act (Keypad × Host) Unit := modify (Keypad.release name)
  have hanswer (pad : Keypad) : answerOf (act (pad, h)) = answerOf (act (pad, h')) := rfl
  have hstate (pad : Keypad) : (stateOf (act (pad, h))).1 = (stateOf (act (pad, h'))).1 :=
    Keypad.fst_release name pad h h'
  exact Matching.iff.mpr ⟨answerOf_onKeypad hanswer k, fst_onKeypad hstate k⟩

end Keyboard

end Chip8
