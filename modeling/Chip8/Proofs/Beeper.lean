/-
  A beeper and the channels it was given. The requests on a host tell which channels were handed
  out, one after the other, and what was done to each under whatever name it has
  (`ChannelLog.ofCalls`). A beeper that is asked to start, to stop, to shut down and to be readied
  plays from a request to play until it stops or is readied (`Beeper.playsAfter`). As long as it is
  readied only while it does not play, it plays and stops one channel in turn (`Alternates`), so
  that it plays just where a channel is left playing (`channels_of_requests`). Readied while it
  plays, it forgets the channel, and nothing stops it any more (`exists_orphan`).
-/
import Chip8.Proofs.Host

namespace Chip8

/-! ## What is done to channels -/

/-- A channel that is played or stopped, by its name. -/
structure ChannelUse (κ : Type) where
  channel : κ
  plays : Bool

/-- The channels of a mixer: how many were handed out, and what was done to them. -/
structure ChannelLog (κ : Type) where
  granted : Nat := 0
  uses : List (ChannelUse κ) := []

namespace ChannelLog

variable {κ : Type}

/-- After one more request. It is for the channel that was handed out last; the mixer may hand out
a channel more than once, hence the names. -/
def after (names : Nat → κ) (log : ChannelLog κ) : HostCall → ChannelLog κ
  | .findChannel true => { log with granted := log.granted + 1 }
  | .playLooped => { log with uses := log.uses ++ [⟨names log.granted, true⟩] }
  | .stopChannel => { log with uses := log.uses ++ [⟨names log.granted, false⟩] }
  | _ => log

def ofCalls (names : Nat → κ) (calls : List HostCall) : ChannelLog κ :=
  calls.foldl (after names) {}

/-- The channel was played and not stopped since. -/
def IsLeftPlaying (uses : List (ChannelUse κ)) (channel : κ) : Prop :=
  ∃ before after, uses = before ++ ⟨channel, true⟩ :: after ∧ ⟨channel, false⟩ ∉ after

/-- Channels are played and stopped in turn, each of them before the next one; the last one is left
playing, or none is. -/
inductive Alternates : Option κ → List (ChannelUse κ) → Prop
  | nil : Alternates none []
  | play {uses : List (ChannelUse κ)} (channel : κ) (h : Alternates none uses) :
    Alternates (some channel) (uses ++ [⟨channel, true⟩])
  | stop {uses : List (ChannelUse κ)} {channel : κ} (h : Alternates (some channel) uses) :
    Alternates none (uses ++ [⟨channel, false⟩])

variable {playing? : Option κ} {uses : List (ChannelUse κ)}

theorem Alternates.isLeftPlaying_iff (h : Alternates playing? uses) (channel : κ) :
    IsLeftPlaying uses channel ↔ playing? = some channel := by
  induction h generalizing channel with
  | nil =>
    constructor
    · rintro ⟨before, after, hsplit, -⟩
      exact absurd hsplit.symm (by simp)
    · nofun
  | play last h ih =>
    constructor
    · rintro ⟨before, after, hsplit, hafter⟩
      rcases split_of_concat hsplit with ⟨hsame, -, -⟩ | ⟨rest, rfl, huses⟩
      · rw [(ChannelUse.mk.inj hsame).1]
      · cases (ih channel).mp
          ⟨before, rest, huses, fun hmem => hafter (List.mem_append_left _ hmem)⟩
    · rintro ⟨⟩
      exact ⟨_, [], rfl, List.not_mem_nil⟩
  | @stop uses last h ih =>
    constructor
    · rintro ⟨before, after, hsplit, hafter⟩
      rcases split_of_concat hsplit with ⟨hsame, -, -⟩ | ⟨rest, rfl, huses⟩
      · cases hsame
      · cases (ih channel).mp
          ⟨before, rest, huses, fun hmem => hafter (List.mem_append_left _ hmem)⟩
        exact absurd (List.mem_append_right rest List.mem_cons_self) hafter
    · nofun

/-- No channel is played twice without being stopped in between. -/
theorem Alternates.stopped_between (h : Alternates playing? uses) {channel : κ}
    {before between after : List (ChannelUse κ)}
    (hsplit : uses = (before ++ ⟨channel, true⟩ :: between) ++ ⟨channel, true⟩ :: after) :
    ⟨channel, false⟩ ∈ between := by
  induction h generalizing after with
  | nil => exact absurd hsplit.symm (by simp)
  | play last h ih =>
    rcases split_of_concat hsplit with ⟨-, huses, -⟩ | ⟨rest, -, huses⟩
    · by_contra hnone
      cases (h.isLeftPlaying_iff channel).mp ⟨before, between, huses, hnone⟩
    · exact ih huses
  | stop h ih =>
    rcases split_of_concat hsplit with ⟨hsame, -, -⟩ | ⟨rest, -, huses⟩
    · cases hsame
    · exact ih huses

/-- Channels were used in turn, and the one that was handed out last is left playing, or none. -/
def IsInTurn (names : Nat → κ) (on : Bool) (log : ChannelLog κ) : Prop :=
  Alternates (if on then some (names log.granted) else none) log.uses

end ChannelLog

namespace Beeper

/-! ## What can be asked of a beeper -/

inductive Request where
  | powerOn
  | start
  | stop
  | shutdown
deriving DecidableEq, Repr

def Request.act : Request → Act (Beeper × Host) Unit
  | powerOn => Beeper.powerOn
  | start => modify Beeper.start
  | stop => modify Beeper.stop
  | shutdown => modify Beeper.shutdown

/-- The beeper and its host after requests, each of which may fail. -/
def afterAll (requests : List Request) (s : Beeper × Host) : Beeper × Host :=
  requests.foldl (fun s request => stateOf (request.act s)) s

/-- Whether a beeper that plays or does not play takes itself to play after one more request on its
host. A new sound silences it. -/
def playsAfter (on : Bool) : HostCall → Bool
  | .playLooped => true
  | .stopChannel | .makeSound _ => false
  | _ => on

/-- From one state to the other a beeper made some requests, and its flag went along. Where it
plays, it has a channel. -/
structure Moves (s t : Beeper × Host) (made : List HostCall) : Prop where
  calls : t.2.calls.toList = s.2.calls.toList ++ made
  playing : t.1.playing = made.foldl playsAfter s.1.playing
  channel : t.1.playing = true → t.1.channel = true

theorem Moves.refl {s : Beeper × Host} (hs : s.1.playing = true → s.1.channel = true) :
    Moves s s [] :=
  ⟨(List.append_nil _).symm, rfl, hs⟩

theorem Moves.trans {s t u : Beeper × Host} {made made' : List HostCall} (h : Moves s t made)
    (h' : Moves t u made') : Moves s u (made ++ made') :=
  ⟨by rw [h'.calls, h.calls, List.append_assoc], by rw [h'.playing, h.playing, List.foldl_append],
    h'.channel⟩

open ChannelLog

variable {κ : Type} {names : Nat → κ} {s : Beeper × Host}

/-- Starting plays a channel, where the beeper has one or is given one. -/
theorem moves_start (names : Nat → κ) (hs : s.1.playing = true → s.1.channel = true) :
    ∃ made, Moves s (start s) made ∧ ∀ log : ChannelLog κ, IsInTurn names s.1.playing log →
      IsInTurn names (start s).1.playing (made.foldl (after names) log) := by
  obtain ⟨b, h⟩ := s
  cases hidle : b.playing || b.sound.isNone with
  | true =>
    have hstart : start (b, h) = (b, h) := by simp only [start, hidle, if_true]
    rw [hstart]
    exact ⟨[], .refl hs, fun _ hlog => hlog⟩
  | false =>
    obtain ⟨hplaying, -⟩ := Bool.or_eq_false_iff.mp hidle
    cases hchannel : b.channel with
    | true =>
      have hstart : start (b, h) = ({ b with channel := true, playing := true },
          (h.call .playLooped).call (.volume b.volume)) := by
        simp [start, hidle, hchannel]
      rw [hstart]
      refine ⟨[.playLooped, .volume b.volume], ⟨by simp [Host.call], rfl, fun _ => rfl⟩,
        fun log hlog => ?_⟩
      rw [hplaying] at hlog
      exact .play _ hlog
    | false =>
      let asked (found : Bool) : Host :=
        { h with channels := h.channels.tail }.call (.findChannel found)
      cases hfound : h.channels.head?.getD true with
      | false =>
        have hstart : start (b, h) = (b, asked false) := by
          simp [start, hidle, hchannel, Host.findChannel, hfound, asked]
        rw [hstart]
        exact ⟨[.findChannel false], ⟨by simp [Host.call, asked], rfl, hs⟩, fun _ hlog => hlog⟩
      | true =>
        have hstart : start (b, h) = ({ b with channel := true, playing := true },
            ((asked true).call .playLooped).call (.volume b.volume)) := by
          simp [start, hidle, hchannel, Host.findChannel, hfound, asked]
        rw [hstart]
        refine ⟨[.findChannel true, .playLooped, .volume b.volume],
          ⟨by simp [Host.call, asked], rfl, fun _ => rfl⟩, fun log hlog => ?_⟩
        rw [hplaying] at hlog
        exact .play _ hlog

/-- Stopping stops the channel of a beeper that plays. -/
theorem moves_stop (names : Nat → κ) (hs : s.1.playing = true → s.1.channel = true) :
    ∃ made, Moves s (stop s) made ∧ ∀ log : ChannelLog κ, IsInTurn names s.1.playing log →
      IsInTurn names (stop s).1.playing (made.foldl (after names) log) := by
  obtain ⟨b, h⟩ := s
  cases hplaying : b.playing with
  | false =>
    have hstop : stop (b, h) = (b, h) := by simp [stop, hplaying]
    rw [hstop]
    exact ⟨[], .refl hs, fun _ hlog => hplaying ▸ hlog⟩
  | true =>
    have hchannel : b.channel = true := hs hplaying
    have hstop : stop (b, h) = ({ b with playing := false }, h.call .stopChannel) := by
      simp [stop, hplaying, hchannel]
    rw [hstop]
    exact ⟨[.stopChannel], ⟨by simp [Host.call], rfl, nofun⟩, fun log hlog => .stop hlog⟩

theorem not_playing_stop (s : Beeper × Host) : (stop s).1.playing = false := by
  obtain ⟨b, h⟩ := s
  unfold stop
  dsimp only
  split
  · rfl
  · exact Bool.eq_false_iff.mpr ‹_›

theorem moves_shutdown (names : Nat → κ) (hs : s.1.playing = true → s.1.channel = true) :
    ∃ made, Moves s (shutdown s) made ∧ ∀ log : ChannelLog κ, IsInTurn names s.1.playing log →
      IsInTurn names (shutdown s).1.playing (made.foldl (after names) log) := by
  obtain ⟨made, hmoves, hturn⟩ := moves_stop names hs
  have hsilent : (shutdown s).1.playing = false := not_playing_stop s
  refine ⟨made, ⟨hmoves.calls, hmoves.playing, fun hplays => ?_⟩, hturn⟩
  rw [hsilent] at hplays
  cases hplays

/-- The second state is the first one with the beeper readied: it has a new sound, and takes itself
not to play. -/
def IsReadied (s t : Beeper × Host) : Prop :=
  ∃ wave, t.1 = { s.1 with sound := some wave, playing := false } ∧
    t.2.calls.toList = s.2.calls.toList ++ [.makeSound wave]

/-- If readying a beeper fails, it does so before anything is asked for, or at the message about the
rate. -/
theorem endsIn_powerOn (s : Beeper × Host) :
    EndsIn (fun _ t => IsReadied s t) (fun _ t => t = s ∨ IsReadied s t) (powerOn s) := by
  obtain ⟨b, h⟩ := s
  unfold powerOn
  rw [Act.get_bind]
  dsimp only
  split
  · exact .inl rfl
  · have hkept {α : Type} (r : Except Fault α) :
        EndsIn (fun _ t => t = (b, h)) (fun _ t => t = (b, h) ∨ IsReadied (b, h) t)
          (Act.ofExcept r (b, h)) :=
      (endsIn_ofExcept r _).mono (fun _ _ h => h.2) fun _ _ h => .inl h.2
    refine (hkept _).bind fun rate _ hs => ?_
    subst hs
    refine (hkept _).bind fun wave _ hs => ?_
    subst hs
    change EndsIn _ _ (logRate rate
      ({ b with sound := some wave, playing := false }, h.call (.makeSound wave)))
    rw [logRate_eq]
    have hready (t : Beeper × Host) (ht : t.1 = { b with sound := some wave, playing := false } ∧
        t.2.calls = (h.call (.makeSound wave)).calls) : IsReadied (b, h) t :=
      ⟨wave, ht.1, by rw [ht.2]; exact Array.toList_push⟩
    exact (Host.endsIn_tell ..).mono (fun _ => hready) fun _ t ht => .inr (hready t ht)

/-- Readying a beeper that does not play touches no channel. -/
theorem moves_powerOn (names : Nat → κ) (hs : s.1.playing = true → s.1.channel = true) :
    ∃ made, Moves s (stateOf (powerOn s)) made ∧ (s.1.playing = false →
      ∀ log : ChannelLog κ, IsInTurn names s.1.playing log →
        IsInTurn names (stateOf (powerOn s)).1.playing (made.foldl (after names) log)) := by
  have hend : stateOf (powerOn s) = s ∨ IsReadied s (stateOf (powerOn s)) := by
    cases hpower : powerOn s with
    | ok a t => exact .inr ((endsIn_powerOn s).of_ok hpower)
    | error fault t => exact (endsIn_powerOn s).of_error hpower
  rcases hend with hsame | ⟨wave, hready, hcalls⟩
  · rw [hsame]
    exact ⟨[], .refl hs, fun _ _ hlog => hlog⟩
  · have hsilent : (stateOf (powerOn s)).1.playing = false := by rw [hready]
    refine ⟨[.makeSound wave], ⟨hcalls, hsilent, fun hplays => ?_⟩, fun hidle _ hlog => ?_⟩
    · rw [hsilent] at hplays
      cases hplays
    · rw [hidle] at hlog
      rw [hsilent]
      exact hlog

/-! ## Requests one after the other -/

/-- No request to ready the beeper comes while it plays. -/
def ReadiesIdle (requests : List Request) (s : Beeper × Host) : Prop :=
  ∀ front rest, requests = front ++ .powerOn :: rest → (afterAll front s).1.playing = false

theorem moves_request (names : Nat → κ) (request : Request)
    (hs : s.1.playing = true → s.1.channel = true) :
    ∃ made, Moves s (stateOf (request.act s)) made ∧
      ((request = .powerOn → s.1.playing = false) →
        ∀ log : ChannelLog κ, IsInTurn names s.1.playing log →
          IsInTurn names (stateOf (request.act s)).1.playing (made.foldl (after names) log)) := by
  cases request with
  | powerOn =>
    obtain ⟨made, hmoves, hturn⟩ := moves_powerOn names hs
    exact ⟨made, hmoves, fun hidle => hturn (hidle rfl)⟩
  | start =>
    obtain ⟨made, hmoves, hturn⟩ := moves_start names hs
    exact ⟨made, hmoves, fun _ => hturn⟩
  | stop =>
    obtain ⟨made, hmoves, hturn⟩ := moves_stop names hs
    exact ⟨made, hmoves, fun _ => hturn⟩
  | shutdown =>
    obtain ⟨made, hmoves, hturn⟩ := moves_shutdown names hs
    exact ⟨made, hmoves, fun _ => hturn⟩

theorem moves_afterAll (names : Nat → κ) (requests : List Request)
    (hs : s.1.playing = true → s.1.channel = true) :
    ∃ made, Moves s (afterAll requests s) made ∧ (ReadiesIdle requests s →
      ∀ log : ChannelLog κ, IsInTurn names s.1.playing log →
        IsInTurn names (afterAll requests s).1.playing (made.foldl (after names) log)) := by
  induction requests generalizing s with
  | nil => exact ⟨[], .refl hs, fun _ _ hlog => hlog⟩
  | cons request rest ih =>
    obtain ⟨made, hmoves, hturn⟩ := moves_request names request hs
    obtain ⟨made', hmoves', hturn'⟩ := ih hmoves.channel
    refine ⟨made ++ made', hmoves.trans hmoves', fun hidle log hlog => ?_⟩
    rw [List.foldl_append]
    refine hturn' (fun front behind hsplit => ?_) _ (hturn (fun hready => ?_) log hlog)
    · exact hidle (request :: front) behind (congrArg (request :: ·) hsplit)
    · exact hidle [] rest (congrArg (· :: rest) hready)

end Beeper

open Beeper ChannelLog

/-- A new beeper, and any requests, each of which may fail. It takes itself to play from a request
to play until a request to stop or a new sound. If it is not readied while it plays, it plays just
where a channel is left playing, under whatever names the channels have; stopped or shut down, it
leaves none; and no channel is played twice without being stopped in between. -/
theorem channels_of_requests {frequency volume : Number} {b : Beeper}
    (hb : Beeper.ofTone frequency volume = .ok b) (h : Host) (requests : List Request) {κ : Type}
    (names : Nat → κ) :
    let s := afterAll requests (b, h)
    ∃ made, s.2.calls.toList = h.calls.toList ++ made ∧
      s.1.playing = made.foldl playsAfter false ∧
      (ReadiesIdle requests (b, h) →
        let uses := (ChannelLog.ofCalls names made).uses
        (s.1.playing = true ↔ ∃ channel, IsLeftPlaying uses channel) ∧
        (∀ front, requests = front ++ [.stop] ∨ requests = front ++ [.shutdown] →
          ∀ channel, ¬ IsLeftPlaying uses channel) ∧
        ∀ channel before between after,
          uses = (before ++ ⟨channel, true⟩ :: between) ++ ⟨channel, true⟩ :: after →
            ⟨channel, false⟩ ∈ between) := by
  intro s
  have hsilent : b.playing = false := by
    unfold ofTone at hb
    split at hb
    · cases hb
    · cases hb
      rfl
  have hchannel : b.playing = true → b.channel = true := by
    rw [hsilent]
    nofun
  obtain ⟨made, hmoves, hturn⟩ := moves_afterAll (s := (b, h)) names requests hchannel
  refine ⟨made, hmoves.calls, hsilent ▸ hmoves.playing, fun hidle => ?_⟩
  intro uses
  have hstart : IsInTurn names b.playing {} := by
    rw [hsilent]
    exact .nil
  have hend : Alternates (if s.1.playing then some (names (ofCalls names made).granted) else none)
      uses := hturn hidle _ hstart
  have hplays : s.1.playing = true ↔ ∃ channel, IsLeftPlaying uses channel := by
    simp only [hend.isLeftPlaying_iff]
    cases s.1.playing <;> simp
  refine ⟨hplays, fun front hlast channel hleft => ?_, fun _ _ _ _ => hend.stopped_between⟩
  have hstopped : s.1.playing = false := by
    rcases hlast with rfl | rfl
    · simp only [s, afterAll, List.foldl_append]
      exact not_playing_stop _
    · simp only [s, afterAll, List.foldl_append]
      exact not_playing_stop _
  rw [hstopped] at hplays
  exact Bool.false_ne_true (hplays.mpr ⟨channel, hleft⟩)

/-- The mixer has no channel at first, and then one. Shut down and started again, the beeper is
given another one, which is left playing. -/
theorem channels_of_requests_again :
    ∃ (b : Beeper) (requests : List Request) (made : List HostCall),
    Beeper.ofTone standardFrequency standardVolume = .ok b ∧
    requests = [.powerOn, .start, .start, .stop, .shutdown, .start] ∧
    ReadiesIdle requests (b, { channels := [false] }) ∧
    (afterAll requests (b, { channels := [false] })).2.calls.toList = made ∧
    (afterAll requests (b, { channels := [false] })).1.playing = true ∧
    ∃ channel, IsLeftPlaying (ChannelLog.ofCalls id made).uses channel := by
  let requests : List Request := [.powerOn, .start, .start, .stop, .shutdown, .start]
  have hidle : ReadiesIdle requests (standard, { channels := [false] }) := by
    intro front rest hsplit
    cases front with
    | nil => rfl
    | cons request front =>
      -- it is readied once only
      have hmem : Request.powerOn ∈ [.start, .start, .stop, .shutdown, Request.start] := by
        rw [(List.cons.inj hsplit).2]
        exact List.mem_append_right front List.mem_cons_self
      exact absurd hmem (by decide)
  have htone : Beeper.ofTone standardFrequency standardVolume = .ok standard := rfl
  obtain ⟨made, hcalls, -, hturn⟩ :=
    channels_of_requests htone { channels := [false] } requests (id : Nat → Nat)
  have hplays : (afterAll requests (standard, { channels := [false] })).1.playing = true := rfl
  exact ⟨standard, requests, made, htone, rfl, hidle, hcalls, hplays, (hturn hidle).1.mp hplays⟩

/-- A beeper that is readied while it plays takes itself not to play, and stopping it leaves its
channel playing. -/
theorem exists_orphan : ∃ made : List HostCall,
    Beeper.ofTone standardFrequency standardVolume = .ok standard ∧
    (afterAll [.powerOn, .start, .powerOn, .stop] (standard, {})).2.calls.toList = made ∧
    (afterAll [.powerOn, .start, .powerOn, .stop] (standard, {})).1.playing = false ∧
    IsLeftPlaying (ChannelLog.ofCalls id made).uses 1 :=
  ⟨_, rfl, rfl, rfl, [], [], rfl, List.not_mem_nil⟩

end Chip8
